import TriggerFlow.Number.Decimal

/-! # Rounding to binary64

The code nearest to a ratio depends on the ratio alone (`codeOfRatio_congr`), and the code nearest to
the magnitude of a code is that code (`codeOfRatio_magnitude`).  So a decimal is read as the same
number in every notation (`toBinary64_shift`), and the shortest decimal of a number reads back as that
number (`toBinary64_shortest`). -/

namespace TriggerFlow

namespace Binary64

/-! ### Ratios -/

theorem roundHalfEven_mul (num den : Nat) {k : Nat} (hk : 0 < k) :
    roundHalfEven (num * k) (den * k) = roundHalfEven num den := by
  have hlt : 2 * (num % den * k) < den * k ↔ 2 * (num % den) < den := by
    rw [← Nat.mul_assoc, Nat.mul_lt_mul_right hk]
  have heq : 2 * (num % den * k) = den * k ↔ 2 * (num % den) = den := by
    rw [← Nat.mul_assoc, Nat.mul_left_inj (by omega)]
  have hbeq : (2 * (num % den * k) == den * k) = (2 * (num % den) == den) := by
    rw [Bool.eq_iff_iff, beq_iff_eq, beq_iff_eq, heq]
  simp only [roundHalfEven, Nat.mul_div_mul_right _ _ hk, Nat.mul_mod_mul_right, hlt, hbeq]

theorem codeOfRatio_mul (num den : Nat) {k : Nat} (hk : 0 < k) :
    codeOfRatio (num * k) (den * k) = codeOfRatio num den := by
  simp only [codeOfRatio, Nat.mul_div_mul_right _ _ hk]
  rw [Nat.mul_right_comm, roundHalfEven_mul _ _ hk]

/-- The nearest code depends on the ratio alone. -/
theorem codeOfRatio_congr {num den num' den' : Nat} (hd : 0 < den) (hd' : 0 < den')
    (h : num * den' = num' * den) : codeOfRatio num den = codeOfRatio num' den' := by
  rw [← codeOfRatio_mul num den hd', h, Nat.mul_comm den den', codeOfRatio_mul num' den' hd]

theorem roundHalfEven_of_dvd (n : Nat) {den : Nat} (hd : 0 < den) :
    roundHalfEven (n * den) den = n := by
  rw [roundHalfEven, Nat.mul_div_cancel _ hd, Nat.mul_mod_left, if_pos]
  simp [hd]

/-! ### Magnitudes -/

theorem magnitude_pos {code : Nat} (h : 0 < code) : 0 < magnitude code := by
  unfold magnitude
  split
  · exact h
  · exact Nat.mul_pos (by omega) (Nat.two_pow_pos _)

theorem magnitude_zero : magnitude 0 = 0 := rfl

theorem magnitude_eq_zero_iff {code : Nat} : magnitude code = 0 ↔ code = 0 := by
  rcases Nat.eq_zero_or_pos code with rfl | pos
  · simp [magnitude_zero]
  · have := magnitude_pos pos
    omega

theorem unitsPerOne_pos : 0 < unitsPerOne := by
  rw [unitsPerOne]
  exact Nat.two_pow_pos 1074

/-- Of so many units, 53 binary digits are kept. -/
theorem codeOfRatio_scaled {m : Nat} (hlow : 2 ^ 52 ≤ m) (hhigh : m < 2 ^ 53) (e : Nat) :
    codeOfRatio (m * 2 ^ e) 1 = e * 2 ^ 52 + m := by
  have hlog : (m * 2 ^ e).log2 = 52 + e := by
    rw [Nat.log2_eq_iff (Nat.pos_iff_ne_zero.mp (Nat.mul_pos (by omega) (Nat.two_pow_pos e)))]
    constructor
    · rw [Nat.pow_add]
      exact Nat.mul_le_mul_right _ hlow
    · rw [show 52 + e + 1 = 53 + e by omega, Nat.pow_add 2 53 e]
      exact Nat.mul_lt_mul_of_pos_right hhigh (Nat.two_pow_pos e)
  simp only [codeOfRatio, Nat.div_one, hlog, Nat.add_sub_cancel_left, Nat.one_mul]
  rw [roundHalfEven_of_dvd m (Nat.two_pow_pos e)]

/-- A magnitude is exact, so that rounding it gives its code. -/
theorem codeOfRatio_magnitude (code : Nat) : codeOfRatio (magnitude code) 1 = code := by
  unfold magnitude
  by_cases h : code < 2 ^ 52
  · have hlog : code.log2 - 52 = 0 := by
      by_cases h0 : code = 0
      · rw [h0]
        rfl
      · have := (Nat.log2_lt h0).mpr h
        omega
    have hround := roundHalfEven_of_dvd code Nat.one_pos
    rw [Nat.mul_one] at hround
    rw [if_pos h]
    simp only [codeOfRatio, Nat.div_one, hlog, Nat.pow_zero, Nat.mul_one, hround]
    omega
  · rw [if_neg h, codeOfRatio_scaled (by omega) (by omega)]
    omega

/-- So many units are more than the greatest finite magnitude. -/
theorem ofRatio_infinite (negative : Bool) {i units : Nat} (hi : 2047 + 52 ≤ i)
    (h : 2 ^ i ≤ units) : ofRatio negative units 1 = .infinite negative := by
  have hpos : units ≠ 0 := by
    have := Nat.two_pow_pos i
    omega
  have hlog := (Nat.le_log2 hpos).mpr h
  have hcode : codeLimit ≤ codeOfRatio units 1 := by
    simp only [codeOfRatio, Nat.div_one]
    have hshift : 2047 * 2 ^ 52 ≤ (units.log2 - 52) * 2 ^ 52 :=
      Nat.mul_le_mul_right _ (by omega)
    exact Nat.le_trans hshift (Nat.le_add_right _ _)
  rw [ofRatio, ofCode, dif_neg (Nat.not_lt.mpr hcode)]

end Binary64

namespace Decimal

/-! ### Decimals -/

theorem digitCount_mul_pow {m : Nat} (hm : 0 < m) (k : Nat) :
    digitCount (m * 10 ^ k) = digitCount m + k := by
  induction k with
  | zero => rw [Nat.pow_zero, Nat.mul_one, Nat.add_zero]
  | succ k ih =>
      have hpos : 0 < m * 10 ^ k := Nat.mul_pos hm (Nat.pow_pos (by decide))
      rw [Nat.pow_succ, ← Nat.mul_assoc, digitCount, Nat.toDigits_of_base_le (by decide) (by omega),
        List.length_append, Nat.mul_div_cancel _ (by decide)]
      rw [digitCount] at ih
      rw [ih]
      rfl

theorem toBinary64_of_zero (negative : Bool) (e : Int) :
    toBinary64 ⟨negative, 0, e⟩ = .ofCode negative 0 := rfl

/-- A decimal is read by one division; no power of ten is too great for that. -/
theorem two_pow_le_scaled {k m n : Nat} (hm : 0 < m) :
    2 ^ (3 * n + k) ≤ m * 10 ^ n * 2 ^ k := by
  calc 2 ^ (3 * n + k) = (2 ^ 3) ^ n * 2 ^ k := by rw [Nat.pow_add, Nat.pow_mul]
    _ ≤ 10 ^ n * 2 ^ k := Nat.mul_le_mul_right _ (Nat.pow_le_pow_left (by decide) n)
    _ ≤ m * 10 ^ n * 2 ^ k := Nat.mul_le_mul_right _ (Nat.le_mul_of_pos_left _ hm)

theorem toBinary64_eq (negative : Bool) {m : Nat} (hm : 0 < m) (e : Int) :
    toBinary64 ⟨negative, m, e⟩ =
      if e + digitCount m < -400 then .ofCode negative 0
      else .ofRatio negative (m * 10 ^ e.toNat * Binary64.unitsPerOne) (10 ^ (-e).toNat) := by
  have hne : (m == 0) = false := beq_eq_false_iff_ne.mpr (by omega)
  unfold toBinary64
  simp only [hne, Bool.false_eq_true, if_false]
  by_cases hlarge : 400 < e
  · obtain ⟨n, rfl⟩ := Int.eq_ofNat_of_zero_le (show 0 ≤ e by omega)
    have hunits : 2 ^ (3 * n + 1074) ≤ m * 10 ^ n * Binary64.unitsPerOne := by
      rw [Binary64.unitsPerOne]
      exact two_pow_le_scaled hm
    have hden : (-(n : Int)).toNat = 0 := by omega
    rw [if_pos hlarge, if_neg (by omega), Int.toNat_natCast, hden, Nat.pow_zero,
      Binary64.ofRatio_infinite negative (by omega) hunits]
  · rw [if_neg hlarge]
    split
    · rfl
    · cases e with
      | ofNat n =>
          have hden : (-(Int.ofNat n)).toNat = 0 := by
            change (-(n : Int)).toNat = 0
            omega
          rw [hden]
          rfl
      | negSucc n =>
          have hnum : (Int.negSucc n).toNat = 0 := rfl
          have hden : (-(Int.negSucc n)).toNat = n + 1 := rfl
          rw [hnum, hden, Nat.pow_zero, Nat.mul_one]

/-- A decimal is read as the same number in every notation. -/
theorem toBinary64_shift (negative : Bool) (m k : Nat) (e : Int) :
    toBinary64 ⟨negative, m * 10 ^ k, e⟩ = toBinary64 ⟨negative, m, e + k⟩ := by
  by_cases hm : m = 0
  · rw [hm, Nat.zero_mul, toBinary64_of_zero, toBinary64_of_zero]
  · have hpos : 0 < m := by omega
    have hscaled : 0 < m * 10 ^ k := Nat.mul_pos hpos (Nat.pow_pos (by decide))
    have hlead : e + (digitCount (m * 10 ^ k) : Int) = e + k + digitCount m := by
      rw [digitCount_mul_pow hpos]
      omega
    have hratio : m * 10 ^ k * 10 ^ e.toNat * Binary64.unitsPerOne * 10 ^ (-(e + k)).toNat =
        m * 10 ^ (e + k).toNat * Binary64.unitsPerOne * 10 ^ (-e).toNat := by
      have hexp : k + e.toNat + (-(e + k)).toNat = (e + k).toNat + (-e).toNat := by omega
      generalize Binary64.unitsPerOne = units
      calc m * 10 ^ k * 10 ^ e.toNat * units * 10 ^ (-(e + k)).toNat
          = m * units * 10 ^ (k + e.toNat + (-(e + k)).toNat) := by
            rw [Nat.pow_add, Nat.pow_add]
            ac_rfl
        _ = m * 10 ^ (e + k).toNat * units * 10 ^ (-e).toNat := by
            rw [hexp, Nat.pow_add]
            ac_rfl
    rw [toBinary64_eq negative hscaled, toBinary64_eq negative hpos, hlead, Binary64.ofRatio,
      Binary64.ofRatio, Binary64.codeOfRatio_congr (Nat.pow_pos (by decide))
        (Nat.pow_pos (by decide)) hratio]

/-! ### The shortest decimal -/

theorem le_digitCount {n m : Nat} (h : 10 ^ n ≤ m) : n < digitCount m := by
  rcases Nat.lt_or_ge n (digitCount m) with hlt | hge
  · exact hlt
  · rcases Nat.eq_zero_or_pos n with rfl | hn
    · exact absurd hge (Nat.not_le.mpr Nat.length_toDigits_pos)
    · exact absurd ((Nat.length_toDigits_le_iff (by decide) hn).mp hge) (Nat.not_lt.mpr h)

theorem ten_pow_le_five_pow {i n : Nat} (h : 3 * i ≤ n) : 10 ^ (2 * i) ≤ 5 ^ n := by
  calc 10 ^ (2 * i) = (2 ^ 2) ^ i * 5 ^ (2 * i) := by
        rw [← Nat.pow_mul, ← Nat.mul_pow]
    _ ≤ 5 ^ i * 5 ^ (2 * i) := Nat.mul_le_mul_right _ (Nat.pow_le_pow_left (by decide) i)
    _ = 5 ^ (3 * i) := by
        rw [← Nat.pow_add]
        congr 1
        omega
    _ ≤ 5 ^ n := Nat.pow_le_pow_right (by decide) h

/-- Every finite number is a decimal with as many places as a unit has. -/
theorem toBinary64_units (negative : Bool) {code i n : Nat} (hcode : 0 < code)
    (hi : 3 * i ≤ n ∧ n ≤ 2 * i + 400) (hone : Binary64.unitsPerOne = 2 ^ n) :
    toBinary64 ⟨negative, Binary64.magnitude code * 5 ^ n, -n⟩ = .ofCode negative code := by
  have hunits := Binary64.magnitude_pos hcode
  have hpos : 0 < Binary64.magnitude code * 5 ^ n := Nat.mul_pos hunits (Nat.pow_pos (by decide))
  have hcount : 2 * i < digitCount (Binary64.magnitude code * 5 ^ n) :=
    le_digitCount (Nat.le_trans (ten_pow_le_five_pow hi.1)
      (Nat.le_mul_of_pos_left _ hunits))
  have hratio : Binary64.magnitude code * 5 ^ n * 10 ^ (-n : Int).toNat *
      Binary64.unitsPerOne * 1 = Binary64.magnitude code * 10 ^ (-(-n) : Int).toNat := by
    have hnum : (-n : Int).toNat = 0 := by omega
    have hden : (-(-n) : Int).toNat = n := by omega
    rw [hnum, hden, hone, Nat.pow_zero, Nat.mul_one, Nat.mul_one, Nat.mul_assoc, ← Nat.mul_pow]
  rw [toBinary64_eq negative hpos, if_neg (by omega), Binary64.ofRatio,
    Binary64.codeOfRatio_congr (Nat.pow_pos (by decide)) Nat.one_pos hratio,
    Binary64.codeOfRatio_magnitude]

theorem toBinary64_exact (negative : Bool) {code : Nat} (h : 0 < code) :
    (exact negative (Binary64.magnitude code)).toBinary64 = .ofCode negative code :=
  @toBinary64_units negative code 350 1074 h (by decide) Binary64.unitsPerOne.eq_1

theorem toBinary64_find? {x : Binary64} (tries : List Decimal) {d : Decimal}
    (hd : d.toBinary64 = x) :
    ((tries.find? fun t => t.toBinary64 == x).getD d).toBinary64 = x := by
  cases hfind : tries.find? fun t => t.toBinary64 == x with
  | none =>
      rw [Option.getD_none]
      exact hd
  | some t =>
      have hread := List.find?_some hfind
      rw [Option.getD_some]
      exact eq_of_beq hread

/-- **The shortest decimal of a number reads back as the number.** -/
theorem toBinary64_shortest (negative : Bool) (code : Nat) :
    (shortest negative code).toBinary64 = .ofCode negative code := by
  by_cases hzero : code = 0
  · unfold shortest
    rw [hzero]
    simp only [Binary64.magnitude_zero, beq_self_eq_true, if_true]
    exact toBinary64_of_zero negative 0
  · have hunits := Binary64.magnitude_pos (Nat.pos_of_ne_zero hzero)
    have hne : (Binary64.magnitude code == 0) = false := beq_eq_false_iff_ne.mpr (by omega)
    unfold shortest
    simp only [hne, Bool.false_eq_true, if_false]
    exact toBinary64_find? _ (toBinary64_exact negative (Nat.pos_of_ne_zero hzero))

end Decimal

end TriggerFlow
