import TriggerFlow.Number
import TriggerFlow.Proofs.Number.Rounding

/-! # Exact values and rounded ones

Numbers can be compared by exact value (`Number.same`) or as the floating-point numbers nearest to
them.  What is the same by exact value is the same rounded (`Number.eq_of_same`).  The converse holds of
floating-point numbers and of integers up to `2 ^ 53`, which all are floating-point numbers
(`Number.same_of_eq`). -/

namespace TriggerFlow

namespace Binary64

theorem eq_swap (x y : Binary64) : x.eq y = y.eq x := by
  unfold eq
  cases x.rank? <;> cases y.rank? <;> first | rfl | exact Bool.beq_comm

theorem ofInt_eq_self (n : Int) : (ofInt n).eq (ofInt n) = true := by
  rw [ofInt, ofRatio, ofCode]
  split <;> exact beq_self_eq_true _

theorem unlessInfinite_eq_some {x y : Binary64} (h : x.unlessInfinite = some y) : x = y := by
  cases x <;> cases h <;> rfl

/-! ### Floating-point numbers that are integers -/

/-- A whole number of units has the sign of the integer that they make, unless it is zero. -/
theorem negative_of_units {negative : Bool} {units one : Nat} {n : Int} (pos : 0 < one)
    (h : (if negative then -(units : Int) else (units : Int)) = n * one) :
    units = 0 ∨ decide (n < 0) = negative := by
  rcases Int.lt_or_le n 0 with neg | nonneg
  · have := Int.mul_neg_of_neg_of_pos neg (Int.natCast_pos.mpr pos)
    rw [← h] at this
    cases negative with
    | false => exact absurd this (Int.not_lt.mpr (Int.natCast_nonneg _))
    | true => exact .inr (decide_eq_true neg)
  · have := Int.mul_nonneg nonneg (Int.natCast_nonneg one)
    rw [← h] at this
    cases negative with
    | false => exact .inr (decide_eq_false (Int.not_lt.mpr nonneg))
    | true => exact .inl (Int.natCast_eq_zero.mp (by simpa using this))

/-- A floating-point number that is an integer is the one nearest to that integer. -/
theorem ofInt_eq_of_isInt {x : Binary64} {n : Int} (h : x.isInt n = true) :
    (ofInt n).eq x = true := by
  have units : x.units? = some (n * unitsPerOne) := beq_iff_eq.mp h
  cases x with
  | finite negative code =>
      rw [units?, Option.some.injEq] at units
      have whole : n.natAbs * unitsPerOne = magnitude code := by
        rw [← Int.natAbs_natCast unitsPerOne, ← Int.natAbs_mul, ← units]
        split <;> simp
      rw [ofInt, ofRatio, whole, codeOfRatio_magnitude, ofCode, dif_pos code.isLt]
      rcases negative_of_units unitsPerOne_pos units with zero | sign
      · simp [eq, rank?, magnitude_eq_zero_iff.mp zero]
      · simp [eq, rank?, sign]
  | _ => cases units

/-- The place of a number in the order determines its value. -/
theorem units?_eq_of_rank? (x : Binary64) :
    x.units? = x.rank?.bind fun place =>
      if place.natAbs < codeLimit then some (place.sign * magnitude place.natAbs) else none := by
  cases x with
  | nan => rfl
  | infinite negative => cases negative <;> rfl
  | finite negative code =>
      rcases Nat.eq_zero_or_pos code with zero | pos
      · cases negative <;> simp [units?, rank?, zero, magnitude_zero]
      · have positive : (code.val : Int).sign = 1 := Int.sign_eq_one_of_pos (Int.natCast_pos.mpr pos)
        cases negative <;> simp [units?, rank?, code.isLt, positive]

/-- Equal floating-point numbers have the same value. -/
theorem units?_of_eq {x y : Binary64} (h : x.eq y = true) : x.units? = y.units? := by
  have places : x.rank? = y.rank? := by
    unfold eq at h
    split at h
    · simp_all
    · cases h
  rw [units?_eq_of_rank?, units?_eq_of_rank?, places]

/-! ### Integers that are floating-point numbers -/

theorem magnitude_scaled {m : Nat} (hlow : 2 ^ 52 ≤ m) (hhigh : m < 2 ^ 53) (e : Nat) :
    magnitude (e * 2 ^ 52 + m) = m * 2 ^ e := by
  rw [magnitude, if_neg (by omega), show (e * 2 ^ 52 + m) / 2 ^ 52 - 1 = e by omega,
    show 2 ^ 52 + (e * 2 ^ 52 + m) % 2 ^ 52 = m by omega]

/-- The magnitudes up to `2 ^ 53` include all integers. -/
theorem exists_magnitude {n : Nat} (h : n ≤ 2 ^ 53) :
    ∃ code, code < codeLimit ∧ magnitude code = n * unitsPerOne := by
  rcases Nat.eq_zero_or_pos n with rfl | pos
  · exact ⟨0, by decide, (Nat.zero_mul _).symm⟩
  rw [unitsPerOne]
  rcases Nat.eq_or_lt_of_le h with rfl | below
  · refine ⟨(1074 + 1) * 2 ^ 52 + 2 ^ 52, by decide, ?_⟩
    have double (e : Nat) : 2 ^ 52 * 2 ^ (e + 1) = 2 ^ 53 * 2 ^ e := by
      rw [Nat.pow_succ]
      omega
    rw [magnitude_scaled (by decide) (by decide)]
    exact double 1074
  · have nonzero := Nat.pos_iff_ne_zero.mp pos
    have log := (Nat.log2_lt nonzero).mpr below
    have low := Nat.log2_self_le nonzero
    have high : n < 2 ^ (n.log2 + 1) := Nat.lt_log2_self
    generalize n.log2 = k at log low high
    obtain ⟨d, hd⟩ : ∃ d, k + d = 52 := ⟨52 - k, by omega⟩
    -- `d` doublings give `n` as many binary digits as a number has
    have scaled : 2 ^ 52 ≤ n * 2 ^ d ∧ n * 2 ^ d < 2 ^ 53 := by
      constructor
      · calc 2 ^ 52 = 2 ^ k * 2 ^ d := by rw [← Nat.pow_add, hd]
          _ ≤ n * 2 ^ d := Nat.mul_le_mul_right _ low
      · calc n * 2 ^ d < 2 ^ (k + 1) * 2 ^ d :=
              Nat.mul_lt_mul_of_pos_right high (Nat.two_pow_pos d)
          _ = 2 ^ 53 := by rw [← Nat.pow_add, show k + 1 + d = 53 by omega]
    have finite : (1074 - d) * 2 ^ 52 + n * 2 ^ d < 2047 * 2 ^ 52 := by omega
    refine ⟨(1074 - d) * 2 ^ 52 + n * 2 ^ d, finite, ?_⟩
    rw [magnitude_scaled scaled.1 scaled.2, Nat.mul_assoc, ← Nat.pow_add]
    congr 2
    omega

/-- Integers up to `2 ^ 53` are floating-point numbers. -/
theorem units?_ofInt {n : Int} (h : n.natAbs ≤ 2 ^ 53) :
    (ofInt n).units? = some (n * unitsPerOne) := by
  obtain ⟨code, finite, whole⟩ := exists_magnitude h
  rw [ofInt, ofRatio, ← whole, codeOfRatio_magnitude, ofCode, dif_pos finite, units?, whole]
  generalize unitsPerOne = one
  split
  · rename_i neg
    have := of_decide_eq_true neg
    rw [Int.natCast_mul, Int.ofNat_natAbs_of_nonpos (by omega), Int.neg_mul, Int.neg_neg]
  · rename_i nonneg
    have := of_decide_eq_false (Bool.not_eq_true _ ▸ nonneg)
    rw [Int.natCast_mul, Int.natAbs_of_nonneg (by omega)]

end Binary64

namespace Number

/-! ### Both kinds of equality -/

/-- Numbers of the same exact value have the same nearest floating-point number. -/
theorem eq_of_same {m n : Number} {x y : Binary64} (h : m.same n = true)
    (hx : m.nearest? = some x) (hy : n.nearest? = some y) : x.eq y = true := by
  cases m with
  | int a =>
      obtain rfl := Binary64.unlessInfinite_eq_some hx
      cases n with
      | int b =>
          obtain rfl := Binary64.unlessInfinite_eq_some hy
          obtain rfl := beq_iff_eq.mp h
          exact Binary64.ofInt_eq_self a
      | float z =>
          cases hy
          exact Binary64.ofInt_eq_of_isInt h
  | float z =>
      cases hx
      cases n with
      | int b =>
          obtain rfl := Binary64.unlessInfinite_eq_some hy
          rw [Binary64.eq_swap]
          exact Binary64.ofInt_eq_of_isInt h
      | float w =>
          cases hy
          exact h

/-- The number is no integer beyond `2 ^ 53`. -/
def Exact (m : Number) : Prop := ∀ n : Int, m = .int n → n.natAbs ≤ 2 ^ 53

/-- Of such numbers those are equal as floating-point numbers that have the same value. -/
theorem same_of_eq {m n : Number} {x y : Binary64} (first : m.Exact) (second : n.Exact)
    (hx : m.nearest? = some x) (hy : n.nearest? = some y) (h : x.eq y = true) :
    m.same n = true := by
  have units := Binary64.units?_of_eq h
  cases m with
  | int a =>
      obtain rfl := Binary64.unlessInfinite_eq_some hx
      rw [Binary64.units?_ofInt (first a rfl)] at units
      cases n with
      | int b =>
          obtain rfl := Binary64.unlessInfinite_eq_some hy
          rw [Binary64.units?_ofInt (second b rfl), Option.some.injEq] at units
          exact beq_iff_eq.mpr (Int.eq_of_mul_eq_mul_right
            (Int.natCast_ne_zero.mpr (Nat.pos_iff_ne_zero.mp Binary64.unitsPerOne_pos)) units)
      | float z =>
          cases hy
          exact beq_iff_eq.mpr units.symm
  | float z =>
      cases hx
      cases n with
      | int b =>
          obtain rfl := Binary64.unlessInfinite_eq_some hy
          rw [Binary64.units?_ofInt (second b rfl)] at units
          exact beq_iff_eq.mpr units
      | float w =>
          cases hy
          exact h

end Number

end TriggerFlow
