import Mathlib.Tactic.Ring
import TriggerFlow.Proofs.Number.Rounding
import TriggerFlow.Rule.Comparison

/-! # Integers that are too large

Rounding gives a finite number up to half a unit in the last place beyond the greatest one
(`le_codeOfRatio_iff`).  So the integers without a nearest number are those from
`2 ^ 1024 - 2 ^ 970` on (`Number.nearest?_eq_none_iff`). -/

namespace TriggerFlow

namespace Binary64

/-- A ratio is rounded to an even number or beyond from half below that number on. -/
theorem le_roundHalfEven_iff {num den m : Nat} (hd : 0 < den) (hm : m % 2 = 0) (hpos : 0 < m) :
    m ≤ roundHalfEven num den ↔ (2 * m - 1) * den ≤ 2 * num := by
  have split := Nat.div_add_mod num den
  have small := Nat.mod_lt num hd
  simp only [roundHalfEven]
  generalize num / den = q at split ⊢
  generalize num % den = r at split small ⊢
  rcases Nat.lt_trichotomy (q + 1) m with below | rfl | above
  · have : (2 * (q + 1) + 1) * den ≤ (2 * m - 1) * den := Nat.mul_le_mul_right _ (by omega)
    have : (2 * (q + 1) + 1) * den = 2 * (den * q) + 3 * den := by ring
    split <;> omega
  · have : (2 * (q + 1) - 1) * den = 2 * (den * q) + den := by
      rw [show 2 * (q + 1) - 1 = 2 * q + 1 by omega]
      ring
    have odd : (q % 2 == 0) = false := by
      rw [beq_eq_false_iff_ne]
      omega
    simp only [odd, Bool.and_false, Bool.or_false, decide_eq_true_eq]
    split <;> omega
  · have : (2 * m - 1) * den ≤ (2 * q) * den := Nat.mul_le_mul_right _ (by omega)
    have : (2 * q) * den = 2 * (den * q) := by ring
    split <;> omega

theorem roundHalfEven_le {num den m : Nat} (h : num < m * den) : roundHalfEven num den ≤ m := by
  have : num / den < m := Nat.div_lt_of_lt_mul (by rwa [Nat.mul_comm])
  simp only [roundHalfEven]
  split <;> omega

theorem div_le_roundHalfEven (num den : Nat) : num / den ≤ roundHalfEven num den := by
  simp only [roundHalfEven]
  split <;> omega

theorem codeOfRatio_one (units : Nat) :
    codeOfRatio units 1 =
      (units.log2 - 52) * 2 ^ 52 + roundHalfEven units (2 ^ (units.log2 - 52)) := by
  simp only [codeOfRatio, Nat.div_one, Nat.one_mul]

/-- The codes of an exponent end where rounding to 53 binary digits gives a power of two. -/
theorem le_codeOfRatio_iff {units e : Nat} :
    (e + 2) * 2 ^ 52 ≤ codeOfRatio units 1 ↔ (2 ^ 54 - 1) * 2 ^ e ≤ 2 * units := by
  have high : units < 2 ^ (units.log2 + 1) := Nat.lt_log2_self
  have unit_pos := Nat.two_pow_pos e
  rw [codeOfRatio_one]
  rcases Nat.lt_trichotomy units.log2 (52 + e) with hk | hk | hk
  · have below : units < 2 ^ 52 * 2 ^ e := by
      rw [← Nat.pow_add]
      exact Nat.lt_of_lt_of_le high (Nat.pow_le_pow_right (by decide) (by omega))
    have lower : (units.log2 - 52) * 2 ^ 52 + roundHalfEven units (2 ^ (units.log2 - 52)) ≤
        (e + 1) * 2 ^ 52 := by
      rcases Nat.lt_or_ge units.log2 52 with small | large
      · have hround : roundHalfEven units (2 ^ (units.log2 - 52)) ≤ 2 ^ 52 := by
          refine roundHalfEven_le (Nat.lt_of_lt_of_le high ?_)
          rw [← Nat.pow_add]
          exact Nat.pow_le_pow_right (by decide) (by omega)
        omega
      · have hround : roundHalfEven units (2 ^ (units.log2 - 52)) ≤ 2 ^ 53 := by
          refine roundHalfEven_le (Nat.lt_of_lt_of_le high ?_)
          rw [← Nat.pow_add]
          exact Nat.pow_le_pow_right (by decide) (by omega)
        omega
    constructor <;> omega
  · have tie : 2 ^ 53 ≤ roundHalfEven units (2 ^ e) ↔ (2 * 2 ^ 53 - 1) * 2 ^ e ≤ 2 * units :=
      le_roundHalfEven_iff unit_pos (by decide) (by decide)
    rw [hk, Nat.add_sub_cancel_left]
    omega
  · have hpos : units ≠ 0 := by
      rintro rfl
      cases hk
    have low : 2 ^ units.log2 ≤ units := Nat.log2_self_le hpos
    have hround : 2 ^ 52 ≤ roundHalfEven units (2 ^ (units.log2 - 52)) := by
      refine Nat.le_trans ?_ (div_le_roundHalfEven _ _)
      rw [Nat.le_div_iff_mul_le (Nat.two_pow_pos _), ← Nat.pow_add]
      exact Nat.le_trans (Nat.pow_le_pow_right (by decide) (by omega)) low
    have : 2 ^ 53 * 2 ^ e ≤ units := by
      rw [← Nat.pow_add]
      exact Nat.le_trans (Nat.pow_le_pow_right (by decide) (by omega)) low
    constructor <;> omega

theorem ofCode_infinite_iff {negative : Bool} {code : Nat} :
    (∃ sign, ofCode negative code = .infinite sign) ↔ codeLimit ≤ code := by
  rw [ofCode]
  split
  · simp_all
  · simp_all

theorem unlessInfinite_eq_none_iff {x : Binary64} :
    x.unlessInfinite = none ↔ ∃ sign, x = .infinite sign := by
  cases x <;> simp [unlessInfinite]

/-- A whole number in units of which there are `2 ^ b` to the one. -/
theorem le_codeOfRatio_mul_iff {n a b : Nat} :
    (a + (b + 1) + 2) * 2 ^ 52 ≤ codeOfRatio (n * 2 ^ b) 1 ↔ (2 ^ 54 - 1) * 2 ^ a ≤ n := by
  rw [le_codeOfRatio_iff, Nat.mul_left_comm, ← Nat.pow_succ', Nat.pow_add, ← Nat.mul_assoc]
  exact Nat.mul_le_mul_right_iff (Nat.two_pow_pos (b + 1))

end Binary64

namespace Number

/-- The integers without a nearest number begin half a unit in the last place below `2 ^ 1024`. -/
theorem nearest?_eq_none_iff {n : Int} :
    (Number.int n).nearest? = none ↔ (2 ^ 54 - 1) * 2 ^ 970 ≤ n.natAbs := by
  have limit : Binary64.codeLimit = (970 + (1074 + 1) + 2) * 2 ^ 52 := by decide
  calc (Number.int n).nearest? = none
      ↔ Binary64.codeLimit ≤ Binary64.codeOfRatio (n.natAbs * Binary64.unitsPerOne) 1 := by
        rw [nearest?, Binary64.unlessInfinite_eq_none_iff, Binary64.ofInt, Binary64.ofRatio,
          Binary64.ofCode_infinite_iff]
    _ ↔ (2 ^ 54 - 1) * 2 ^ 970 ≤ n.natAbs := by
        rw [limit, Binary64.unitsPerOne, Binary64.le_codeOfRatio_mul_iff]

theorem nearest?_ne_none {n : Int} (small : n.natAbs ≤ 2 ^ 64) : (Number.int n).nearest? ≠ none := by
  intro none
  have beyond := nearest?_eq_none_iff.mp none
  omega

end Number

end TriggerFlow
