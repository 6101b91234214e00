import TriggerFlow.Proofs.Number.Exact
import TriggerFlow.Proofs.Number.Range

/-! # The order of numbers

Every floating-point number but not-a-number has a place in the order (`exists_rank`), and two numbers
compare as their places do (`eq_of_rank`, `lt_of_rank`, `le_of_rank`).  Equality of exact values is an
equivalence on all numbers but not-a-number, whichever of them are integers (`Number.same_self`,
`Number.same_swap`, `Number.same_trans`).  Rounding makes no zero of an integer that is none
(`Number.isZero_nearest`). -/

namespace TriggerFlow

namespace Binary64

variable {x y z : Binary64} {p q : Int}

/-! ### Places -/

theorem exists_rank (h : x.isNaN = false) : ∃ place, x.rank? = some place := by
  cases x with
  | nan => cases h
  | infinite negative => exact ⟨_, rfl⟩
  | finite negative code => exact ⟨_, rfl⟩

theorem rank?_of_isNaN (h : x.isNaN = true) : x.rank? = none := by
  cases x with
  | nan => rfl
  | _ => cases h

theorem eq_of_rank (hx : x.rank? = some p) (hy : y.rank? = some q) : x.eq y = decide (p = q) := by
  rw [eq, hx, hy]
  rfl

theorem lt_of_rank (hx : x.rank? = some p) (hy : y.rank? = some q) : x.lt y = decide (p < q) := by
  rw [lt, hx, hy]

theorem le_of_rank (hx : x.rank? = some p) (hy : y.rank? = some q) : x.le y = decide (p ≤ q) := by
  rw [le, hx, hy]

/-- Equal numbers share a place. -/
theorem eq_iff_rank : x.eq y = true ↔ ∃ place, x.rank? = some place ∧ y.rank? = some place := by
  unfold eq
  constructor
  · intro h
    split at h
    · rename_i p q hx hy
      obtain rfl := beq_iff_eq.mp h
      exact ⟨p, hx, hy⟩
    · cases h
  · rintro ⟨place, hx, hy⟩
    rw [hx, hy]
    exact beq_self_eq_true place

theorem eq_self (h : x.isNaN = false) : x.eq x = true := by
  obtain ⟨place, hx⟩ := exists_rank h
  exact eq_iff_rank.mpr ⟨place, hx, hx⟩

theorem eq_trans (first : x.eq y = true) (second : y.eq z = true) : x.eq z = true := by
  obtain ⟨p, hx, hy⟩ := eq_iff_rank.mp first
  obtain ⟨q, hy', hz⟩ := eq_iff_rank.mp second
  rw [hy] at hy'
  cases hy'
  exact eq_iff_rank.mpr ⟨p, hx, hz⟩

theorem isNaN_ofInt (n : Int) : (ofInt n).isNaN = false := by
  rw [ofInt, ofRatio, ofCode]
  split <;> rfl

/-! ### Zero -/

theorem codeOfRatio_pos {units : Nat} (h : 0 < units) : 0 < codeOfRatio units 1 := by
  have low : 2 ^ (units.log2 - 52) ≤ units := by
    calc 2 ^ (units.log2 - 52) ≤ 2 ^ units.log2 := Nat.pow_le_pow_right (by decide) (Nat.sub_le _ _)
      _ ≤ units := Nat.log2_self_le (Nat.pos_iff_ne_zero.mp h)
  have whole := Nat.div_pos low (Nat.two_pow_pos _)
  have rounded := div_le_roundHalfEven units (2 ^ (units.log2 - 52))
  rw [codeOfRatio_one]
  omega

/-- An integer is rounded to a zero only if it is zero. -/
theorem isZero_ofInt {n : Int} : (ofInt n).isZero = true ↔ n = 0 := by
  constructor
  · intro zero
    by_contra nonzero
    have code := codeOfRatio_pos (Nat.mul_pos (Int.natAbs_pos.mpr nonzero) unitsPerOne_pos)
    rw [ofInt, ofRatio, ofCode] at zero
    split at zero
    · exact Nat.pos_iff_ne_zero.mp code (beq_iff_eq.mp zero)
    · cases zero
  · rintro rfl
    rw [ofInt, Int.natAbs_zero, Nat.zero_mul]
    rfl

end Binary64

namespace Number

variable {k m n : Number}

/-! ### Exact values -/

/-- The number is not-a-number. -/
def isNaN : Number → Bool
  | .int _ => false
  | .float x => x.isNaN

theorem same_self (h : m.isNaN = false) : m.same m = true := by
  cases m with
  | int a => exact beq_self_eq_true a
  | float x => exact Binary64.eq_self h

theorem same_swap (m n : Number) : m.same n = n.same m := by
  cases m with
  | int a =>
      cases n with
      | int b => exact Bool.beq_comm
      | float y => rfl
  | float x =>
      cases n with
      | int b => rfl
      | float y => exact Binary64.eq_swap x y

/-- Both facing the same integer, floating-point numbers are equal. -/
theorem eq_of_isInt {x y : Binary64} {a : Int} (hx : x.isInt a = true) (hy : y.isInt a = true) :
    x.eq y = true := by
  have first : x.eq (.ofInt a) = true := by
    rw [Binary64.eq_swap]
    exact Binary64.ofInt_eq_of_isInt hx
  exact Binary64.eq_trans first (Binary64.ofInt_eq_of_isInt hy)

/-- A floating-point number is one integer at most. -/
theorem eq_of_units {x : Binary64} {a b : Int} (ha : x.isInt a = true) (hb : x.isInt b = true) :
    a = b := by
  have units := (beq_iff_eq.mp ha).symm.trans (beq_iff_eq.mp hb)
  rw [Option.some.injEq] at units
  exact Int.eq_of_mul_eq_mul_right
    (Int.natCast_ne_zero.mpr (Nat.pos_iff_ne_zero.mp Binary64.unitsPerOne_pos)) units

/-- Equal floating-point numbers are the same integer, if any. -/
theorem isInt_of_eq {x y : Binary64} {a : Int} (h : x.eq y = true) (hy : y.isInt a = true) :
    x.isInt a = true := by
  rw [Binary64.isInt, Binary64.units?_of_eq h]
  exact hy

theorem same_trans (first : k.same m = true) (second : m.same n = true) : k.same n = true := by
  cases k with
  | int a =>
      cases m with
      | int b =>
          obtain rfl := beq_iff_eq.mp first
          exact second
      | float y =>
          cases n with
          | int c => exact beq_iff_eq.mpr (eq_of_units first second)
          | float z => exact isInt_of_eq (Binary64.eq_swap y z ▸ second) first
  | float x =>
      cases m with
      | int b =>
          cases n with
          | int c =>
              obtain rfl := beq_iff_eq.mp second
              exact first
          | float z => exact eq_of_isInt first second
      | float y =>
          cases n with
          | int c => exact isInt_of_eq first second
          | float z => exact Binary64.eq_trans first second

theorem isNaN_nearest {x : Binary64} (h : m.nearest? = some x) : x.isNaN = m.isNaN := by
  cases m with
  | int n =>
      obtain rfl := Binary64.unlessInfinite_eq_some h
      exact Binary64.isNaN_ofInt n
  | float y =>
      cases h
      rfl

/-- The number is zero. -/
def isZero : Number → Bool
  | .int n => n == 0
  | .float x => x.isZero

/-- Rounding makes no zero of a number that is none. -/
theorem isZero_nearest {x : Binary64} (h : m.nearest? = some x) : x.isZero = m.isZero := by
  cases m with
  | int n =>
      obtain rfl := Binary64.unlessInfinite_eq_some h
      rw [Bool.eq_iff_iff, Binary64.isZero_ofInt]
      exact beq_iff_eq.symm
  | float y =>
      cases h
      rfl

end Number

end TriggerFlow
