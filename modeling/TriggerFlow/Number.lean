import TriggerFlow.Number.Arithmetic

/-!
# Numbers of either kind

A number is an integer of any size or a floating-point number. The two kinds are compared by exact
value.
-/

namespace TriggerFlow

/-- An integer or a floating-point number. -/
inductive Number
  | int (n : Int)
  | float (x : Binary64)
  deriving DecidableEq

/-- A floating-point number that is not infinite. -/
def Binary64.unlessInfinite : Binary64 → Option Binary64
  | .infinite _ => none
  | x => some x

namespace Number

/-- Equality of exact values. -/
def same : Number → Number → Bool
  | .int n, .int m => n == m
  | .int n, .float y => y.isInt n
  | .float x, .int m => x.isInt m
  | .float x, .float y => x.eq y

/-- The floating-point number nearest to an integer that is not too large to have one. -/
def nearest? : Number → Option Binary64
  | .int n => (Binary64.ofInt n).unlessInfinite
  | .float x => some x

/-- Whether an integer fits a signed word of 64 bits. -/
def isWord (n : Int) : Bool := -(2 ^ 63) ≤ n && n < 2 ^ 63

end Number

end TriggerFlow
