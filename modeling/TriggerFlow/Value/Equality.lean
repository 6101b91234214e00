import TriggerFlow.Number
import TriggerFlow.Value

/-!
# Equality of values

Two values are the same if they denote the same data: numbers by their exact value, where true is one
and false is zero, lists item by item, and objects by their keys, whatever the order of these.
Not-a-number is the same as nothing, but as a part of a list or an object one and the same not-a-number
is alike.
-/

namespace TriggerFlow

namespace Value

/-- The number that a value is, or that a truth value counts as. -/
def quantity? : Value → Option Number
  | .bool b => some (.int (if b then 1 else 0))
  | .int n => some (.int n)
  | .float x => some (.float x)
  | _ => none

/-- Whether both are numbers and have the same exact value. -/
def sameNumber (a b : Value) : Bool :=
  match a.quantity?, b.quantity? with
  | some x, some y => x.same y
  | _, _ => false

/-- Whether both are one and the same not-a-number. -/
def identical : Value → Value → Bool
  | .float (.nan (some m)), .float (.nan (some n)) => m == n
  | _, _ => false

mutual

/-- Whether two values denote the same data. -/
def same : Value → Value → Bool
  | .null, .null => true
  | .str s, .str t => s == t
  | .list xs, .list ys => sameItems xs ys
  | .object xs, .object ys => xs.length == ys.length && sameEntries xs ys
  | .bool a, b => sameNumber (.bool a) b
  | .int a, b => sameNumber (.int a) b
  | .float a, b => sameNumber (.float a) b
  | _, _ => false

/-- Whether two lists have like items in the same order. -/
def sameItems : List Value → List Value → Bool
  | [], [] => true
  | x :: xs, y :: ys => (identical x y || same x y) && sameItems xs ys
  | _, _ => false

/-- Whether every entry is found with a like value under its key. -/
def sameEntries : List (String × Value) → List (String × Value) → Bool
  | [], _ => true
  | (k, x) :: xs, ys =>
    (match ys.lookup k with
      | some y => identical x y || same x y
      | none => false) && sameEntries xs ys

end

/-- Whether two parts of values are alike: one object, or the same data. -/
def alike (v w : Value) : Bool := v.identical w || v.same w

/-- Whether the value occurs among the items. -/
def isAmong (v : Value) (items : List Value) : Bool := items.any v.alike

end Value

end TriggerFlow
