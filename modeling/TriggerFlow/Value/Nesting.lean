import TriggerFlow.Fault
import TriggerFlow.Levels
import TriggerFlow.Value.Equality
import TriggerFlow.Value.Text

/-!
# How deep values nest

Comparing, writing and encoding a value take one level for every container inside another.
`sameWithin`, `alikeWithin`, `isAmongWithin`, `textWithin` and `literalWithin` are the operations that
give up where the levels left to them do not suffice; where they do, the answers are those of `same`,
`alike`, `isAmong`, `text` and `literal`.
-/

namespace TriggerFlow

namespace Value

variable [Levels]

mutual

/-- How many containers a value nests. -/
def nesting : Value → Nat
  | .list items => nestingItems items + 1
  | .object entries => nestingEntries entries + 1
  | _ => 0

def nestingItems : List Value → Nat
  | [] => 0
  | v :: rest => max (nesting v) (nestingItems rest)

def nestingEntries : List (String × Value) → Nat
  | [] => 0
  | (_, v) :: rest => max (nesting v) (nestingEntries rest)

end

mutual

/-- How many containers are entered in both values until a difference is found. -/
def comparedDepth : Value → Value → Nat
  | .list xs, .list ys => if xs.length == ys.length then comparedItems xs ys + 1 else 1
  | .object xs, .object ys => if xs.length == ys.length then comparedEntries xs ys + 1 else 1
  | _, _ => 0

def comparedItems : List Value → List Value → Nat
  | x :: xs, y :: ys =>
    max (comparedDepth x y) (if alike x y then comparedItems xs ys else 0)
  | _, _ => 0

def comparedEntries : List (String × Value) → List (String × Value) → Nat
  | [], _ => 0
  | (k, x) :: xs, ys =>
    match ys.lookup k with
    | some y => max (comparedDepth x y) (if alike x y then comparedEntries xs ys else 0)
    | none => 0

end

/-- Whether two values denote the same data. Only values that both nest too deeply can take more
levels than are left. -/
def sameWithin (v w : Value) : Except Breakdown Bool :=
  if Levels.comparison < v.nesting && Levels.comparison < w.nesting &&
      Levels.comparison < comparedDepth v w then
    .error (.nestedTooDeeply .comparison)
  else .ok (v.same w)

/-- Whether two parts of values are alike; one and the same object need not be compared. -/
def alikeWithin (v w : Value) : Except Breakdown Bool :=
  if v.identical w then .ok true else v.sameWithin w

/-- Whether the value occurs among the items; the items after the first such are not looked at. -/
def isAmongWithin (v : Value) : List Value → Except Breakdown Bool
  | [] => .ok false
  | item :: rest => do
    if ← alikeWithin item v then return true else isAmongWithin v rest

/-! ### Obstacles -/

mutual

/-- What is met first that keeps a value from being written: a container for which no level is left,
or an integer that is too long. -/
def obstacle? (during : Descent) (levels : Nat) : Value → Option Breakdown
  | .int n => if 10 ^ Breakdown.digitLimit ≤ n.natAbs then some .integerTooLong else none
  | .list items =>
    match levels with
    | 0 => some (.nestedTooDeeply during)
    | levels + 1 => obstacleAmong? during levels items
  | .object entries =>
    match levels with
    | 0 => some (.nestedTooDeeply during)
    | levels + 1 => obstacleUnder? during levels entries
  | _ => none

def obstacleAmong? (during : Descent) (levels : Nat) : List Value → Option Breakdown
  | [] => none
  | v :: rest => (obstacle? during levels v).or (obstacleAmong? during levels rest)

def obstacleUnder? (during : Descent) (levels : Nat) : List (String × Value) → Option Breakdown
  | [] => none
  | (_, v) :: rest => (obstacle? during levels v).or (obstacleUnder? during levels rest)

end

/-- What a value is written as, unless there is an obstacle. -/
def written (write : Value → String) (v : Value) : Except Breakdown String :=
  match v.obstacle? .writing Levels.writing with
  | some cause => .error cause
  | none => .ok (write v)

/-- The text of a value. -/
def textWithin (v : Value) : Except Breakdown String := v.written text

/-- The literal of a value. -/
def literalWithin (v : Value) : Except Breakdown String := v.written literal

/-- Whether a value can be encoded as JSON text. -/
def checkEncoding (v : Value) : Except Breakdown Unit :=
  match v.obstacle? .encoding Levels.encoding with
  | some cause => .error cause
  | none => .ok ()

end Value

end TriggerFlow
