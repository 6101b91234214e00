import TriggerFlow.Fault
import TriggerFlow.Text.Search
import TriggerFlow.Value.Equality

/-!
# Equality, order and membership in rules

Nothing is converted to compare it: values of different kinds are unequal and unordered, except that
integers and floating-point numbers are compared as floating-point numbers.
-/

namespace TriggerFlow.Rule

/-- A number as a floating-point number. -/
def toBinary64 (n : Number) : Except Breakdown Binary64 :=
  match n.nearest? with
  | some x => .ok x
  | none => .error .integerTooLarge

/-- Equality of two values. -/
def valuesEqual (a b : Value) : Except Breakdown Bool :=
  match a.number?, b.number? with
  | some m, some n => do return (← toBinary64 m).eq (← toBinary64 n)
  | _, _ => .ok (a.kind == b.kind && a.same b)

/-- A strict or weak order. -/
inductive Relation
  | below
  | atMost
  | above
  | atLeast
  deriving DecidableEq

namespace Relation

/-- The relation between floating-point numbers. -/
def onNumbers : Relation → Binary64 → Binary64 → Bool
  | .below, x, y => x.lt y
  | .atMost, x, y => x.le y
  | .above, x, y => y.lt x
  | .atLeast, x, y => y.le x

/-- The relation between texts, which are ordered by code point. -/
def onTexts : Relation → String → String → Bool
  | .below, s, t => s < t
  | .atMost, s, t => !(t < s)
  | .above, s, t => t < s
  | .atLeast, s, t => !(s < t)

end Relation

/-- Whether two values stand in a relation: both numbers or both texts. -/
def related (r : Relation) (a b : Value) : Except Breakdown Bool :=
  match a.number?, b.number? with
  | some m, some n => do return r.onNumbers (← toBinary64 m) (← toBinary64 n)
  | _, _ =>
    match a, b with
    | .str s, .str t => .ok (r.onTexts s t)
    | _, _ => .ok false

/-- Whether three values stand in order; the last is looked at only if the first two do. -/
def relatedChain (r : Relation) (a b c : Value) : Except Breakdown Bool := do
  if ← related r a b then related r b c else return false

/-- Whether a value equals an item; the items after the first that does are not looked at. -/
def equalsSome (v : Value) : List Value → Except Breakdown Bool
  | [] => .ok false
  | item :: rest => do
    if ← valuesEqual v item then return true else equalsSome v rest

/-- Whether a value is an item of a list, or a text a part of a text. -/
def isMember (v : Value) : Value → Except Breakdown Bool
  | .list items => equalsSome v items
  | .str whole =>
    match v with
    | .str part => .ok (Text.contains whole part)
    | _ => .ok false
  | _ => .ok false

end TriggerFlow.Rule
