import TriggerFlow.Fault
import TriggerFlow.Value.Equality
import TriggerFlow.Value.Text

/-!
# Objects from pairs

An object can also be given as a list of pairs of a key and a value. Keys that are alike count once,
with the place of the first and the value of the last. In an object every key is a text.
-/

namespace TriggerFlow.Value

/-- The two parts of a pair: of a list, a text or the keys of an object that has just two. -/
def pair? (index : Nat) (v : Value) : Except Breakdown (Value × Value) :=
  let parts := match v with
    | .list items => some items
    | .str s => some (s.toList.map fun c => .str (String.ofList [c]))
    | .object entries => some (entries.map fun e => .str e.1)
    | _ => none
  match parts with
  | some [key, value] => .ok (key, value)
  | some items => .error (.notAPair index items.length)
  | none => .error (.notASequence index)

/-- Sets a key in a list of pairs. -/
def setPair (key value : Value) : List (Value × Value) → List (Value × Value)
  | [] => [(key, value)]
  | (k, v) :: rest => if k.alike key then (k, value) :: rest else (k, v) :: setPair key value rest

/-- Adds pairs to those already read; the items are counted from `index` on. -/
def addPairs (index : Nat) (done : List (Value × Value)) :
    List Value → Except Breakdown (List (Value × Value))
  | [] => .ok done
  | v :: rest => do
    let (key, value) ← pair? index v
    match key with
    | .list _ => throw (.unhashable .list)
    | .object _ => throw (.unhashable .object)
    | _ => addPairs (index + 1) (setPair key value done) rest

/-- The text of a key. -/
def keyText : Value → String
  | .null => "null"
  | .bool b => if b then "true" else "false"
  | .float x => String.ofList (x.charsWith "NaN".toList "Infinity".toList)
  | v => v.text

/-- The pairs of an object, or of a list or text whose items are pairs. -/
def toPairs : Value → Except Breakdown (List (Value × Value))
  | .object entries => .ok (entries.map fun e => (.str e.1, e.2))
  | .list items => addPairs 0 [] items
  | .str s => addPairs 0 [] (s.toList.map fun c => .str (String.ofList [c]))
  | v => .error (.notIterable v.kind)

/-- The entries that pairs are written as. Keys that differ can have the same text. -/
def underTexts (pairs : List (Value × Value)) : Entries := pairs.map fun p => (keyText p.1, p.2)

/-- The entries of an object, or of a list or text whose items are pairs. -/
def toEntries : Value → Except Breakdown Entries
  | .object entries => .ok entries
  | v => v.toPairs.map fun pairs => Entries.ofList (underTexts pairs)

end TriggerFlow.Value
