import TriggerFlow.Fault
import TriggerFlow.Number.Numeral
import TriggerFlow.Rule.Comparison
import TriggerFlow.Rule.Path
import TriggerFlow.Text.Lowercase
import TriggerFlow.Value.Nesting

/-!
# Trigger filters

A trigger config narrows the events on which a workflow fires. Each of its filters compares the
context's value at a path with an expected value; the config combines their answers. A missing value
differs from everything and is in no list, and matches nothing else. A filter that names no path is
logged as it is, and so it must not nest too deeply for a log record.
-/

namespace TriggerFlow.Filter

variable [Levels]

/-- The value at a dotted path through objects, null if there is none. -/
def lookup (data : Value) (path : String) : Value :=
  (Rule.segments path).foldl Value.get data

/-- A filter value as a number: numbers, and texts that write one. -/
def amount (v : Value) : Except Breakdown (Option Binary64) :=
  match v with
  | .str s => .ok (Binary64.readText? s)
  | v =>
    match v.number? with
    | some n => (Rule.toBinary64 n).map some
    | none => .ok none

/-- The text of a value in lower case. -/
def lowerText (v : Value) : Except Breakdown String :=
  v.textWithin.map Text.lower

/-- What a filter can ask of a value. -/
inductive Test
  | equal
  | unequal
  | compare (r : Rule.Relation)
  | isIn
  | notIn
  | contains
  | notContains
  | startsWith
  | endsWith
  | between

/-- The test of an operator. An operator that is a list or an object cannot be looked up. -/
def testOf (operator : Value) : Except Breakdown (Option Test) :=
  match operator with
  | .str "==" => .ok (some .equal)
  | .str "!=" => .ok (some .unequal)
  | .str ">" => .ok (some (.compare .above))
  | .str "<" => .ok (some (.compare .below))
  | .str ">=" => .ok (some (.compare .atLeast))
  | .str "<=" => .ok (some (.compare .atMost))
  | .str "in" => .ok (some .isIn)
  | .str "not_in" => .ok (some .notIn)
  | .str "contains" => .ok (some .contains)
  | .str "not_contains" => .ok (some .notContains)
  | .str "starts_with" => .ok (some .startsWith)
  | .str "ends_with" => .ok (some .endsWith)
  | .str "between" => .ok (some .between)
  | .list _ => .error (.unhashable .list)
  | .object _ => .error (.unhashable .object)
  | _ => .ok none

/-- Compares the texts of two values in lower case. -/
def compareTexts (holds : String → String → Bool) (actual expected : Value) :
    Except Breakdown Bool := do
  let haystack ← lowerText actual
  let needle ← lowerText expected
  return holds haystack needle

/-- The answer of a test on a value that is not null. -/
def Test.run (test : Test) (actual expected : Value) : Except Breakdown Bool :=
  match test with
  | .equal => actual.sameWithin expected
  | .unequal => (actual.sameWithin expected).map (!·)
  | .compare r => do
    let left ← amount actual
    let right ← amount expected
    match left, right with
    | some x, some y => return r.onNumbers x y
    | _, _ => return false
  | .isIn =>
    match expected with
    | .list items => actual.isAmongWithin items
    | _ => .ok false
  | .notIn =>
    match expected with
    | .list items => (actual.isAmongWithin items).map (!·)
    | _ => .ok true
  | .contains => compareTexts Text.contains actual expected
  | .notContains => compareTexts (fun s t => !Text.contains s t) actual expected
  | .startsWith => compareTexts Text.startsWith actual expected
  | .endsWith => compareTexts Text.endsWith actual expected
  | .between =>
    match expected with
    | .list [low, high] => do
      let x ← amount actual
      let l ← amount low
      let h ← amount high
      match x, l, h with
      | some x, some l, some h => return l.le x && x.le h
      | _, _, _ => return false
    | _ => .ok false

/-- The path that a filter names, if it is a text that is not empty. -/
def pathOf (filter : Entries) : Option String := (filter.get "field").text?.filter (· != "")

/-- The answer of a filter without a path, which is logged. A log record leaves out what is too long
to be written, but not what nests too deeply. -/
def ignored (filter : Entries) : Except Breakdown Bool :=
  match (Value.object filter).obstacle? .writing Levels.logging with
  | some (.nestedTooDeeply during) => .error (.nestedTooDeeply during)
  | _ => .ok false

/-- The answer of an operator on a value. -/
def answer (operator actual expected : Value) : Except Breakdown Bool :=
  if actual.isNull then
    match operator with
    | .str s => .ok (s == "!=" || s == "not_in")
    | _ => .ok false
  else do
    match ← testOf operator with
    | some test => test.run actual expected
    | none => return false

/-- Whether a filter matches data. A filter without a path, or with an unknown operator, does not. -/
def holds (filter : Entries) (data : Value) : Except Breakdown Bool :=
  match pathOf filter with
  | none => ignored filter
  | some path => answer (filter.get "operator") (lookup data path) (filter.get "value")

/-- The answer of an item of a filter list; what is no object matches nothing. -/
def itemHolds (data : Value) : Value → Except Breakdown Bool
  | .object filter => holds filter data
  | _ => .ok false

/-- Whether an event fires under a trigger config. A missing, disabled or empty config lets every
event fire. All filters are asked, also when the answer is settled. -/
def fires (config context : Value) : Except Fault Bool :=
  match config with
  | .null => .ok true
  | .object _ =>
    if !(config.get "enabled").truthy then .ok true
    else
      match config.get "filters" with
      | .null => .ok true
      | .list [] => .ok true
      | .list filters => do
        let answers ← (filters.mapM (itemHolds context)).mapError Fault.breakdown
        if (config.get "logic").same (.str "AND") then return answers.all id
        else return answers.any id
      | v => .error (.logic (.filtersKind v.kind))
  | v => .error (.logic (.configKind v.kind))

end TriggerFlow.Filter
