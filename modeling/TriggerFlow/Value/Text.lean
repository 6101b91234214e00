import TriggerFlow.Value
import TriggerFlow.Number.Numeral
import TriggerFlow.Text.Quoted

/-!
# The text of a value

`text` writes a value for a reader: a text as it is, everything else as it would be written in a
program (`literal`), where lists stand in brackets and objects in braces with their keys quoted.
-/

namespace TriggerFlow.Value

mutual

/-- The value as it would be written in a program. -/
def literal : Value → String
  | .null => "None"
  | .bool b => if b then "True" else "False"
  | .int n => toString n
  | .float x => x.text
  | .str s => Text.quoted s
  | .list items => "[" ++ ", ".intercalate (literals items) ++ "]"
  | .object entries => "\x7b" ++ ", ".intercalate (entryLiterals entries) ++ "\x7d"

def literals : List Value → List String
  | [] => []
  | v :: rest => literal v :: literals rest

def entryLiterals : List (String × Value) → List String
  | [] => []
  | (k, v) :: rest => (Text.quoted k ++ ": " ++ literal v) :: entryLiterals rest

end

def text : Value → String
  | .str s => s
  | v => literal v

mutual

/-- Whether the value holds an integer of more digits than can be written. -/
def hasLongInteger (digits : Nat) : Value → Bool
  | .int n => 10 ^ digits ≤ n.natAbs
  | .list items => anyLongInteger digits items
  | .object entries => anyLongIntegerAt digits entries
  | _ => false

def anyLongInteger (digits : Nat) : List Value → Bool
  | [] => false
  | v :: rest => hasLongInteger digits v || anyLongInteger digits rest

def anyLongIntegerAt (digits : Nat) : List (String × Value) → Bool
  | [] => false
  | (_, v) :: rest => hasLongInteger digits v || anyLongIntegerAt digits rest

end

end TriggerFlow.Value
