import TriggerFlow.Rule.Operator
import TriggerFlow.Value

/-!
# The shape of rule trees

An object with exactly one key is an operation: the key is its symbol and the value its operands, a
single operand standing for a list of one. An object with any other number of keys is a literal.
-/

namespace TriggerFlow.Rule

/-- The operands that the value of an operation stands for. -/
def operandsOf : Value → List Value
  | .list operands => operands
  | v => [v]

/-- The symbol and the operands of an operation. -/
def operation? : Value → Option (String × List Value)
  | .object [(symbol, v)] => some (symbol, operandsOf v)
  | _ => none

/-- The parts of a node that are nodes of the tree themselves; a literal object has none. -/
def children : Value → List Value
  | .list items => items
  | .object [(_, v)] => operandsOf v
  | _ => []

end TriggerFlow.Rule
