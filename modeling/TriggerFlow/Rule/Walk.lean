import TriggerFlow.Fault
import TriggerFlow.Rule.Evaluation
import TriggerFlow.Vocabulary

/-!
# Checks of a whole rule tree

The checks visit every node of a tree, also those that no evaluation would reach: they keep a stack
and always take the node that was put there last, so that the last operand comes first. Literal
objects are visited but not entered. The first node at fault, in this order, decides.
-/

namespace TriggerFlow.Rule

mutual

/-- How many nodes a tree has. -/
def size : Value → Nat
  | .list items => sizes items + 1
  | .object [(_, .list operands)] => sizes operands + 1
  | .object [(_, operand)] => size operand + 1
  | _ => 1

/-- How many nodes several trees have. -/
def sizes : List Value → Nat
  | [] => 0
  | v :: rest => size v + sizes rest

end

theorem sizes_append (vs ws : List Value) : sizes (vs ++ ws) = sizes vs + sizes ws := by
  induction vs with
  | nil => simp [sizes]
  | cons v rest ih => simp [sizes, ih, Nat.add_assoc]

theorem sizes_reverse (vs : List Value) : sizes vs.reverse = sizes vs := by
  induction vs with
  | nil => rfl
  | cons v rest ih => simp [sizes, sizes_append, ih, Nat.add_comm]

theorem size_eq (v : Value) : size v = sizes (children v) + 1 := by
  unfold size children
  split <;> simp [sizes, operandsOf]

/-- The nodes of the trees on a stack, in the order in which they are visited. -/
def walk (stack : List Value) : List Value :=
  match stack with
  | [] => []
  | v :: rest => v :: walk ((children v).reverse ++ rest)
termination_by sizes stack
decreasing_by simp [sizes, sizes_append, sizes_reverse, size_eq v]

/-- What is wrong with an operation itself: its symbol or the number of its operands. -/
def operationFault? (node : Value) : Option LogicFault :=
  match operation? node with
  | some (symbol, operands) =>
    match admitted symbol operands.length with
    | .error fault => some fault
    | .ok _ => none
  | none => none

/-- What is wrong with a literal object: an action that is none of the vocabulary. -/
def actionFault? (node : Value) : Option LogicFault :=
  match operation? node, node with
  | none, .object entries =>
    match Entries.get entries "action" with
    | .str name =>
      if name == "" || (ActionType.ofName? name).isSome then none else some (.unknownAction name)
    | _ => none
  | _, _ => none

/-- Runs a check on every node. -/
def checkNodes (fault? : Value → Option LogicFault) (tree : Value) : Except LogicFault Unit :=
  match (walk [tree]).findSome? fault? with
  | some fault => .error fault
  | none => .ok ()

/-- Every operation has a known symbol and an admitted number of operands. -/
def checkStructure (tree : Value) : Except LogicFault Unit := checkNodes operationFault? tree

/-- Every literal action is one of the vocabulary. -/
def checkActions (tree : Value) : Except LogicFault Unit := checkNodes actionFault? tree

end TriggerFlow.Rule
