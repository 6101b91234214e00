import TriggerFlow.Rule.Walk

/-!
# Nesting depth of operations

The depth of a tree counts the operations inside one another; lists add nothing and literals have
none. `depth` says so by recursion on the tree. `measureDepth` finds it with a stack, and stops as
soon as a given limit is exceeded.
-/

namespace TriggerFlow.Rule

mutual

/-- How many operations are nested in a tree. -/
def depth : Value → Nat
  | .list items => deepest items
  | .object [(_, .list operands)] => deepest operands + 1
  | .object [(_, operand)] => depth operand + 1
  | _ => 0

/-- The greatest depth of several trees. -/
def deepest : List Value → Nat
  | [] => 0
  | v :: rest => max (depth v) (deepest rest)

end

/-- The depth that is allowed unless another is given. -/
def defaultMaxDepth : Int := 10

/-- Whether a depth exceeds the limit, if there is one. -/
def exceeds (limit : Option Int) (depth : Nat) : Bool :=
  match limit with
  | some l => l < depth
  | none => false

/-- The greatest depth met on a stack of trees and the number of operations around each. -/
def measure (limit : Option Int) (reached : Nat) (stack : List (Value × Nat)) : Nat :=
  match stack with
  | [] => reached
  | (v, around) :: rest =>
    let inside := if (operation? v).isSome then around + 1 else around
    let reached := max reached inside
    if (operation? v).isSome && exceeds limit reached then reached
    else measure limit reached ((children v).reverse.map (·, inside) ++ rest)
termination_by sizes (stack.map (·.1))
decreasing_by
  simp [sizes, sizes_append, Function.comp_def, sizes_reverse, size_eq v]

/-- The depth of a tree, or the first depth beyond the limit that is met. -/
def measureDepth (tree : Value) (limit : Option Int) : Nat := measure limit 0 [(tree, 0)]

/-- No operation is nested deeper than the limit. -/
def checkDepth (limit : Int) (tree : Value) : Except LogicFault Unit :=
  if limit < measureDepth tree (some limit) then .error (.tooDeep limit) else .ok ()

end TriggerFlow.Rule
