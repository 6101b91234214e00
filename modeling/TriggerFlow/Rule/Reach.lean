import TriggerFlow.Rule.Evaluation
import TriggerFlow.Value.Nesting

/-!
# How deep an evaluation nests

Evaluation takes a step down for every list and operation inside another, and copying a value takes
one for every container. `reach` counts the steps that an evaluation really goes down: operands that
are not needed, and those after a fault, do not count. Every step takes two levels, and `evaluate`
gives up where there are not enough of them left.
-/

namespace TriggerFlow.Rule

/-- The greatest of the steps of operands that are all evaluated up to the first fault. -/
def reachAll : List Outcome → List Nat → Nat
  | .ok _ :: outcomes, n :: ns => max n (reachAll outcomes ns)
  | _, n :: _ => n
  | _, [] => 0

/-- The greatest of the steps of operands that are evaluated until one settles a choice. -/
def reachWhere (settles : Value → Bool) : List Outcome → List Nat → Nat
  | .ok v :: outcomes, n :: ns => if settles v then n else max n (reachWhere settles outcomes ns)
  | _, n :: _ => n
  | _, [] => 0

/-- The greatest of the steps of the conditions and the value that a choice evaluates. -/
def reachChoice : List Outcome → List Nat → Nat
  | .ok c :: _ :: outcomes, n :: m :: ns =>
    if c.truthy then max n m else max n (reachChoice outcomes ns)
  | _, n :: _ => n
  | _, [] => 0

/-- The steps of an operation, given those of its operands; `copied` counts those of a copy. -/
def reachOperation (copied : Value → Nat) (context : Value) (symbol : String)
    (outcomes : List Outcome) (steps : List Nat) : Nat :=
  match admitted symbol outcomes.length with
  | .error _ => 1
  | .ok op =>
    match op with
    | .conjunction => reachWhere (fun v => !v.truthy) outcomes steps + 1
    | .disjunction => reachWhere Value.truthy outcomes steps + 1
    | .conditional | .ternary => reachChoice outcomes steps + 1
    | .variable =>
      match op.apply context outcomes with
      | .ok v => max (reachAll outcomes steps) (copied v) + 1
      | .error _ => reachAll outcomes steps + 1
    | _ => reachAll outcomes steps + 1

mutual

/-- How many steps the evaluation of a tree goes down; `copied` counts those of a copy. -/
def reach (copied : Value → Nat) (context : Value) : Value → Nat
  | .list items => reachAll (evalEach context items) (reachEach copied context items) + 1
  | .object [(symbol, .list operands)] =>
    reachOperation copied context symbol (evalEach context operands)
      (reachEach copied context operands)
  | .object [(symbol, operand)] =>
    reachOperation copied context symbol [eval context operand] [reach copied context operand]
  | literal => copied literal

def reachEach (copied : Value → Nat) (context : Value) : List Value → List Nat
  | [] => []
  | v :: rest => reach copied context v :: reachEach copied context rest

end

/-! ### Both at once -/

mutual

/-- The outcome of a tree with the steps that its evaluation goes down. -/
def survey (copied : Value → Nat) (context : Value) : Value → Outcome × Nat
  | .list items =>
    let (outcomes, steps) := surveyEach copied context items
    ((collect outcomes).map .list, reachAll outcomes steps + 1)
  | .object [(symbol, .list operands)] =>
    let (outcomes, steps) := surveyEach copied context operands
    (operate context symbol outcomes, reachOperation copied context symbol outcomes steps)
  | .object [(symbol, operand)] =>
    let (outcome, steps) := survey copied context operand
    (operate context symbol [outcome], reachOperation copied context symbol [outcome] [steps])
  | literal => (.ok literal, copied literal)

def surveyEach (copied : Value → Nat) (context : Value) : List Value → List Outcome × List Nat
  | [] => ([], [])
  | v :: rest =>
    let (outcome, step) := survey copied context v
    let (outcomes, steps) := surveyEach copied context rest
    (outcome :: outcomes, step :: steps)

end

mutual

theorem survey_eq (copied : Value → Nat) (context : Value) :
    (v : Value) → survey copied context v = (eval context v, reach copied context v)
  | .null | .bool _ | .int _ | .float _ | .str _ | .object [] => rfl
  | .object (_ :: _ :: _) => by simp [survey, eval, reach]
  | .list items => by simp [survey, eval, reach, surveyEach_eq copied context items]
  | .object [(symbol, .list operands)] => by
    simp [survey, eval, reach, surveyEach_eq copied context operands]
  | .object [(symbol, .null)] | .object [(symbol, .bool _)] | .object [(symbol, .int _)]
  | .object [(symbol, .float _)] | .object [(symbol, .str _)] => rfl
  | .object [(symbol, .object entries)] => by
    simp [survey, eval, reach, survey_eq copied context (.object entries)]

theorem surveyEach_eq (copied : Value → Nat) (context : Value) :
    (vs : List Value) →
      surveyEach copied context vs = (evalEach context vs, reachEach copied context vs)
  | [] => rfl
  | v :: rest => by
    simp [surveyEach, evalEach, reachEach, survey_eq copied context v,
      surveyEach_eq copied context rest]

end

variable [Levels]

/-- The equality of two values, within the levels left to a comparison. -/
def equal (a b : Value) : Except Breakdown Bool := do
  let _ ← a.sameWithin b
  valuesEqual a b

/-- The context in which a tree is evaluated; one that is missing is empty. -/
def contextOf : Value → Value
  | .null => .object []
  | context => context

/-- Whether there are not enough levels for so many steps. -/
def isTooFar (steps : Nat) : Bool := Levels.evaluation < 2 * steps

/-! ### What goes too deep first -/

/-- How many steps there are levels for. -/
def stepLimit : Nat := Levels.evaluation / 2

/-- An evaluation whose steps do not suffice. -/
def exhausted {α : Type} (during : Descent) : Except Fault α :=
  .error (.breakdown (.nestedTooDeeply during))

/-- What comes of going one step down. -/
def stepDown (steps : Nat) (next : Nat → Outcome) : Outcome :=
  match steps with
  | 0 => exhausted .evaluation
  | steps + 1 => next steps

/-- A copy of a value. -/
def copyWithin (steps : Nat) (v : Value) : Outcome :=
  if steps < v.nesting then exhausted .copying else .ok v

/-- The outcome of an operation; what a variable gives is a copy. -/
def operateWithin (context : Value) (symbol : String) (steps : Nat) (outcomes : List Outcome) :
    Outcome := do
  let v ← operate context symbol outcomes
  if symbol == Operator.variable.symbol then copyWithin steps v else return v

mutual

/-- The outcome of a tree for which there are so many steps. -/
def evalWithin (context : Value) (steps : Nat) : Value → Outcome
  | .list items =>
    stepDown steps fun steps => (collect (evalEachWithin context steps items)).map .list
  | .object [(symbol, .list operands)] =>
    stepDown steps fun steps =>
      operateWithin context symbol steps (evalEachWithin context steps operands)
  | .object [(symbol, operand)] =>
    stepDown steps fun steps =>
      operateWithin context symbol steps [evalWithin context steps operand]
  | literal => copyWithin steps literal

/-- The outcomes of several trees, for each of which there are so many steps. -/
def evalEachWithin (context : Value) (steps : Nat) : List Value → List Outcome
  | [] => []
  | v :: rest => evalWithin context steps v :: evalEachWithin context steps rest

end

/-- What goes too deep first in an evaluation: the tree itself or a value that it copies. -/
def descentOf (tree context : Value) : Descent :=
  match evalWithin context stepLimit tree with
  | .error (.breakdown (.nestedTooDeeply during)) => during
  | _ => .evaluation

/-- The outcome of a tree in a context, within the levels left to an evaluation. -/
def evaluate (tree context : Value) : Outcome :=
  let context := contextOf context
  let (outcome, steps) := survey Value.nesting context tree
  if isTooFar steps then .error (.breakdown (.nestedTooDeeply (descentOf tree context)))
  else outcome

theorem evaluate_eq (tree context : Value) :
    evaluate tree context =
      if isTooFar (reach Value.nesting (contextOf context) tree) then
        .error (.breakdown (.nestedTooDeeply (descentOf tree (contextOf context))))
      else eval (contextOf context) tree := by
  simp [evaluate, survey_eq]

end TriggerFlow.Rule
