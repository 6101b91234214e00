import TriggerFlow.Rule.Arithmetic
import TriggerFlow.Rule.Node
import TriggerFlow.Rule.Path
import TriggerFlow.Value.Text

/-!
# Evaluation of rule trees

The meaning of a tree in a context is its outcome: a value or a fault. The outcome of an operation
depends on the outcomes of its operands only (`Operator.apply`), those of a lazy operator as far as
they are needed. Lists are evaluated item by item; every other literal stands for itself.
-/

namespace TriggerFlow

/-- What comes of an evaluation. -/
abbrev Outcome := Except Fault Value

namespace Rule

/-- The values of outcomes, or the first fault among them. -/
def collect : List Outcome → Except Fault (List Value)
  | [] => .ok []
  | outcome :: rest => do
    let v ← outcome
    let vs ← collect rest
    return v :: vs

/-- The part of the context at a path, or the default. A path is a text or an integer; a null or
empty one is the whole context. -/
def variableAt (context path fallback : Value) : Outcome :=
  let read (p : String) : Outcome :=
    match resolve context (segments p) with
    | .ok v => .ok (if v.isNull then fallback else v)
    | .error cause => .error (.breakdown cause)
  match path with
  | .null => .ok context
  | .str p => if p == "" then .ok context else read p
  | .int n =>
    if 10 ^ Breakdown.digitLimit ≤ n.natAbs then .error (.breakdown .integerTooLong)
    else read (toString n)
  | v => .error (.logic (.pathKind v.kind))

/-- The first outcome that settles a choice, or the last; a fault settles it too. -/
def firstWhere (settles : Value → Bool) : List Outcome → Outcome
  | [] => .ok .null
  | [outcome] => outcome
  | outcome :: rest => do
    let v ← outcome
    if settles v then return v else firstWhere settles rest

/-- The value after the first true condition, or a last one without condition. -/
def choose : List Outcome → Outcome
  | [] => .ok .null
  | [otherwise] => otherwise
  | condition :: outcome :: rest => do
    if (← condition).truthy then outcome else choose rest

/-- A truth value as an outcome. -/
def decided : Except Breakdown Bool → Outcome
  | .ok b => .ok (.bool b)
  | .error cause => .error (.breakdown cause)

/-- The result of an operator that needs all its operands. -/
def compute (op : Operator) (context : Value) (operands : List Value) : Outcome :=
  match op, operands with
  | .variable, [] => variableAt context (.str "") .null
  | .variable, [path] => variableAt context path .null
  | .variable, [path, fallback] => variableAt context path fallback
  | .equal, [a, b] | .identical, [a, b] => decided (valuesEqual a b)
  | .unequal, [a, b] | .notIdentical, [a, b] => decided ((valuesEqual a b).map (!·))
  | .above, [a, b] => decided (related .above a b)
  | .atLeast, [a, b] => decided (related .atLeast a b)
  | .below, [a, b] => decided (related .below a b)
  | .below, [a, b, c] => decided (relatedChain .below a b c)
  | .atMost, [a, b] => decided (related .atMost a b)
  | .atMost, [a, b, c] => decided (relatedChain .atMost a b c)
  | .negation, [v] => .ok (.bool !v.truthy)
  | .truth, [v] => .ok (.bool v.truthy)
  | .member, [v, whole] => decided (isMember v whole)
  | .notMember, [v, whole] => decided ((isMember v whole).map (!·))
  | op, vs =>
    if op.isArithmetic then arithmetic op vs
    else .error (.logic (.operandCount op vs.length))

end Rule

/-- The outcome of an operation from the outcomes of its operands. -/
def Operator.apply (op : Operator) (context : Value) (operands : List Outcome) : Outcome :=
  match op with
  | .conjunction => Rule.firstWhere (fun v => !v.truthy) operands
  | .disjunction => Rule.firstWhere Value.truthy operands
  | .conditional | .ternary => Rule.choose operands
  | op => do Rule.compute op context (← Rule.collect operands)

namespace Rule

/-- The operator of an operation, if there is one of this symbol that admits the operand count. -/
def admitted (symbol : String) (count : Nat) : Except LogicFault Operator :=
  match Operator.ofSymbol? symbol with
  | none => .error (.unknownOperator symbol)
  | some op => if op.arity.admits count then .ok op else .error (.operandCount op count)

/-- The outcome of an operation, which is checked before its operands count. -/
def operate (context : Value) (symbol : String) (operands : List Outcome) : Outcome :=
  match admitted symbol operands.length with
  | .ok op => op.apply context operands
  | .error fault => .error (.logic fault)

mutual

/-- The outcome of a tree in a context. -/
def eval (context : Value) : Value → Outcome
  | .list items => (collect (evalEach context items)).map .list
  | .object [(symbol, .list operands)] => operate context symbol (evalEach context operands)
  | .object [(symbol, operand)] => operate context symbol [eval context operand]
  | literal => .ok literal

/-- The outcomes of several trees. -/
def evalEach (context : Value) : List Value → List Outcome
  | [] => []
  | v :: rest => eval context v :: evalEach context rest

end

end Rule

end TriggerFlow
