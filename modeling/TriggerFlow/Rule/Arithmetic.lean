import TriggerFlow.Rule.Comparison

/-!
# Arithmetic in rules

A missing operand makes the result missing, before anything else is looked at; then the first operand
that is no number is a fault; then all numbers become floating-point numbers.
-/

namespace TriggerFlow.Rule

/-- The first operand that is not a number is a fault. -/
def numbers (op : Operator) : List Value → Except Fault (List Number)
  | [] => .ok []
  | v :: rest =>
    match v.number? with
    | some n => (numbers op rest).map (n :: ·)
    | none => .error (.logic (.operandKind op v.kind))

/-- The result of an operator on floating-point numbers. -/
def calculate (op : Operator) (xs : List Binary64) : Except Fault Binary64 :=
  match op, xs with
  | .sum, xs =>
    match Binary64.total xs with
    | .ok x => .ok x
    | .error .overflow => .error (.breakdown .sumOverflow)
    | .error .opposedInfinities => .error (.breakdown .opposedInfinities)
  | .product, xs => .ok (Binary64.product xs)
  | .difference, [x] => .ok x.neg
  | .difference, [x, y] => .ok (x.sub y)
  | .minimum, x :: rest => .ok (Binary64.least x rest)
  | .maximum, x :: rest => .ok (Binary64.greatest x rest)
  | .quotient, [x, y] =>
    if y.isZero then .error (.logic (.divisionByZero op)) else .ok (x.div y)
  | .remainder, [x, y] =>
    if y.isZero then .error (.logic (.divisionByZero op))
    else
      match x.rem? y with
      | some r => .ok r
      | none => .error (.breakdown .undefinedRemainder)
  | op, xs => .error (.logic (.operandCount op xs.length))

/-- The result of an arithmetic operator on values. -/
def arithmetic (op : Operator) (operands : List Value) : Except Fault Value :=
  if operands.any Value.isNull then .ok .null
  else do
    let ns ← numbers op operands
    let xs ← (ns.mapM toBinary64).mapError Fault.breakdown
    return .float (← calculate op xs)

end TriggerFlow.Rule
