/-!
# Operators of rule trees

Each operator has a symbol, by which trees name it, and an admitted number of operands. The lazy
operators evaluate only the operands that they need, the others all of them.
-/

namespace TriggerFlow

/-- An operation of a rule tree. -/
inductive Operator
  | variable
  | equal
  | identical
  | unequal
  | notIdentical
  | above
  | atLeast
  | below
  | atMost
  | conjunction
  | disjunction
  | negation
  | truth
  | member
  | notMember
  | conditional
  | ternary
  | sum
  | difference
  | product
  | quotient
  | remainder
  | minimum
  | maximum
  deriving DecidableEq

/-- How many operands are admitted: at least `low`, and at most `high` if that is given. -/
structure Arity where
  low : Nat
  high : Option Nat

namespace Arity

def admits (a : Arity) (count : Nat) : Bool :=
  a.low ≤ count && (match a.high with
    | some high => count ≤ high
    | none => true)

/-- The admitted counts in words. -/
def text (a : Arity) : String :=
  match a.high with
  | none => toString a.low ++ "..n"
  | some high =>
    if high == a.low then toString a.low else toString a.low ++ ".." ++ toString high

end Arity

namespace Operator

def all : List Operator := [
  .variable, .equal, .identical, .unequal, .notIdentical, .above, .atLeast, .below, .atMost,
  .conjunction, .disjunction, .negation, .truth, .member, .notMember, .conditional, .ternary, .sum,
  .difference, .product, .quotient, .remainder, .minimum, .maximum]

def symbol : Operator → String
  | .variable => "var"
  | .equal => "=="
  | .identical => "==="
  | .unequal => "!="
  | .notIdentical => "!=="
  | .above => ">"
  | .atLeast => ">="
  | .below => "<"
  | .atMost => "<="
  | .conjunction => "and"
  | .disjunction => "or"
  | .negation => "!"
  | .truth => "!!"
  | .member => "in"
  | .notMember => "!in"
  | .conditional => "if"
  | .ternary => "?:"
  | .sum => "+"
  | .difference => "-"
  | .product => "*"
  | .quotient => "/"
  | .remainder => "%"
  | .minimum => "min"
  | .maximum => "max"

/-- The operator of a symbol. -/
def ofSymbol? (s : String) : Option Operator := all.find? fun op => op.symbol == s

def arity : Operator → Arity
  | .variable => ⟨0, some 2⟩
  | .equal | .identical | .unequal | .notIdentical => ⟨2, some 2⟩
  | .above | .atLeast => ⟨2, some 2⟩
  | .below | .atMost => ⟨2, some 3⟩
  | .conjunction | .disjunction => ⟨1, none⟩
  | .negation | .truth => ⟨1, some 1⟩
  | .member | .notMember => ⟨2, some 2⟩
  | .conditional | .ternary => ⟨0, none⟩
  | .sum | .product | .minimum | .maximum => ⟨1, none⟩
  | .difference => ⟨1, some 2⟩
  | .quotient | .remainder => ⟨2, some 2⟩

/-- Whether the operator evaluates only the operands that it needs. -/
def isLazy : Operator → Bool
  | .conjunction | .disjunction | .conditional | .ternary => true
  | _ => false

/-- Whether the operands have to be numbers. -/
def isArithmetic : Operator → Bool
  | .sum | .difference | .product | .quotient | .remainder | .minimum | .maximum => true
  | _ => false

end Operator

end TriggerFlow
