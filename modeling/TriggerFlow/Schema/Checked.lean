import TriggerFlow.Fault

/-!
# Checked data

Data that is read against a schema is either accepted or refused with all its problems, each with its
place. A breakdown of a check stops the reading at once, whatever problems there are.
-/

namespace TriggerFlow.Schema

/-- A step from data to a part of it. -/
inductive Place
  | field (name : String)
  | item (index : Nat)
  deriving DecidableEq

/-- What a problem is. -/
inductive ProblemKind
  | missing
  | stringType
  | stringTooShort
  | stringTooLong
  | stringPattern
  | notInVocabulary
  | dictType
  | listType
  | modelType
  | intType
  | intParsing
  | intParsingSize
  | intFromFloat
  | finiteNumber
  | greaterThanEqual
  | lessThanEqual
  | boolType
  | boolParsing
  | floatType
  | floatParsing
  /-- A check of the domain failed, with its message. -/
  | valueError (message : String)
  deriving DecidableEq

namespace ProblemKind

/-- The name of a kind of problem. -/
def name : ProblemKind → String
  | .missing => "missing"
  | .stringType => "string_type"
  | .stringTooShort => "string_too_short"
  | .stringTooLong => "string_too_long"
  | .stringPattern => "string_pattern_mismatch"
  | .notInVocabulary => "enum"
  | .dictType => "dict_type"
  | .listType => "list_type"
  | .modelType => "model_type"
  | .intType => "int_type"
  | .intParsing => "int_parsing"
  | .intParsingSize => "int_parsing_size"
  | .intFromFloat => "int_from_float"
  | .finiteNumber => "finite_number"
  | .greaterThanEqual => "greater_than_equal"
  | .lessThanEqual => "less_than_equal"
  | .boolType => "bool_type"
  | .boolParsing => "bool_parsing"
  | .floatType => "float_type"
  | .floatParsing => "float_parsing"
  | .valueError _ => "value_error"

/-- The message of a failed check of the domain. -/
def message? : ProblemKind → Option String
  | .valueError message => some ("Value error, " ++ message)
  | _ => none

end ProblemKind

/-- A problem and where it is, from the outside in. -/
structure Problem where
  place : List Place
  kind : ProblemKind
  deriving DecidableEq

/-- The result of reading data against a schema. -/
inductive Checked (α : Type)
  | accepted (a : α)
  | refused (problems : List Problem)
  | broken (cause : Breakdown)

namespace Checked

variable {α β : Type}

protected def map (f : α → β) : Checked α → Checked β
  | .accepted a => .accepted (f a)
  | .refused problems => .refused problems
  | .broken cause => .broken cause

/-- Applies a checked function: problems of both sides are kept, those of the function first. -/
protected def apply (f : Checked (α → β)) (x : Checked α) : Checked β :=
  match f, x with
  | .broken cause, _ => .broken cause
  | _, .broken cause => .broken cause
  | .refused ps, .refused qs => .refused (ps ++ qs)
  | .refused ps, .accepted _ => .refused ps
  | .accepted _, .refused qs => .refused qs
  | .accepted f, .accepted a => .accepted (f a)

instance : Applicative Checked where
  pure := .accepted
  seq f x := Checked.apply f (x ())
  map := Checked.map

/-- A further check of data that has been accepted. -/
protected def andThen (x : Checked α) (check : α → Checked β) : Checked β :=
  match x with
  | .accepted a => check a
  | .refused problems => .refused problems
  | .broken cause => .broken cause

/-- One problem with the data itself. -/
def problem (kind : ProblemKind) : Checked α := .refused [⟨[], kind⟩]

/-- The same result for data that is a part of other data. -/
def at_ (place : Place) : Checked α → Checked α
  | .refused problems => .refused (problems.map fun p => { p with place := place :: p.place })
  | x => x

/-- Every item of a list, counted from `index` on. -/
def items (read : Value → Checked α) (index : Nat) : List Value → Checked (List α)
  | [] => .accepted []
  | v :: rest => List.cons <$> (read v).at_ (.item index) <*> items read (index + 1) rest

/-- A field that must be there. -/
def required (entries : Entries) (name : String) (read : Value → Checked α) : Checked α :=
  at_ (.field name) (match entries.lookup name with
    | some v => read v
    | none => problem .missing)

/-- A field with a default. -/
def defaulted (entries : Entries) (name : String) (default : α) (read : Value → Checked α) :
    Checked α :=
  match entries.lookup name with
  | some v => (read v).at_ (.field name)
  | none => .accepted default

end Checked

end TriggerFlow.Schema
