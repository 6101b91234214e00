import TriggerFlow.Rule.Validation
import TriggerFlow.Schema.Scalar
import TriggerFlow.Vocabulary

/-!
# Workflow definitions as they are saved

A definition comes from an editor as an object. It is read field by field, and its tree has to be
valid within the default depth. `toValue` writes a definition with all its fields.
-/

namespace TriggerFlow.Schema

/-- One filter of a trigger config. -/
structure FilterDefinition where
  field : String
  operator : String
  value : Value := .null

/-- How the filters of a config are combined. -/
inductive Combination
  | all
  | any
  deriving DecidableEq

namespace Combination

def name : Combination → String
  | .all => "AND"
  | .any => "OR"

def read (v : Value) : Checked Combination :=
  (readText v).andThen fun s =>
    if s == "AND" then .accepted .all
    else if s == "OR" then .accepted .any
    else .problem .stringPattern

end Combination

/-- A trigger config. -/
structure TriggerConfig where
  enabled : Bool := false
  logic : Combination := .all
  filters : List FilterDefinition := []

/-- A workflow definition. -/
structure Definition where
  name : String
  description : Option String := none
  trigger : Trigger
  config : Option TriggerConfig := none
  tree : Entries
  priority : Int := 0
  active : Bool := false
  status : Status := .draft

namespace FilterDefinition

def read (v : Value) : Checked FilterDefinition :=
  (readObject .modelType v).andThen fun entries =>
    FilterDefinition.mk
      <$> .required entries "field" (readSized 1 none)
      <*> .required entries "operator" (readSized 1 none)
      <*> .defaulted entries "value" .null .accepted

def toValue (f : FilterDefinition) : Value :=
  .object [("field", .str f.field), ("operator", .str f.operator), ("value", f.value)]

end FilterDefinition

namespace TriggerConfig

def read (v : Value) : Checked TriggerConfig :=
  (readObject .modelType v).andThen fun entries =>
    TriggerConfig.mk
      <$> .defaulted entries "enabled" false readTruth
      <*> .defaulted entries "logic" .all Combination.read
      <*> .defaulted entries "filters" [] (readList FilterDefinition.read)

def toValue (c : TriggerConfig) : Value :=
  .object [
    ("enabled", .bool c.enabled), ("logic", .str c.logic.name),
    ("filters", .list (c.filters.map FilterDefinition.toValue))]

end TriggerConfig

/-- Whether a breakdown is a matter of the value, and so a problem of the data. -/
def isValueProblem : Breakdown → Bool
  | .opposedInfinities | .undefinedRemainder | .notAnInteger _ | .tooManyDigits _
  | .integerTooLong => true
  | _ => false

variable [Levels]

/-- Reads a rule tree that is valid within the default depth. -/
def readTree (v : Value) : Checked Entries :=
  (readObject .dictType v).andThen fun entries =>
    match Rule.validate Rule.defaultMaxDepth v with
    | .ok .accepted => .accepted entries
    | .ok (.refused reason) => .problem (.valueError reason)
    | .error (.breakdown cause) =>
      if isValueProblem cause then .problem (.valueError cause.message) else .broken cause
    | .error fault => .problem (.valueError (fault.message?.getD ""))

namespace Definition

def read (v : Value) : Checked Definition :=
  (readObject .modelType v).andThen fun entries =>
    Definition.mk
      <$> .required entries "name" (readSized 1 (some 100))
      <*> .defaulted entries "description" none (readOptional (readSized 0 (some 500)))
      <*> .required entries "trigger" (readName Trigger.ofName?)
      <*> .defaulted entries "trigger_config" none (readOptional TriggerConfig.read)
      <*> .required entries "logic_tree" readTree
      <*> .defaulted entries "priority" 0 (readBounded 0 100)
      <*> .defaulted entries "is_active" false readTruth
      <*> .defaulted entries "status" .draft (readName Status.ofName?)

def toValue (d : Definition) : Value :=
  .object [
    ("name", .str d.name), ("description", Value.ofOption .str d.description),
    ("trigger", .str d.trigger.name),
    ("trigger_config", Value.ofOption TriggerConfig.toValue d.config),
    ("logic_tree", .object d.tree), ("priority", .int d.priority), ("is_active", .bool d.active),
    ("status", .str d.status.name)]

end Definition

end TriggerFlow.Schema
