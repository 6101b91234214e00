import TriggerFlow.Execution.Recorder

/-!
# Reports as plain data

`toValue` writes reports, outcomes and records as objects. `complete` fills in a report that is given
as an object with the defaults of what it does not give, and `actionOf` reads the action off an outcome
that is.
-/

namespace TriggerFlow

namespace ActionDetail

def toValue (d : ActionDetail) : Value :=
  .object [
    ("workflow_id", .str d.workflowId), ("workflow_name", .str d.workflowName),
    ("action_type", d.type), ("config", .object d.config)]

end ActionDetail

namespace WorkflowOutcome

def toValue (o : WorkflowOutcome) : Value :=
  .object [
    ("workflow_id", .str o.workflowId), ("workflow_name", .str o.workflowName),
    ("success", .bool o.success), ("result", o.result), ("error", Value.ofOption .str o.error),
    ("error_code", Value.ofOption .str o.errorCode)]

end WorkflowOutcome

namespace ExecutionRecord

def toEntries (r : ExecutionRecord) : Entries := [
  ("workflow_id", .str r.workflowId), ("trigger", .str r.trigger), ("context_data", r.context),
  ("success", .bool r.success), ("result", r.result), ("error", Value.ofOption .str r.error),
  ("error_code", Value.ofOption .str r.errorCode),
  ("entity_type", Value.ofOption .str r.entityType),
  ("entity_id", Value.ofOption .str r.entityId)]

end ExecutionRecord

namespace Report

def toEntries (r : Report) : Entries := [
  ("success", .bool r.success), ("actions", .list r.actions),
  ("details", .list (r.details.map ActionDetail.toValue)),
  ("workflows_executed", .int r.executed), ("error", Value.ofOption .str r.error),
  ("outcomes", .list (r.outcomes.map WorkflowOutcome.toValue))]

end Report

namespace Document

variable [Levels]

/-- A field of a document: its name, and its default unless it has to be given. -/
structure Slot where
  name : String
  default : Option Value := none

/-- The fields in their order, each as given or by its default. A field that has to be given must be
there, and no other field may be. -/
def fill (slots : List Slot) (given : Entries) : Except Breakdown Entries :=
  if given.all fun e => slots.any fun s => s.name == e.1 then
    slots.mapM fun s =>
      match (given.lookup s.name).orElse fun _ => s.default with
      | some v => .ok (s.name, v)
      | none => .error .unfitFields
  else .error .unfitFields

/-- An object with its fields filled in. -/
def fillValue (slots : List Slot) (v : Value) : Except Breakdown Value :=
  match v with
  | .object given => (fill slots given).map .object
  | _ => .error .unfitFields

def detailSlots : List Slot := [
  ⟨"workflow_id", none⟩, ⟨"workflow_name", none⟩, ⟨"action_type", none⟩,
  ⟨"config", some (.object [])⟩]

def outcomeSlots : List Slot := [
  ⟨"workflow_id", none⟩, ⟨"workflow_name", none⟩, ⟨"success", none⟩,
  ⟨"execution_time_ms", some (.int 0)⟩, ⟨"result", some .null⟩, ⟨"error", some .null⟩,
  ⟨"error_code", some .null⟩]

def reportSlots : List Slot := [
  ⟨"success", none⟩, ⟨"actions", some (.list [])⟩, ⟨"details", some (.list [])⟩,
  ⟨"workflows_executed", some (.int 0)⟩, ⟨"execution_time_ms", some (.int 0)⟩,
  ⟨"error", some .null⟩, ⟨"outcomes", some (.list [])⟩]

/-- A list of objects, each filled in. What has no items at all is an empty list. -/
def fillItems (slots : List Slot) (v : Value) : Except Breakdown Value :=
  match v with
  | .list items => (items.mapM (fillValue slots)).map .list
  | .str "" | .object [] => .ok (.list [])
  | .str _ | .object _ => .error .unfitFields
  | v => .error (.notIterable v.kind)

/-- A report with all its fields, as have its details and its outcomes. Each container takes two
levels. -/
def complete (given : Entries) : Except Breakdown Entries := do
  let detailed ← given.mapM fun (key, v) => do
    if key == "details" then return (key, ← fillItems detailSlots v)
    else if key == "outcomes" then return (key, ← fillItems outcomeSlots v)
    else return (key, v)
  let report ← fill reportSlots detailed
  if Levels.report < 2 * (Value.object report).nesting then throw (.nestedTooDeeply .evaluation)
  return report

/-- The action of an outcome that is given as an object, null if it has none. -/
def actionOf (outcome : Entries) : Except Breakdown Value := do
  let outcome ← fill outcomeSlots outcome
  let action ← namedAction? (outcome.get "success").truthy (outcome.get "result")
  return Value.ofOption (fun (type, config) => .object [
    ("workflow_id", outcome.get "workflow_id"), ("workflow_name", outcome.get "workflow_name"),
    ("action_type", type), ("config", .object config)]) action

end Document

end TriggerFlow
