import TriggerFlow.Schema.Scalar

/-!
# Responses

What a host publishes of a report: whether the batch ran, the actions with the workflows that decided
on them, and how many workflows there were. A report is read leniently; the outcomes of its single
workflows are not published.
-/

namespace TriggerFlow.Schema

/-- A published action. -/
structure ActionResponse where
  workflowId : String
  workflowName : String
  type : String
  config : Entries

/-- A published report. -/
structure Response where
  success : Bool
  actions : List String
  details : List ActionResponse
  executed : Int
  milliseconds : Int
  error : Option String := none

namespace ActionResponse

def read (v : Value) : Checked ActionResponse :=
  (readObject .modelType v).andThen fun entries =>
    ActionResponse.mk
      <$> .required entries "workflow_id" readText
      <*> .required entries "workflow_name" readText
      <*> .required entries "action_type" readText
      <*> .required entries "config" (readObject .dictType)

def toValue (a : ActionResponse) : Value :=
  .object [
    ("workflow_id", .str a.workflowId), ("workflow_name", .str a.workflowName),
    ("action_type", .str a.type), ("config", .object a.config)]

end ActionResponse

namespace Response

def read (entries : Entries) : Checked Response :=
  Response.mk
    <$> .required entries "success" readTruth
    <*> .required entries "actions" (readList readText)
    <*> .required entries "details" (readList ActionResponse.read)
    <*> .required entries "workflows_executed" readInteger
    <*> .required entries "execution_time_ms" readInteger
    <*> .defaulted entries "error" none (readOptional readText)

def toValue (r : Response) : Value :=
  .object [
    ("success", .bool r.success), ("actions", .list (r.actions.map .str)),
    ("details", .list (r.details.map ActionResponse.toValue)),
    ("workflows_executed", .int r.executed), ("execution_time_ms", .int r.milliseconds),
    ("error", Value.ofOption .str r.error)]

end Response

end TriggerFlow.Schema
