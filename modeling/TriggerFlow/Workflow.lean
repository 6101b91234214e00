import TriggerFlow.Calendar
import TriggerFlow.Value.Nesting
import TriggerFlow.Vocabulary

/-!
# Workflows and the objects they are about

A workflow is a definition: the trigger on which it runs, a rule tree, and a priority among the
workflows of the trigger. An event concerns a business object, whose type and id are known from the
trigger and the context of the event.
-/

namespace TriggerFlow

/-- A workflow definition. The flag `active` is kept as it was stored: everything that counts as true
makes the workflow active. -/
structure Workflow where
  id : String
  name : String
  trigger : String
  tree : Value
  priority : Int := 0
  active : Value := .bool true
  status : Option String := some Status.active.name
  config : Value := .null
  description : Option String := none
  executions : Int := 0
  lastExecuted : Option Timestamp := none
  version : Int := 1
  created : Option Timestamp := none

namespace Workflow

/-- Whether the workflow is enabled: a flag that counts as false is itself the answer. -/
def enabled (w : Workflow) : Value :=
  if w.active.truthy then .bool (w.status == some Status.active.name) else w.active

/-- Whether the workflow runs on a trigger: an answer that counts as false is kept. -/
def triggersOn (w : Workflow) (trigger : Option String) : Value :=
  if w.enabled.truthy then .bool (some w.trigger == trigger) else w.enabled

/-- Whether the workflow is enabled and runs on a trigger. -/
def isEligible (w : Workflow) (trigger : String) : Bool := (w.triggersOn (some trigger)).truthy

end Workflow

/-- The type of the business object of an event; unknown triggers have none. -/
def entityType? (trigger : String) : Option String := (Trigger.ofName? trigger).map Trigger.entityType

/-- The id of the business object of an event: the value under the trigger's key, unless it counts as
false, and else the one under `id`. -/
def entityId? [Levels] (trigger : String) (context : Value) : Except Breakdown (Option String) :=
  match context with
  | .object _ =>
    let own := match Trigger.ofName? trigger with
      | some t => context.get t.entityIdKey
      | none => .null
    let id := if own.truthy then own else context.get "id"
    if id.isNull then .ok none else id.textWithin.map some
  | v => .error (.noKeys v.kind)

end TriggerFlow
