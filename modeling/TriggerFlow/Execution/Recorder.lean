import TriggerFlow.Execution.Outcome
import TriggerFlow.Snapshot

/-!
# Recording outcomes

Every outcome of a batch is recorded with a copy of its context, and a success that is recorded counts
for its workflow. A write that fails is counted and otherwise ignored: the business event must never
fail because it could not be recorded.
-/

namespace TriggerFlow

/-- The event of a batch and the business object that it is about. -/
structure Event where
  trigger : String
  context : Value
  entityType : Option String := none
  entityId : Option String := none

/-- A record of one outcome. -/
structure ExecutionRecord where
  workflowId : String
  trigger : String
  context : Value
  success : Bool
  result : Value
  error : Option String := none
  errorCode : Option String := none
  entityType : Option String := none
  entityId : Option String := none

/-- Where records go: both operations may fail and may change the state `σ`. -/
structure Sink (σ : Type) where
  create : ExecutionRecord → StateM σ (Except Fault Unit)
  bump : String → StateM σ (Except Fault Unit)

/-- The state of a sink with the number of writes that failed. -/
structure Recording (σ : Type) where
  sink : σ
  failedWrites : Nat := 0

namespace Recording

variable {σ : Type}

/-- Runs a write and counts its failure; the answer is whether it succeeded. -/
def attempt (write : StateM σ (Except Fault Unit)) : StateM (Recording σ) Bool := fun r =>
  match write r.sink with
  | (.ok (), sink) => (true, { r with sink := sink })
  | (.error _, sink) => (false, { sink := sink, failedWrites := r.failedWrites + 1 })

end Recording

namespace ExecutionRecord

variable [Levels]

/-- The record of an outcome of an event, with copies of the context and of the result. -/
def make (event : Event) (o : WorkflowOutcome) : Except Breakdown ExecutionRecord := do
  let context ← snapshot event.context
  let result ← if o.result.truthy then snapshot o.result else .ok (.object [])
  return {
    workflowId := o.workflowId, trigger := event.trigger, context := context
    success := o.success, result := result, error := o.error, errorCode := o.errorCode
    entityType := event.entityType, entityId := event.entityId }

end ExecutionRecord

namespace Sink

variable {σ : Type} [Levels]

/-- Records an outcome and, if that succeeded and so did the workflow, counts it. The answer is
whether the record was written. -/
def record (sink : Sink σ) (event : Event) (o : WorkflowOutcome) : StateM (Recording σ) Bool := do
  let created ← Recording.attempt (match ExecutionRecord.make event o with
    | .ok record => sink.create record
    | .error cause => pure (.error (.breakdown cause)))
  if created && o.success then
    let _ ← Recording.attempt (sink.bump o.workflowId)
  return created

end Sink

end TriggerFlow
