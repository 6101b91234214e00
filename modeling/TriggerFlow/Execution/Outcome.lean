import TriggerFlow.Action
import TriggerFlow.Value.Pairs
import TriggerFlow.Workflow

/-!
# Outcomes of workflows

The outcome of one workflow is either a success, with the action that it decided on if any, or a
failure with its message and code. A report collects the outcomes of a batch.
-/

namespace TriggerFlow

/-- The outcome of one workflow. The result of a success is its action as an object, or null. -/
structure WorkflowOutcome where
  workflowId : String
  workflowName : String
  success : Bool
  result : Value := .null
  error : Option String := none
  errorCode : Option String := none

/-- An action with the workflow that decided on it. -/
structure ActionDetail where
  workflowId : String
  workflowName : String
  type : Value
  config : Entries

/-- The type and the config of the action that the result of a success names; it must name one unless
it is empty. -/
def namedAction? (success : Bool) (result : Value) : Except Breakdown (Option (Value × Entries)) :=
  if !success || !result.truthy then .ok none
  else
    match result with
    | .object entries =>
      match entries.lookup "action" with
      | none => .error (.missingKey "action")
      | some type => do
        let config := result.get "config"
        return some (type, ← if config.truthy then config.toEntries else .ok [])
    | v => .error (.notKeyed v.kind)

namespace WorkflowOutcome

/-- The action of a success. -/
def detail? (o : WorkflowOutcome) : Except Breakdown (Option ActionDetail) := do
  return (← namedAction? o.success o.result).map fun (type, config) =>
    ⟨o.workflowId, o.workflowName, type, config⟩

def detail (o : WorkflowOutcome) : Option ActionDetail :=
  match o.detail? with
  | .ok d => d
  | .error _ => none

/-- The failure of a workflow with the message and the code of a fault. -/
def failed (w : Workflow) (fault : Fault) : WorkflowOutcome :=
  { workflowId := w.id, workflowName := w.name, success := false
    error := fault.message?, errorCode := fault.code? }

/-- The success of a workflow with or without an action. -/
def succeeded (w : Workflow) (action : Option Action) : WorkflowOutcome :=
  { workflowId := w.id, workflowName := w.name, success := true
    result := Value.ofOption (fun a => .object a.toResult) action }

end WorkflowOutcome

/-- What a caller learns of a batch or of a trial. -/
structure Report where
  success : Bool
  actions : List Value := []
  details : List ActionDetail := []
  executed : Nat := 0
  error : Option String := none
  outcomes : List WorkflowOutcome := []

namespace Report

/-- The report of a run that could not take place. -/
def failed (error : Option String) : Report := { success := false, error := error }

/-- The report of a batch of outcomes. -/
def ofOutcomes (outcomes : List WorkflowOutcome) : Report :=
  let details := outcomes.filterMap WorkflowOutcome.detail
  { success := true, actions := details.map ActionDetail.type, details := details
    executed := outcomes.length, outcomes := outcomes }

end Report

end TriggerFlow
