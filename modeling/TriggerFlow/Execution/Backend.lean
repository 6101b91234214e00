import TriggerFlow.Execution.Engine
import TriggerFlow.Execution.Recorder

/-!
# Engines over a store

A backend keeps workflows and records. With a function that evaluates trees it gives the services of
an engine, whose recorder never fails.
-/

namespace TriggerFlow

/-- A store of workflows with a sink of records; every operation may fail and may change the state
`σ`. -/
structure Backend (σ : Type) where
  feed : String → Int → StateM σ (Except Fault (List Workflow))
  find : String → StateM σ (Except Fault (Option Workflow))
  sink : Sink σ

namespace Backend

variable {σ : Type} [Levels]

/-- An operation of the backend while recording. -/
def lift {α : Type} (action : StateM σ α) : StateM (Recording σ) α := fun r =>
  let (a, state) := action r.sink
  (a, { r with sink := state })

/-- The services of an engine over the backend. -/
def services (b : Backend σ) (evaluate : Value → Value → Outcome) : Services (Recording σ) where
  feed trigger limit := lift (b.feed trigger limit)
  find id := lift (b.find id)
  evaluate tree context := pure (evaluate tree context)
  record event o := do return .ok (← b.sink.record event o)

end Backend

end TriggerFlow
