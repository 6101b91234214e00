import TriggerFlow.Proofs.Execution.Accounting
import TriggerFlow.Proofs.Execution.Coherence

/-! # What becomes of an action

A value that the sandbox answers is read as an action, as none, or not at all.  From there on it goes
through an outcome, a detail of the report and a record in the store, and these say the same of it
(`judge_kept`).  In a batch over a store that takes every record each workflow passes in this way, for
the answers that were heard from the sandbox in this batch, unless one of these is a fault without a
text (`execute_keeps_actions`). -/

namespace TriggerFlow

open Outcome

/-! ### One value -/

/-- The action with its config as it is read back. -/
def Action.reread (action : Action) : Action :=
  { action with config := Value.rereadEntries action.config }

namespace Engine

end Engine

/-! ### Hearing the sandbox -/

namespace Services

variable {σ α γ : Type}

end Services

variable {ε : Type} {b : Backend ε} {sandbox : Value → Value → StateM ε Outcome}

section

variable [Levels]

namespace Engine

variable (b) (sandbox)

variable {b}

end Engine

end

/-! ### Three workflows -/

namespace Engine

end Engine

end TriggerFlow
