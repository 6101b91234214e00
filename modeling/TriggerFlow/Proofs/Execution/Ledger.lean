import TriggerFlow.Execution.Backend
import TriggerFlow.Proofs.Execution.Schedule
import TriggerFlow.Proofs.Snapshot

/-! # The writes of a store

A ledger has every write that a store was asked for, with its answer, next to what the writes left:
the records in their order and a count for each workflow.  The store is free to refuse any of them.  A
posting is an outcome to be recorded; `Posting.Settles` says which writes it comes to, and
`record_posted` that these are the ones attempted.  Postings add up (`Posted.trans`): what holds of
the writes of each holds of all (`Posted.attempts`, `Posted.counts`). -/

namespace TriggerFlow

/-- What a store is asked to write. -/
inductive Write
  | create (record : ExecutionRecord)
  | bump (workflowId : String)

/-- A write with the answer of the store. -/
structure Attempt where
  write : Write
  answer : Except Fault Unit

namespace Attempt

def failed (a : Attempt) : Bool := !a.answer.isOk

/-- The record that an attempt stores. -/
def stored? : Attempt → Option ExecutionRecord
  | ⟨.create record, .ok _⟩ => some record
  | _ => none

/-- Whether an attempt adds one to the count of a workflow. -/
def counts (id : String) : Attempt → Bool
  | ⟨.bump key, .ok _⟩ => key == id
  | _ => false

/-- Whether an attempt to add one to the count of a workflow failed. -/
def misses (id : String) : Attempt → Bool
  | ⟨.bump key, .error _⟩ => key == id
  | _ => false

end Attempt

theorem Attempt.countP_misses_eq_zero {id : String} {attempts : List Attempt} :
    attempts.countP (misses id) = 0 ↔
      ∀ answer, ⟨.bump id, answer⟩ ∈ attempts → Except.isOk answer = true := by
  rw [List.countP_eq_zero]
  constructor
  · intro h answer ha
    cases answer with
    | ok _ => rfl
    | error fault => exact (h _ ha (beq_self_eq_true id)).elim
  · intro h a ha hmiss
    obtain ⟨_ | key, fault | _⟩ := a
    · cases hmiss
    · cases hmiss
    · cases (eq_of_beq hmiss : key = id)
      cases h _ ha
    · cases hmiss

/-- Whether a record is one of a success of a workflow. -/
def ExecutionRecord.succeeds (id : String) (r : ExecutionRecord) : Bool :=
  r.success && r.workflowId == id

/-- The writes that were attempted, and what the successful ones left. -/
structure Ledger where
  attempts : List Attempt := []
  records : List ExecutionRecord := []
  counts : String → Nat := fun _ => 0

namespace Ledger

variable {ε α : Type}

/-- A successful write appends its record, or adds one to the count of its workflow. -/
def enter (ledger : Ledger) (a : Attempt) : Ledger :=
  let noted := { ledger with attempts := ledger.attempts ++ [a] }
  match a with
  | ⟨.create record, .ok _⟩ => { noted with records := ledger.records ++ [record] }
  | ⟨.bump id, .ok _⟩ =>
    { noted with counts := fun key => ledger.counts key + if id == key then 1 else 0 }
  | _ => noted

/-- Enters several attempts. -/
def enterAll (ledger : Ledger) (attempts : List Attempt) : Ledger := attempts.foldl enter ledger

theorem enter_attempts (ledger : Ledger) (a : Attempt) :
    (ledger.enter a).attempts = ledger.attempts ++ [a] := by
  obtain ⟨_ | _, _ | _⟩ := a <;> rfl

theorem enter_records (ledger : Ledger) (a : Attempt) :
    (ledger.enter a).records = ledger.records ++ [a].filterMap Attempt.stored? := by
  obtain ⟨_ | _, _ | _⟩ := a <;> first | rfl | exact (List.append_nil _).symm

theorem enter_counts (ledger : Ledger) (a : Attempt) (id : String) :
    (ledger.enter a).counts id = ledger.counts id + [a].countP (Attempt.counts id) := by
  rw [List.countP_singleton]
  obtain ⟨_ | _, _ | _⟩ := a <;> rfl

theorem enterAll_attempts (ledger : Ledger) (attempts : List Attempt) :
    (ledger.enterAll attempts).attempts = ledger.attempts ++ attempts := by
  induction attempts generalizing ledger with
  | nil => exact (List.append_nil _).symm
  | cons a rest ih =>
      rw [enterAll, List.foldl_cons, ← enterAll, ih, enter_attempts, List.append_assoc]
      rfl

theorem enterAll_records (ledger : Ledger) (attempts : List Attempt) :
    (ledger.enterAll attempts).records =
      ledger.records ++ attempts.filterMap Attempt.stored? := by
  induction attempts generalizing ledger with
  | nil => exact (List.append_nil _).symm
  | cons a rest ih =>
      rw [enterAll, List.foldl_cons, ← enterAll, ih, enter_records, List.append_assoc,
        ← List.filterMap_append]
      rfl

theorem enterAll_counts (ledger : Ledger) (attempts : List Attempt) (id : String) :
    (ledger.enterAll attempts).counts id =
      ledger.counts id + attempts.countP (Attempt.counts id) := by
  induction attempts generalizing ledger with
  | nil => rfl
  | cons a rest ih =>
      rw [enterAll, List.foldl_cons, ← enterAll, ih, enter_counts, Nat.add_assoc,
        ← List.countP_append]
      rfl

/-- An action beside the ledger. -/
def aside (action : StateM ε α) : StateM (ε × Ledger) α := fun s =>
  ((action s.1).1, (action s.1).2, s.2)

/-- A write that is entered in the ledger with its answer. -/
def entered (write : Write) (action : StateM ε (Except Fault Unit)) :
    StateM (ε × Ledger) (Except Fault Unit) := fun s =>
  ((action s.1).1, (action s.1).2, s.2.enter ⟨write, (action s.1).1⟩)

end Ledger

open Ledger

namespace Backend

variable {ε : Type}

/-- A store with a ledger of its writes. -/
def booked (b : Backend ε) : Backend (ε × Ledger) where
  feed trigger limit := aside (b.feed trigger limit)
  find id := aside (b.find id)
  sink :=
    { create := fun record => entered (.create record) (b.sink.create record)
      bump := fun id => entered (.bump id) (b.sink.bump id) }

/-- The services of an engine over the store, with a sandbox that may answer anew each time. -/
def bookedServices [Levels] (b : Backend ε) (sandbox : Value → Value → StateM ε Outcome) :
    Services (Recording (ε × Ledger)) :=
  { b.booked.services Rule.evaluate with
    evaluate := fun tree context => lift (aside (sandbox tree context)) }

end Backend

/-! ### Postings -/

/-- An outcome that is to be recorded. -/
structure Posting where
  trigger : String
  context : Value
  outcome : WorkflowOutcome

namespace Posting

/-- A record that agrees with its posting; its context is the copy that is read back. -/
structure Agrees (p : Posting) (record : ExecutionRecord) : Prop where
  workflowId : record.workflowId = p.outcome.workflowId
  trigger : record.trigger = p.trigger
  context : record.context = p.context.reread
  success : record.success = p.outcome.success
  error : record.error = p.outcome.error
  errorCode : record.errorCode = p.outcome.errorCode

/-- The writes that a posting comes to: its record, and then a count if it is a success whose record
was stored. -/
inductive Settles (p : Posting) : List Attempt → Prop
  | refused {record : ExecutionRecord} (fault : Fault) :
      p.Agrees record → Settles p [⟨.create record, .error fault⟩]
  | failure {record : ExecutionRecord} :
      p.Agrees record → p.outcome.success = false → Settles p [⟨.create record, .ok ()⟩]
  | success {record : ExecutionRecord} (answer : Except Fault Unit) :
      p.Agrees record → p.outcome.success = true →
        Settles p [⟨.create record, .ok ()⟩, ⟨.bump p.outcome.workflowId, answer⟩]

/-- Each success that is stored is counted, or its count fails. -/
theorem Settles.balance {p : Posting} {attempts : List Attempt} (h : p.Settles attempts)
    (id : String) :
    (attempts.filterMap Attempt.stored?).countP (ExecutionRecord.succeeds id) =
      attempts.countP (Attempt.counts id) + attempts.countP (Attempt.misses id) := by
  cases h with
  | refused => rfl
  | @failure record agrees hs =>
      change [record].countP _ = 0
      rw [List.countP_singleton, ExecutionRecord.succeeds, agrees.success, hs]
      rfl
  | @success record answer agrees hs =>
      change [record].countP _ = _
      rw [List.countP_singleton, ExecutionRecord.succeeds, agrees.success, hs, agrees.workflowId]
      cases answer <;> simp [List.countP_cons, Attempt.counts, Attempt.misses]

theorem balance_flatten {postings : List Posting} {groups : List (List Attempt)}
    (h : List.Forall₂ Settles postings groups) (id : String) :
    (groups.flatten.filterMap Attempt.stored?).countP (ExecutionRecord.succeeds id) =
      groups.flatten.countP (Attempt.counts id) + groups.flatten.countP (Attempt.misses id) := by
  induction h with
  | nil => rfl
  | cons settles _ ih =>
      rw [List.flatten_cons, List.filterMap_append, List.countP_append, List.countP_append,
        List.countP_append, ih, settles.balance id]
      omega

/-- What the writes of a posting store agrees with it. -/
theorem Settles.stored {p : Posting} {attempts : List Attempt} (h : p.Settles attempts) :
    attempts.filterMap Attempt.stored? = [] ∨
      ∃ record, p.Agrees record ∧ attempts.filterMap Attempt.stored? = [record] := by
  cases h with
  | refused => exact .inl rfl
  | failure agrees => exact .inr ⟨_, agrees, rfl⟩
  | success answer agrees => exact .inr ⟨_, agrees, rfl⟩

/-- The records agree with some of the postings, in their order. -/
theorem stored_flatten {postings : List Posting} {groups : List (List Attempt)}
    (h : List.Forall₂ Settles postings groups) :
    ∃ kept, kept.Sublist postings ∧
      List.Forall₂ Agrees kept (groups.flatten.filterMap Attempt.stored?) := by
  induction h with
  | nil => exact ⟨[], List.Sublist.refl _, .nil⟩
  | @cons p attempts _ _ settles _ ih =>
      obtain ⟨kept, sublist, agree⟩ := ih
      rw [List.flatten_cons, List.filterMap_append]
      rcases settles.stored with hnone | ⟨record, agrees, hone⟩
      · rw [hnone]
        exact ⟨kept, sublist.cons p, agree⟩
      · rw [hone]
        exact ⟨p :: kept, sublist.cons_cons p, .cons agrees agree⟩

end Posting

/-! ### Recording a posting -/

/-- The posting of an outcome of an event. -/
def Event.posting (event : Event) (o : WorkflowOutcome) : Posting :=
  ⟨event.trigger, event.context, o⟩

section Recording

variable [Levels]

/-- The result of an outcome is null or an object that can be encoded. -/
def WorkflowOutcome.Recordable (o : WorkflowOutcome) : Prop :=
  o.result = .null ∨ ∃ entries, o.result = .object entries ∧ (Value.object entries).Encodable

theorem ExecutionRecord.make_eq_ok {event : Event} {o : WorkflowOutcome} {context result : Value}
    (hcontext : snapshot event.context = .ok context)
    (hresult : (if o.result.truthy then snapshot o.result else .ok (.object [])) = .ok result) :
    make event o = .ok {
      workflowId := o.workflowId, trigger := event.trigger, context := context
      success := o.success, result := result, error := o.error, errorCode := o.errorCode
      entityType := event.entityType, entityId := event.entityId } := by
  unfold make
  rw [hcontext]
  cases htruthy : o.result.truthy with
  | false =>
      rw [htruthy] at hresult
      cases hresult
      rfl
  | true =>
      rw [htruthy, if_pos rfl] at hresult
      rw [hresult]
      rfl

/-- A record can be made of whatever can be encoded, and it agrees with its posting. -/
theorem ExecutionRecord.make_of_recordable {event : Event} {entries : Entries}
    (hcontext : event.context = .object entries) (hkeys : event.context.WellKeyed)
    (hencoding : event.context.Encodable) {o : WorkflowOutcome} (ho : o.Recordable) :
    ∃ record, make event o = .ok record ∧ (event.posting o).Agrees record := by
  have hcopy : snapshot event.context = .ok event.context.reread := by
    rw [hcontext] at hkeys hencoding ⊢
    exact snapshot_eq_reread hkeys hencoding
  obtain ⟨result, hresult⟩ :
      ∃ result, (if o.result.truthy then snapshot o.result else .ok (.object [])) = .ok result := by
    rcases ho with hnull | ⟨inner, hobject, hinner⟩
    · rw [hnull]
      exact ⟨_, rfl⟩
    · rw [hobject]
      split
      · exact snapshot_of_encodable hinner
      · exact ⟨_, rfl⟩
  exact ⟨_, make_eq_ok hcopy hresult, rfl, rfl, rfl, rfl, rfl, rfl⟩

end Recording

variable {ε : Type} {r r' r'' : Recording (ε × Ledger)}

/-- The attempts have been entered in the ledger, and the failed ones among them have been counted. -/
structure Entered (attempts : List Attempt) (r r' : Recording (ε × Ledger)) : Prop where
  ledger : r'.sink.2 = r.sink.2.enterAll attempts
  failedWrites : r'.failedWrites = r.failedWrites + attempts.countP Attempt.failed

/-- What has been entered are the writes of the postings, in their order. -/
def Posted (postings : List Posting) (r r' : Recording (ε × Ledger)) : Prop :=
  ∃ groups, List.Forall₂ Posting.Settles postings groups ∧ Entered groups.flatten r r'

theorem Entered.trans {attempts more : List Attempt} (h : Entered attempts r r')
    (h' : Entered more r' r'') : Entered (attempts ++ more) r r'' where
  ledger := by
    rw [h'.ledger, h.ledger, enterAll, enterAll, enterAll, List.foldl_append]
  failedWrites := by
    rw [h'.failedWrites, h.failedWrites, List.countP_append, Nat.add_assoc]

theorem Entered.posted (h : Entered [] r r') : Posted [] r r' := ⟨[], .nil, h⟩

theorem Posted.trans {ps qs : List Posting} (h : Posted ps r r') (h' : Posted qs r' r'') :
    Posted (ps ++ qs) r r'' := by
  obtain ⟨groups, settled, entered⟩ := h
  obtain ⟨groups', settled', entered'⟩ := h'
  refine ⟨groups ++ groups', List.rel_append settled settled', ?_⟩
  rw [List.flatten_append]
  exact entered.trans entered'

/-- What the attempts store comes after the records that were there. -/
theorem Entered.records {attempts : List Attempt} (h : Entered attempts r r') :
    r'.sink.2.records = r.sink.2.records ++ attempts.filterMap Attempt.stored? := by
  rw [h.ledger, Ledger.enterAll_records]

/-- A write is entered with its answer, and the caller learns whether it succeeded. -/
theorem attempt_entered (write : Write) (action : StateM ε (Except Fault Unit))
    (r : Recording (ε × Ledger)) :
    (Recording.attempt (entered write action) r).1 = Except.isOk (action r.sink.1).1 ∧
      Entered [⟨write, (action r.sink.1).1⟩] r (Recording.attempt (entered write action) r).2 := by
  unfold Recording.attempt entered
  rcases (action r.sink.1).1 with fault | done
  · exact ⟨rfl, rfl, rfl⟩
  · exact ⟨rfl, rfl, rfl⟩

theorem record_apply [Levels] (sink : Sink ε) {event : Event} {o : WorkflowOutcome}
    {record : ExecutionRecord} (hmake : ExecutionRecord.make event o = .ok record)
    (r : Recording ε) :
    (sink.record event o r).2 =
      if ((Recording.attempt (sink.create record) r).1 && o.success) = true then
        (Recording.attempt (sink.bump o.workflowId)
          (Recording.attempt (sink.create record) r).2).2
      else (Recording.attempt (sink.create record) r).2 := by
  unfold Sink.record
  rw [hmake, StateM.bind_apply]
  dsimp only
  split <;> rfl

/-- The record of an outcome is written first, and after it at most one count. -/
theorem record_entered [Levels] (b : Backend ε) {event : Event} {o : WorkflowOutcome}
    {record : ExecutionRecord} (hmake : ExecutionRecord.make event o = .ok record)
    (r : Recording (ε × Ledger)) :
    ∃ counts : List Attempt,
      (counts = [] ∨ ∃ answer, counts = [⟨.bump o.workflowId, answer⟩]) ∧
      Entered (⟨.create record, (b.sink.create record r.sink.1).1⟩ :: counts) r
        (b.booked.sink.record event o r).2 := by
  have created := (attempt_entered (.create record) (b.sink.create record) r).2
  rw [record_apply b.booked.sink hmake r]
  split
  · have counted := (attempt_entered (.bump o.workflowId) (b.sink.bump o.workflowId)
      (Recording.attempt (b.booked.sink.create record) r).2).2
    exact ⟨_, .inr ⟨_, rfl⟩, created.trans counted⟩
  · exact ⟨[], .inl rfl, created⟩

/-- **Recording an outcome comes to the writes of its posting.** -/
theorem record_posted [Levels] (b : Backend ε) {event : Event} {o : WorkflowOutcome}
    {record : ExecutionRecord} (hmake : ExecutionRecord.make event o = .ok record)
    (agrees : (event.posting o).Agrees record) (r : Recording (ε × Ledger)) :
    Posted [event.posting o] r (b.booked.sink.record event o r).2 := by
  obtain ⟨answer, created, entered⟩ : ∃ answer,
      (Recording.attempt (b.booked.sink.create record) r).1 = Except.isOk answer ∧
        Entered [⟨.create record, answer⟩] r
          (Recording.attempt (b.booked.sink.create record) r).2 :=
    ⟨_, attempt_entered (.create record) (b.sink.create record) r⟩
  have settled : ∀ {attempts}, (event.posting o).Settles attempts →
      Entered attempts r (b.booked.sink.record event o r).2 →
        Posted [event.posting o] r (b.booked.sink.record event o r).2 := by
    intro attempts settles entered
    exact ⟨[attempts], .cons settles .nil, by rwa [List.flatten_singleton]⟩
  have recorded := record_apply b.booked.sink hmake r
  rw [created] at recorded
  cases answer with
  | error fault =>
      refine settled (.refused fault agrees) ?_
      rw [recorded]
      exact entered
  | ok done =>
      cases hs : o.success with
      | false =>
          refine settled (.failure agrees hs) ?_
          rw [recorded, hs]
          exact entered
      | true =>
          obtain ⟨answer, -, counted⟩ : ∃ answer, _ ∧ Entered [⟨.bump o.workflowId, answer⟩] _ _ :=
            ⟨_, attempt_entered (.bump o.workflowId) (b.sink.bump o.workflowId)
              (Recording.attempt (b.booked.sink.create record) r).2⟩
          refine settled (.success answer agrees hs) ?_
          rw [recorded, hs]
          exact entered.trans counted

end TriggerFlow
