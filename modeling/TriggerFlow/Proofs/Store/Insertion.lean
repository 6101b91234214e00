import TriggerFlow.Proofs.Store.Row
import TriggerFlow.Store.Column

/-! # Insertions

What comes of an insertion whose arguments have their types: either it raises, and both tables are as
before, or the row it was asked for is the last one of its table (`createFrom_cases`,
`recordFrom_cases`).  The columns give back what was put into them, with the not-a-number of the reader.
So the row has the very fields of its arguments, and the very tree and config too if nothing in them is
not-a-number (`Proposal.Stores.verbatim`). -/

namespace TriggerFlow.Store

open Outcome

/-! ### Arguments -/

/-- The arguments of a new workflow, as they are declared. -/
structure Proposal where
  name : String
  trigger : String
  tree : Value
  priority : Int := 0
  active : Bool := false
  status : String := Status.draft.name
  config : Option Entries := none
  description : Option String := none
  maxDepth : Int := Rule.defaultMaxDepth
  /-- No object of the tree has a key twice. -/
  tree_keyed : tree.WellKeyed
  config_keyed : (Value.ofOption .object config).WellKeyed

namespace Proposal

/-- The data of the columns. -/
def columns (p : Proposal) : Entries := [
  ("name", .str p.name), ("trigger", .str p.trigger), ("logic_tree", p.tree),
  ("priority", .int p.priority), ("is_active", .bool p.active), ("status", .str p.status),
  ("trigger_config", Value.ofOption .object p.config),
  ("description", Value.ofOption .str p.description)]

/-- The row that is asked for, not executed so far, with its tree and its config as they are read back. -/
def row (p : Proposal) (id : String) (created : Timestamp) : Workflow where
  id := id
  name := p.name
  trigger := p.trigger
  tree := p.tree.reread
  priority := p.priority
  active := .bool p.active
  status := some p.status
  config := (Value.ofOption .object p.config).reread
  description := p.description
  executions := 0
  lastExecuted := none
  version := 1
  created := some created

/-- The row is stored as it was asked for, the tree it was asked for with is valid by the validator of
the insertion, and its status is one of the vocabulary. -/
structure Stores [Levels] (p : Proposal) (w : Workflow) : Prop where
  row : ∃ created, w = p.row w.id created
  valid : Rule.validate p.maxDepth p.tree = .ok .accepted
  status : ∃ stage, Status.ofName? p.status = some stage

/-- Where nothing is not-a-number, the row has the tree and the config that it was asked for with. -/
theorem Stores.verbatim [Levels] {p : Proposal} {w : Workflow} (h : p.Stores w)
    (tree : p.tree.NaNFree) (config : (Value.ofOption .object p.config).NaNFree) :
    w.tree = p.tree ∧ w.config = Value.ofOption .object p.config := by
  obtain ⟨created, row⟩ := h.row
  rw [row]
  exact ⟨Value.reread_eq_self _ tree, Value.reread_eq_self _ config⟩

/-- The draft of the columns. -/
def draft (p : Proposal) : Draft where
  name := some p.name
  trigger := some p.trigger
  tree := p.tree
  priority := some p.priority
  active := .bool p.active
  status := some p.status
  config := Value.ofOption .object p.config
  description := p.description

variable (p : Proposal)

theorem draftOf_columns : draftOf p.columns =
    if Number.isWord p.priority then .ok p.draft else .error .word := by
  have description : textColumn (Value.ofOption .str p.description) = .ok p.description := by
    cases p.description <;> rfl
  change (do
    let name ← textColumn (.str p.name)
    let trigger ← textColumn (.str p.trigger)
    let priority ← integerColumn (.int p.priority)
    let status ← textColumn (.str p.status)
    let description ← textColumn (Value.ofOption .str p.description)
    return ({ p.draft with name, trigger, priority, status, description } : Draft)) = _
  rw [description, integerColumn]
  split <;> rfl

theorem row?_draft {id : String} {created : Timestamp} {w : Workflow}
    (h : Draft.row? p.draft id created = some w) :
    w = p.row id created ∧ ∃ stage, Status.ofName? p.status = some stage := by
  have flag : flag? (.bool p.active) = some p.active := by cases p.active <;> decide
  unfold Draft.row? at h
  dsimp only at h
  split at h
  · cases h
  · rename_i known
    simp only [draft, flag, column?, Json.read_write p.tree_keyed, Json.read_write p.config_keyed,
      Option.pure_def, Option.bind_eq_bind, Option.bind_some, Option.some.injEq] at h
    refine ⟨h.symm, ?_⟩
    rw [Option.isNone_iff_eq_none, ← Ne, Option.ne_none_iff_exists'] at known
    exact known

end Proposal

/-- The record with its data as they are read back. -/
def rereadRecord (r : ExecutionRecord) : ExecutionRecord :=
  { r with context := r.context.reread, result := r.result.reread }

/-- The arguments of a new record, as they are declared; the time it took is not kept. -/
structure Submission where
  record : ExecutionRecord
  milliseconds : Int := 0
  context_keyed : record.context.WellKeyed
  result_keyed : record.result.WellKeyed

namespace Submission

/-- The data of the columns. -/
def columns (r : Submission) : Entries := [
  ("workflow_id", .str r.record.workflowId), ("trigger", .str r.record.trigger),
  ("context_data", r.record.context), ("success", .bool r.record.success),
  ("result", r.record.result), ("execution_time_ms", .int r.milliseconds),
  ("error", Value.ofOption .str r.record.error),
  ("error_code", Value.ofOption .str r.record.errorCode),
  ("entity_type", Value.ofOption .str r.record.entityType),
  ("entity_id", Value.ofOption .str r.record.entityId)]

variable (r : Submission)

theorem fill_columns : Document.fill recordSlots r.columns = .ok r.columns := rfl

theorem recordDraftOf_columns : recordDraftOf r.columns =
    if Number.isWord r.milliseconds then .ok (.ofRecord r.record) else .error .word := by
  have text : ∀ field : Option String, textColumn (Value.ofOption .str field) = .ok field := by
    intro field
    cases field <;> rfl
  have flag : flag? (.bool r.record.success) = some r.record.success := by
    cases r.record.success <;> decide
  change (do
    let _ ← integerColumn (.int r.milliseconds)
    let workflowId ← textColumn (.str r.record.workflowId)
    let trigger ← textColumn (.str r.record.trigger)
    let error ← textColumn (Value.ofOption .str r.record.error)
    let errorCode ← textColumn (Value.ofOption .str r.record.errorCode)
    let entityType ← textColumn (Value.ofOption .str r.record.entityType)
    let entityId ← textColumn (Value.ofOption .str r.record.entityId)
    return ({ workflowId, trigger, context := r.record.context
              success := flag? (.bool r.record.success), result := r.record.result
              error, errorCode, entityType, entityId } : RecordDraft)) = _
  simp only [text, flag, integerColumn]
  split <;> rfl

end Submission

/-! ### What comes of them -/

/-- **What comes of a proposal.**  It is stored as the last row, under an id that is new, or it raises
and changes no table. -/
theorem createFrom_cases [Levels] (p : Proposal) (s : Store) :
    (∃ fault, (createFrom p.columns p.maxDepth s).1 = .error fault ∧
      (createFrom p.columns p.maxDepth s).2.tables = s.tables) ∨
    ∃ rows w, p.Stores w ∧ s.workflows = some rows ∧ w.id ∉ rows.map Workflow.id ∧
      (createFrom p.columns p.maxDepth s).1 = .ok w ∧
      (createFrom p.columns p.maxDepth s).2.tables = ⟨some (rows ++ [w]), s.records⟩ := by
  unfold createFrom
  rw [p.draftOf_columns]
  by_cases word : Number.isWord p.priority = true
  · rw [if_pos word]
    rcases create_cases p.draft p.maxDepth s with raises |
      ⟨rows, w, id, created, valid, hw, hrows, fresh, answer, after⟩
    · exact .inl raises
    · obtain ⟨rfl, status⟩ := p.row?_draft hw
      exact .inr ⟨rows, _, ⟨⟨created, rfl⟩, valid, status⟩, hrows, fresh, answer, after⟩
  · rw [if_neg word]
    dsimp only
    split
    · exact .inl ⟨_, rfl, rfl⟩
    · exact .inl ⟨_, rfl, rfl⟩

/-- **What comes of a submission.**  It is stored as the last record, under an id that is new, or it
raises and changes no table. -/
theorem recordFrom_cases [Levels] (r : Submission) (s : Store) :
    (∃ fault, (recordFrom r.columns s).1 = .error fault ∧
      (recordFrom r.columns s).2.tables = s.tables) ∨
    ∃ rows id created, s.records = some rows ∧ id ∉ rows.map StoredRecord.id ∧
      (recordFrom r.columns s).1 = .ok id ∧
      (recordFrom r.columns s).2.tables =
        ⟨s.workflows, some (rows ++ [⟨id, rereadRecord r.record, created⟩])⟩ := by
  have complete : (RecordDraft.ofRecord r.record).complete? = some r.record := rfl
  unfold recordFrom
  rw [r.fill_columns]
  dsimp only
  rw [r.recordDraftOf_columns]
  by_cases word : Number.isWord r.milliseconds = true
  · rw [if_pos word]
    unfold record
    dsimp only
    split
    · exact .inl ⟨_, rfl, rfl⟩
    · split
      · rename_i rows row hrows hrow
        simp only [complete, column?, Json.read_write r.context_keyed,
          Json.read_write r.result_keyed, Option.pure_def, Option.bind_eq_bind, Option.bind_some,
          Option.some.injEq] at hrow
        split
        · exact .inl ⟨_, rfl, rfl⟩
        · rename_i fresh
          subst hrow
          exact .inr ⟨rows, _, _, hrows, notMem_ids fresh, rfl, rfl⟩
      · exact .inl ⟨_, rfl, rfl⟩
  · rw [if_neg word]
    exact .inl ⟨_, rfl, rfl⟩

end TriggerFlow.Store
