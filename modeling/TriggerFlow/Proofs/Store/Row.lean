import TriggerFlow.Proofs.Json.RoundTrip
import TriggerFlow.Proofs.Rule.Verdict
import TriggerFlow.Store

/-! # What a stored workflow keeps of its draft

An insertion raises, and then changes no table, or its row is the last one of the table
(`create_cases`).  Under a new id, a valid draft that can be encoded is stored (`create_of_row`).  The
columns hold JSON text.  A well-keyed config is read back from its text, so a stored workflow has the
config of its draft, with the not-a-number of the reader (`create_config`), and a complete draft with a
valid tree is stored (`exists_create`). -/

namespace TriggerFlow.Store

open Outcome Value

variable {draft : Draft} {id : String} {created : Timestamp} {maxDepth : Int} {s : Store}
  {w : Workflow}

/-- Both tables. -/
structure Tables where
  workflows : Option (List Workflow)
  records : Option (List StoredRecord)

/-- The tables of a store. -/
def tables (s : Store) : Tables := ⟨s.workflows, s.records⟩

theorem notMem_ids {α : Type} {key : α → String} {rows : List α} {id : String}
    (h : ¬ (rows.any fun row => key row == id) = true) : id ∉ rows.map key := by
  intro known
  obtain ⟨row, hrow, same⟩ := List.mem_map.mp known
  exact h (List.any_eq_true.mpr ⟨row, hrow, beq_iff_eq.mpr same⟩)

/-- The insertion of a draft raises and changes no table, or its row is the last one then. -/
theorem create_cases [Levels] (d : Draft) (maxDepth : Int) (s : Store) :
    (∃ fault, (create d maxDepth s).1 = .error fault ∧
      (create d maxDepth s).2.tables = s.tables) ∨
    ∃ rows w id created, Rule.validate maxDepth d.tree = .ok .accepted ∧
      Draft.row? d id created = some w ∧ s.workflows = some rows ∧ id ∉ rows.map Workflow.id ∧
      (create d maxDepth s).1 = .ok w ∧
      (create d maxDepth s).2.tables = ⟨some (rows ++ [w]), s.records⟩ := by
  unfold create
  split
  · exact .inl ⟨_, rfl, rfl⟩
  · rename_i valid
    dsimp only
    split
    · exact .inl ⟨_, rfl, rfl⟩
    · split
      · rename_i rows w hrows hw
        split
        · exact .inl ⟨_, rfl, rfl⟩
        · rename_i fresh
          exact .inr ⟨rows, w, _, _, Rule.ensureValid_eq_ok.mp valid, hw, hrows, notMem_ids fresh,
            rfl, rfl⟩
      · exact .inl ⟨_, rfl, rfl⟩

theorem row?_config (h : draft.config.WellKeyed) (hw : Draft.row? draft id created = some w) :
    w.config = draft.config.reread := by
  unfold Draft.row? at hw
  dsimp only at hw
  split at hw
  · cases hw
  · simp only [column?, Json.read_write h, Option.pure_def, Option.bind_eq_bind,
      Option.bind_eq_some_iff, Option.some.injEq] at hw
    obtain ⟨_, -, _, -, _, -, _, -, _, rfl, rfl⟩ := hw
    rfl

/-- The config of a stored workflow is the one of its draft, as it is read back. -/
theorem create_config [Levels] (h : draft.config.WellKeyed) (hw : (create draft maxDepth s).1 = .ok w) :
    w.config = draft.config.reread := by
  rcases create_cases draft maxDepth s with ⟨fault, raised, -⟩ |
    ⟨rows, v, id, created, -, hv, -, -, stored, -⟩
  · cases raised.symm.trans hw
  · cases stored.symm.trans hw
    exact row?_config h hv

theorem encode_two [Levels] (v w : Value) : [v, w].forM checkEncoding =
    (do v.checkEncoding; w.checkEncoding; return ()) := rfl

theorem encode_two_eq_ok [Levels] {v w : Value} :
    [v, w].forM checkEncoding = .ok () ↔ v.Encodable ∧ w.Encodable := by
  rw [← checkEncoding_eq_ok, ← checkEncoding_eq_ok, encode_two, bind_eq_ok]
  simp only [bind_eq_ok]
  exact ⟨fun ⟨_, tree, _, config, _⟩ => ⟨tree, config⟩,
    fun ⟨tree, config⟩ => ⟨_, tree, _, config, rfl⟩⟩

/-- A draft is stored if its tree is valid, its data can be encoded, and its row and id are right. -/
theorem create_of_row [Levels] {rows : List Workflow}
    (valid : Rule.validate maxDepth draft.tree = .ok .accepted) (tree : draft.tree.Encodable)
    (config : draft.config.Encodable)
    (hw : Draft.row? draft s.takeRow.1.1 s.takeRow.1.2 = some w) (hrows : s.workflows = some rows)
    (fresh : s.takeRow.1.1 ∉ rows.map Workflow.id) :
    create draft maxDepth s = (.ok w, { s.takeRow.2 with workflows := some (rows ++ [w]) }) := by
  have encodes : [draft.tree, draft.config].forM checkEncoding = .ok () := by
    rw [encode_two, checkEncoding_eq_ok.mpr tree, checkEncoding_eq_ok.mpr config]
    rfl
  have table : s.takeRow.2.workflows = some rows := hrows
  have unused : (rows.any fun row => row.id == s.takeRow.1.1) = false := by
    rw [List.any_eq_false]
    exact fun row hrow same => fresh (beq_iff_eq.mp same ▸ List.mem_map_of_mem hrow)
  simp [create, Rule.ensureValid_eq_ok.mpr valid, encodes, table, hw, unused]

/-- A complete draft with a valid tree is stored in an empty table. -/
theorem exists_create [Levels] (valid : Rule.validate maxDepth draft.tree = .ok .accepted)
    (name : draft.name.isSome) (trigger : draft.trigger.isSome)
    (status : (Status.ofName? (draft.status.getD Status.draft.name)).isSome)
    (active : (flag? draft.active).isSome) (tree : draft.tree.WellKeyed)
    (config : draft.config.WellKeyed) (tree_encodes : draft.tree.Encodable)
    (config_encodes : draft.config.Encodable) (empty : s.workflows = some []) :
    ∃ w, (create draft maxDepth s).1 = .ok w := by
  have row (id : String) (created : Timestamp) : ∃ w, Draft.row? draft id created = some w := by
    obtain ⟨name, hn⟩ := Option.isSome_iff_exists.mp name
    obtain ⟨trigger, ht⟩ := Option.isSome_iff_exists.mp trigger
    obtain ⟨status, hs⟩ := Option.isSome_iff_exists.mp status
    obtain ⟨active, ha⟩ := Option.isSome_iff_exists.mp active
    simp [Draft.row?, hn, ht, hs, ha, column?, Json.read_write tree, Json.read_write config]
  obtain ⟨w, hw⟩ := row s.takeRow.1.1 s.takeRow.1.2
  exact ⟨w, by rw [create_of_row valid tree_encodes config_encodes hw empty List.not_mem_nil]⟩

end TriggerFlow.Store
