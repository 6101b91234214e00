import Mathlib.Data.List.Forall2
import TriggerFlow.Proofs.Store.Admission
import TriggerFlow.Proofs.Store.Feed
import TriggerFlow.Proofs.Store.Transaction

/-! # The history of a store

What a run of transactions makes of the tables can be read off its history.  Every step keeps the
constraints of the tables (`Step.sound`); the workflows are those that were created, each with the bumps
since (`Run.workflows`), and the records are those that were submitted, in their order (`Run.records`).
Both are by induction on the run, from any tables.  `performAll_accounted` puts them together for a store
that starts with empty tables, with what the three queries answer at its end. -/

namespace TriggerFlow.Store

/-- Calls with what came of them. -/
abbrev History := List (Command × Except Fault Reply)

/-- Performs transactions one after another. -/
def performAll [Levels] : List Transaction → StateM Store History
  | [] => return []
  | x :: rest => do
    let reply ← x.perform
    let later ← performAll rest
    return (x.command, reply) :: later

/-! ### What a history tells -/

/-- Whether it is a bump of the id that succeeded. -/
def isBump (id : String) : Command × Except Fault Reply → Bool
  | (.bump given, .ok _) => given == id
  | _ => false

/-- A workflow that was created: what was asked for, the row that was stored, and how many bumps it has
had since. -/
structure Tally where
  proposal : Proposal
  row : Workflow
  bumps : Nat

/-- The workflows that were created, in their order. -/
def tallies : History → List Tally
  | [] => []
  | (.create p, .ok (.created w)) :: later => ⟨p, w, later.countP (isBump w.id)⟩ :: tallies later
  | _ :: later => tallies later

/-- The records that were stored under their ids, in their order. -/
def filings : History → List (Submission × String)
  | [] => []
  | (.record r, .ok (.recorded id)) :: later => (r, id) :: filings later
  | _ :: later => filings later

/-- The row of a workflow that was created: it was stored as asked for, and it is as it was stored but
for the count of its executions, which is that of the bumps, and the time of the last one. -/
structure Tally.Keeps [Levels] (tally : Tally) (row : Workflow) : Prop where
  stores : tally.proposal.Stores tally.row
  executions : row.executions = tally.bumps
  rest : row = { tally.row with executions := row.executions, lastExecuted := row.lastExecuted }

/-- The row of a record that was stored: it has the data as they are read back. -/
def Filed (filing : Submission × String) (row : StoredRecord) : Prop :=
  row.id = filing.2 ∧ row.record = rereadRecord filing.1.record

/-- The row after so many more bumps: nothing but their count and the time of the last one is new. -/
def Aged (n : Nat) (w row : Workflow) : Prop :=
  row = { w with executions := w.executions + n, lastExecuted := row.lastExecuted }

theorem aged_zero (w : Workflow) : Aged 0 w w := by
  simp [Aged]

theorem Aged.of_bumpRow {id : String} {now : WallTime} {w row : Workflow} {n : Nat}
    (h : Aged n (bumpRow id now w) row) : Aged (n + if id == w.id then 1 else 0) w row := by
  by_cases same : id = w.id
  · rw [if_pos (beq_iff_eq.mpr same)]
    unfold bumpRow at h
    rw [if_pos (beq_iff_eq.mpr same.symm)] at h
    unfold Aged at h ⊢
    rw [h]
    simp only [Workflow.mk.injEq, true_and, and_true]
    omega
  · rw [bumpRow_of_ne (Ne.symm same)] at h
    rw [if_neg fun hb => same (beq_iff_eq.mp hb)]
    exact h

theorem Tally.keeps_of_aged [Levels] {tally : Tally} {row : Workflow}
    (stores : tally.proposal.Stores tally.row) (aged : Aged tally.bumps tally.row row) :
    tally.Keeps row := by
  have none : tally.row.executions = 0 := by
    obtain ⟨created, hrow⟩ := stores.row
    rw [hrow]
    rfl
  have count : row.executions = tally.row.executions + tally.bumps :=
    congrArg Workflow.executions aged
  refine ⟨stores, ?_, ?_⟩
  · rw [count, none, Int.zero_add]
  · rw [count]
    exact aged

/-! ### Runs -/

/-- A history that leads from tables to tables. -/
inductive Run [Levels] : History → Tables → Tables → Prop
  | nil (t : Tables) : Run [] t t
  | cons {c : Command} {reply : Except Fault Reply} {h : History} {t t' t'' : Tables} :
      Step c reply t t' → Run h t' t'' → Run ((c, reply) :: h) t t''

theorem performAll_run [Levels] (transactions : List Transaction) (s : Store) :
    Run (performAll transactions s).1 s.tables (performAll transactions s).2.tables := by
  induction transactions generalizing s with
  | nil => exact .nil _
  | cons x rest ih => exact .cons (x.perform_step s) (ih (x.perform s).2)

/-- Tables that are there and keep their constraints. -/
structure Sound (t : Tables) : Prop where
  workflows : ∃ rows, t.workflows = some rows ∧ IsTable rows
  records : ∃ rows, t.records = some rows ∧ (rows.map StoredRecord.id).Nodup

theorem nodup_map_concat {α : Type} {key : α → String} {rows : List α} {row : α}
    (distinct : (rows.map key).Nodup) (fresh : key row ∉ rows.map key) :
    ((rows ++ [row]).map key).Nodup := by
  rw [List.map_append, List.map_singleton, ← List.concat_eq_append]
  exact distinct.concat fresh

theorem isTable_nil : IsTable [] where
  distinct := .nil
  dated _ hw := (List.not_mem_nil hw).elim
  flagged _ hw := (List.not_mem_nil hw).elim

theorem IsTable.append [Levels] {rows : List Workflow} (table : IsTable rows) {p : Proposal} {w : Workflow}
    (stores : p.Stores w) (fresh : w.id ∉ rows.map Workflow.id) : IsTable (rows ++ [w]) := by
  obtain ⟨created, row⟩ := stores.row
  refine ⟨nodup_map_concat table.distinct fresh, fun v hv => ?_, fun v hv => ?_⟩
  · rcases List.mem_append.mp hv with hv | hv
    · exact table.dated v hv
    · rw [List.mem_singleton.mp hv, row]
      rfl
  · rcases List.mem_append.mp hv with hv | hv
    · exact table.flagged v hv
    · rw [List.mem_singleton.mp hv, row]
      exact ⟨p.active, rfl⟩

theorem IsTable.map_bumpRow {rows : List Workflow} (table : IsTable rows) (id : String)
    (now : WallTime) : IsTable (rows.map (bumpRow id now)) := by
  have kept : ∀ w, (bumpRow id now w).created = w.created ∧
      (bumpRow id now w).active = w.active := by
    intro w
    unfold bumpRow
    split <;> exact ⟨rfl, rfl⟩
  refine ⟨?_, List.forall_mem_map.mpr fun w hw => ?_, List.forall_mem_map.mpr fun w hw => ?_⟩
  · rw [List.map_map, show Workflow.id ∘ bumpRow id now = Workflow.id from funext (bumpRow_id id now)]
    exact table.distinct
  · rw [(kept w).1]
    exact table.dated w hw
  · rw [(kept w).2]
    exact table.flagged w hw

/-- A step keeps the constraints of the tables. -/
theorem Step.sound [Levels] {c : Command} {reply : Except Fault Reply} {t t' : Tables}
    (step : Step c reply t t') (sound : Sound t) : Sound t' := by
  obtain ⟨⟨ws, hws, table⟩, ⟨rs, hrs, distinct⟩⟩ := sound
  cases step with
  | raised => exact ⟨⟨ws, hws, table⟩, ⟨rs, hrs, distinct⟩⟩
  | read => exact ⟨⟨ws, hws, table⟩, ⟨rs, hrs, distinct⟩⟩
  | created stores fresh records =>
      cases hws
      exact ⟨⟨_, rfl, table.append stores fresh⟩, ⟨rs, hrs, distinct⟩⟩
  | recorded r created fresh workflows =>
      cases hrs
      exact ⟨⟨ws, hws, table⟩, ⟨_, rfl, nodup_map_concat distinct fresh⟩⟩
  | bumped id now rows records =>
      cases hws
      exact ⟨⟨_, rfl, table.map_bumpRow id now⟩, ⟨rs, hrs, distinct⟩⟩

theorem Run.sound [Levels] {h : History} {t t' : Tables} (run : Run h t t') (sound : Sound t) : Sound t' := by
  induction run with
  | nil => exact sound
  | cons step _ ih => exact ih (step.sound sound)

theorem forall₂_concat {α β : Type} {R : α → β → Prop} {xs : List α} {x : α} {ys : List β}
    (h : List.Forall₂ R (xs ++ [x]) ys) :
    ∃ before y, ys = before ++ [y] ∧ List.Forall₂ R xs before ∧ R x y := by
  induction xs generalizing ys with
  | nil =>
      obtain _ | ⟨last, _ | _⟩ := h
      exact ⟨[], _, rfl, .nil, last⟩
  | cons x' xs ih =>
      obtain _ | ⟨first, rest⟩ := h
      obtain ⟨before, y, rfl, rest, last⟩ := ih rest
      exact ⟨_ :: before, y, rfl, .cons first rest, last⟩

/-- **The workflows of a run.**  The rows that were there are still there, each with the bumps of its id,
and after them are the rows that were created, each with the bumps since. -/
theorem Run.workflows [Levels] {h : History} {t t' : Tables} (run : Run h t t') {rows : List Workflow}
    (hrows : t.workflows = some rows) :
    ∃ old new, t'.workflows = some (old ++ new) ∧
      List.Forall₂ (fun w row => Aged (h.countP (isBump w.id)) w row) rows old ∧
      List.Forall₂ Tally.Keeps (tallies h) new := by
  induction run generalizing rows with
  | nil t =>
      refine ⟨rows, [], by rw [List.append_nil, hrows], ?_, .nil⟩
      exact List.forall₂_same.mpr fun w _ => aged_zero w
  | @cons c reply h t t' t'' step run ih =>
      -- A step that leaves the workflows alone is in no tally and no count.
      have quiet (same : t'.workflows = t.workflows) (noBump : ∀ id, isBump id (c, reply) = false)
          (noTally : tallies ((c, reply) :: h) = tallies h) :
          ∃ old new, t''.workflows = some (old ++ new) ∧
            List.Forall₂ (fun w row => Aged (List.countP (isBump w.id) ((c, reply) :: h)) w row)
              rows old ∧
            List.Forall₂ Tally.Keeps (tallies ((c, reply) :: h)) new := by
        obtain ⟨old, new, after, aged, kept⟩ := ih (same.trans hrows)
        refine ⟨old, new, after, aged.imp fun w row h => ?_, noTally ▸ kept⟩
        rwa [List.countP_cons_of_neg (by rw [noBump]; exact Bool.false_ne_true)]
      cases step with
      | raised => exact quiet rfl (fun _ => by cases c <;> rfl) (by cases c <;> rfl)
      | read reads =>
          cases c with
          | get | active | list => exact quiet rfl (fun _ => rfl) rfl
          | create | record | bump => cases reads
      | recorded => exact quiet rfl (fun _ => rfl) rfl
      | @created p w _ stores fresh records =>
          cases hrows
          obtain ⟨_, new, after, aged, kept⟩ := ih rfl
          obtain ⟨old, row, rfl, aged, first⟩ := forall₂_concat aged
          refine ⟨old, row :: new, ?_, aged.imp fun v row h => ?_, ?_⟩
          · rw [after, List.append_assoc]
            rfl
          · rwa [List.countP_cons_of_neg Bool.false_ne_true]
          · exact .cons (Tally.keeps_of_aged stores first) kept
      | bumped id now _ records =>
          cases hrows
          obtain ⟨old, new, after, aged, kept⟩ := ih rfl
          refine ⟨old, new, after, ?_, kept⟩
          refine (List.forall₂_map_left_iff.mp aged).imp fun w row later => ?_
          rw [bumpRow_id] at later
          rw [List.countP_cons]
          exact later.of_bumpRow

/-- **The records of a run.**  The records that were there are still there, as they were, and after them
are those that were submitted. -/
theorem Run.records [Levels] {h : History} {t t' : Tables} (run : Run h t t') {rows : List StoredRecord}
    (hrows : t.records = some rows) :
    ∃ added, t'.records = some (rows ++ added) ∧ List.Forall₂ Filed (filings h) added := by
  induction run generalizing rows with
  | nil t => exact ⟨[], by rw [List.append_nil, hrows], .nil⟩
  | @cons c reply h t t' t'' step run ih =>
      have quiet (same : t'.records = t.records) (unfiled : filings ((c, reply) :: h) = filings h) :
          ∃ added, t''.records = some (rows ++ added) ∧
            List.Forall₂ Filed (filings ((c, reply) :: h)) added := by
        rw [unfiled]
        exact ih (same.trans hrows)
      cases step with
      | raised => exact quiet rfl (by cases c <;> rfl)
      | read reads =>
          cases c with
          | get | active | list => exact quiet rfl rfl
          | create | record | bump => cases reads
      | created => exact quiet rfl rfl
      | bumped => exact quiet rfl rfl
      | @recorded r id created _ fresh workflows =>
          cases hrows
          obtain ⟨added, after, filed⟩ := ih rfl
          refine ⟨⟨id, rereadRecord r.record, created⟩ :: added, ?_, .cons ⟨rfl, rfl⟩ filed⟩
          rw [after, List.append_assoc]
          rfl

/-! ### Queries -/

/-- The newest `n` records of a workflow. -/
structure IsNewest (workflowId : String) (n : Nat) (records listed : List StoredRecord) : Prop where
  own : ∀ r ∈ listed, r ∈ records ∧ r.record.workflowId = workflowId
  length : listed.length = min n (records.countP fun r => r.record.workflowId == workflowId)
  distinct : (listed.map StoredRecord.id).Nodup
  ordered : listed.Pairwise fun r t => t.created.wall ≤ r.created.wall
  /-- No record that is left out is newer than one that is not. -/
  newest : ∀ r ∈ records, r.record.workflowId = workflowId → r ∉ listed →
    ∀ t ∈ listed, r.created.wall ≤ t.created.wall

theorem get_eq {s : Store} {rows : List Workflow} (hrows : s.workflows = some rows) (id : String) :
    get id s = (.ok (rows.find? fun w => w.id == id), s) := by
  rw [get, hrows]

theorem get_of_mem {s : Store} {rows : List Workflow} (hrows : s.workflows = some rows)
    (table : IsTable rows) {row : Workflow} (hrow : row ∈ rows) :
    get row.id s = (.ok (some row), s) := by
  have found : rows.find? (fun w => w.id == row.id) = some row := by
    obtain ⟨w, hw⟩ := Option.isSome_iff_exists.mp
      (List.find?_isSome (p := fun w => w.id == row.id) |>.mpr
        ⟨row, hrow, beq_self_eq_true row.id⟩)
    have same : w.id = row.id := by simpa using List.find?_some hw
    rw [hw, List.inj_on_of_nodup_map table.distinct (List.mem_of_find?_eq_some hw) hrow same]
  rw [get_eq hrows, found]

theorem get_of_unknown {s : Store} {rows : List Workflow} (hrows : s.workflows = some rows)
    {id : String} (unknown : id ∉ rows.map Workflow.id) : get id s = (.ok none, s) := by
  have missing : rows.find? (fun w => w.id == id) = none := by
    refine List.find?_eq_none.mpr fun w hw same => unknown ?_
    exact List.mem_map.mpr ⟨w, hw, beq_iff_eq.mp same⟩
  rw [get_eq hrows, missing]

theorem isNewest_of_selects {rows listed : List StoredRecord} {id : String} {n : Nat}
    (distinct : (rows.map StoredRecord.id).Nodup)
    (h : Selects (fun r : StoredRecord => r.record.workflowId == id)
      (fun r t => decide (t.created.wall ≤ r.created.wall)) n rows.reverse listed) :
    IsNewest id n rows listed := by
  refine ⟨fun r hr => ?_, ?_, h.nodup_map ?_, h.ranked.imp of_decide_eq_true,
    fun r hr own left t ht => ?_⟩
  · obtain ⟨mem, own⟩ := h.passes r hr
    exact ⟨List.mem_reverse.mp mem, beq_iff_eq.mp own⟩
  · rw [h.length, List.countP_reverse]
  · rw [List.map_reverse, List.nodup_reverse]
    exact distinct
  · exact of_decide_eq_true (h.first r (List.mem_reverse.mpr hr) (beq_iff_eq.mpr own) left t ht)

theorem list_isNewest {s : Store} {rows : List StoredRecord} (hrows : s.records = some rows)
    (distinct : (rows.map StoredRecord.id).Nodup) (id : String) {k : Int} (hk : 0 ≤ k)
    (word : k < 2 ^ 63) :
    ∃ listed, list id k s = (.ok listed, s) ∧ IsNewest id k.toNat rows listed := by
  have limited : ¬ k < 0 := Int.not_lt.mpr hk
  have trans : ∀ r t u : StoredRecord, decide (t.created.wall ≤ r.created.wall) = true →
      decide (u.created.wall ≤ t.created.wall) = true →
        decide (u.created.wall ≤ r.created.wall) = true := fun r t u hr ht =>
    decide_eq_true (Int.le_trans (of_decide_eq_true ht) (of_decide_eq_true hr))
  have total : ∀ r t : StoredRecord, (decide (t.created.wall ≤ r.created.wall) ||
      decide (r.created.wall ≤ t.created.wall)) = true := fun r t => by
    simpa using Int.le_total t.created.wall r.created.wall
  refine ⟨_, ?_, isNewest_of_selects distinct (selects_take trans total rows.reverse k.toNat)⟩
  unfold list Store.limited
  simp [hrows, Number.isWord_of_lt hk word, limited]

theorem list_of_beyond_word {s : Store} {rows : List StoredRecord} (hrows : s.records = some rows)
    (id : String) {k : Int} (beyond : 2 ^ 63 ≤ k) :
    list id k s = (.error (.breakdown .integerBeyondWord), s) := by
  unfold list
  simp [hrows, Number.isWord_of_beyond beyond]

/-! ### From empty tables -/

/-- The tables as the history tells them, with their constraints. -/
structure Accounted [Levels] (h : History) (rows : List Workflow) (records : List StoredRecord) : Prop where
  kept : List.Forall₂ Tally.Keeps (tallies h) rows
  table : IsTable rows
  filed : List.Forall₂ Filed (filings h) records
  distinct : (records.map StoredRecord.id).Nodup

/-- What the queries for one workflow answer: its row, and its newest records. -/
structure Answered (s : Store) (rows : List Workflow) (records : List StoredRecord) : Prop where
  found : ∀ row ∈ rows, get row.id s = (.ok (some row), s)
  unknown : ∀ id, id ∉ rows.map Workflow.id → get id s = (.ok none, s)
  listed : ∀ id k, 0 ≤ k → k < 2 ^ 63 →
    ∃ newest, list id k s = (.ok newest, s) ∧ IsNewest id k.toNat records newest
  beyond : ∀ id k, 2 ^ 63 ≤ k → list id k s = (.error (.breakdown .integerBeyondWord), s)

/-- **The tables of a run.**  Let a store with empty tables perform transactions, some of which may raise
or be undone.  A transaction that raises changes no table, a bump of an unknown id changes nothing, and
records are only added.  In the end each workflow that was created has its row as it was asked for, with
a tree that was valid then and with the bumps since as its executions; there are no other rows; the
records are those that were submitted; and the queries answer by these tables.  Trees, configs and data
of records are there as they are read back from their texts.  A limit that no word of the database holds
is an error of the driver. -/
theorem performAll_accounted [Levels] (transactions : List Transaction) {s : Store}
    (noWorkflows : s.workflows = some []) (noRecords : s.records = some []) :
    (∀ (x : Transaction) (t : Store) (fault : Fault), (x.perform t).1 = .error fault →
      (x.perform t).2.tables = t.tables) ∧
    (∀ (id : String) (t : Store) (rows : List Workflow), t.workflows = some rows →
      id ∉ rows.map Workflow.id → bump id t = (.ok (), t)) ∧
    (∀ (x : Transaction) (t : Store) (rows : List StoredRecord), t.records = some rows →
      ∃ added, (x.perform t).2.records = some (rows ++ added)) ∧
    ∃ rows records, (performAll transactions s).2.tables = ⟨some rows, some records⟩ ∧
      Accounted (performAll transactions s).1 rows records ∧
      Answered (performAll transactions s).2 rows records := by
  refine ⟨fun x t fault raised => ?_, fun id t rows => bump_of_unknown, fun x t rows hrows => ?_, ?_⟩
  · have step := x.perform_step t
    rw [raised] at step
    exact step.tables_eq
  · obtain ⟨added, after, -⟩ := (Run.cons (x.perform_step t) (.nil _)).records hrows
    exact ⟨added, after⟩
  · have run := performAll_run transactions s
    have sound : Sound s.tables := ⟨⟨[], noWorkflows, isTable_nil⟩, ⟨[], noRecords, .nil⟩⟩
    obtain ⟨⟨rows, hrows, table⟩, ⟨records, hrecords, distinct⟩⟩ := run.sound sound
    obtain ⟨old, new, after, none, kept⟩ := run.workflows noWorkflows
    cases none
    obtain ⟨added, after', filed⟩ := run.records noRecords
    rw [List.nil_append] at after after'
    cases hrows.symm.trans after
    cases hrecords.symm.trans after'
    refine ⟨rows, records, ?_, ⟨kept, table, filed, distinct⟩, ?_⟩
    · exact congrArg₂ Tables.mk after after'
    · exact ⟨fun row hrow => get_of_mem after table hrow, fun id => get_of_unknown after,
        fun id k hk word => list_isNewest after' distinct id hk word,
        fun id k beyond => list_of_beyond_word after' id beyond⟩

/-! ### A run with one row -/

/-- An empty tree, which is valid and decides on nothing. -/
def emptyProposal : Proposal where
  name := "Idle"
  trigger := "ORDER_CREATED"
  tree := .object []
  tree_keyed := Value.wellKeyed_object List.nodup_nil nofun
  config_keyed := Value.wellKeyed_of_nesting_zero rfl

def emptySubmission : Submission where
  record := {
    workflowId := "w1", trigger := "ORDER_CREATED", context := .object [], success := true
    result := .object [] }
  context_keyed := Value.wellKeyed_object List.nodup_nil nofun
  result_keyed := Value.wellKeyed_object List.nodup_nil nofun

def creation : Transaction := { command := .create emptyProposal, ids := ["w1"] }

/-- A bump, one that is undone, one of an id that is unknown, and two records of one id. -/
def laterTransactions : List Transaction := [
  { command := .bump "w1" }, { command := .bump "w1", outage := some "disk full" },
  { command := .bump "w2" }, { command := .record emptySubmission, ids := ["r1"] },
  { command := .record emptySubmission, ids := ["r1"] }]

/-- The row of the proposal, and the store with this row. -/
def emptyRow : Workflow := emptyProposal.row "w1" ⟨0, some 0⟩

def rowStore : Store := { workflows := some [emptyRow], taken := 1, now := Calendar.secondMicros }

theorem perform_creation : creation.perform {} = (.ok (.created emptyRow), rowStore) := by
  have tree : Rule.validate 10 (Rule.negations 0) = .ok .accepted :=
    (Rule.validate_negations (by decide)).mpr (by decide)
  have valid : Rule.ensureValid 10 emptyProposal.draft.tree = .ok () :=
    Rule.ensureValid_eq_ok.mpr tree
  have stored : createFrom emptyProposal.columns 10 (creation.begun {}) = (.ok emptyRow, rowStore) := by
    change create emptyProposal.draft 10 (creation.begun {}) = _
    rw [create, valid]
    rfl
  have performed : creation.command.perform (creation.begun {}) = (.ok (.created emptyRow), rowStore) := by
    change Command.replying .created (createFrom emptyProposal.columns 10) (creation.begun {}) = _
    rw [Command.replying, stored]
    rfl
  rw [Transaction.perform, performed]
  rfl

theorem performAll_accounted_creation :
    (performAll (creation :: laterTransactions) {}).1.map (fun e => Except.isOk e.2) =
        [true, true, false, true, true, false] ∧
      ∃ row record, (performAll (creation :: laterTransactions) {}).2.tables =
          ⟨some [row], some [record]⟩ ∧
        row.executions = 1 ∧ row.tree = .object [] ∧ record.record = emptySubmission.record := by
  have history : (performAll (creation :: laterTransactions) {}).1 =
      (creation.command, .ok (.created emptyRow)) :: (performAll laterTransactions rowStore).1 := by
    change (creation.command, (creation.perform {}).1) ::
      (performAll laterTransactions (creation.perform {}).2).1 = _
    rw [perform_creation]
  obtain ⟨-, -, -, rows, records, after, accounted, -⟩ :=
    performAll_accounted (creation :: laterTransactions) (s := {}) rfl rfl
  have kept : List.Forall₂ Tally.Keeps [⟨emptyProposal, emptyRow, 1⟩] rows := by
    have := accounted.kept
    rw [history] at this
    exact this
  have filed : List.Forall₂ Filed [(emptySubmission, "r1")] records := by
    have := accounted.filed
    rw [history] at this
    exact this
  obtain _ | ⟨row, _ | _⟩ := kept
  obtain _ | ⟨record, _ | _⟩ := filed
  refine ⟨by rw [history]; rfl, _, _, after, row.executions, ?_, record.2⟩
  rw [row.rest]
  rfl

/-- A limit of 64 bits is refused, though there is nothing to list. -/
theorem list_refuses_wide_limit :
    ({} : Store).records = some [] ∧ (0 : Int) ≤ 2 ^ 63 ∧ ∀ listed s,
      list "w1" (2 ^ 63) {} ≠ (.ok listed, s) := by
  refine ⟨rfl, by decide, fun listed s h => ?_⟩
  have refused := @list_of_beyond_word {} [] rfl "w1" (2 ^ 63) (by decide)
  cases refused.symm.trans h

end TriggerFlow.Store
