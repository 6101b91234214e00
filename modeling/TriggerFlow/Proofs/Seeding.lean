import TriggerFlow.Proofs.Schema.Definition
import TriggerFlow.Proofs.Store.Row
import TriggerFlow.Proofs.Value.Limits
import TriggerFlow.Seeding

/-! # What a seeding stores

An entry is skipped if the schema refuses it, and stored as its definition if the schema accepts it
(`entry_cases`).  But there are entries that do neither and end the whole seeding (`Halts`): the trial
of the tree overflows, the name cannot be told, or the tree or the config cannot be encoded.  A seeding
comes to the first such entry with all definitions before it stored, one row for each in their order
(`seedFrom_of_quiet`), and so what it does is known of every list of entries: `seed_outcome`.  A row has
the tree and the config of its definition as they are read back. -/

namespace TriggerFlow.Seeding

open Outcome Schema Value

variable {entry : Entries} {entries before : List Entries} {cause : Breakdown}
  {fault : Fault} {d : Definition} {problems : List Problem} {s : Store} {n : Nat}

/-! ### Entries -/

section

variable [Levels]

/-- Why an entry ends a seeding. -/
inductive Halts (entry : Entries) : Fault → Prop
  | trial {tree : Value} {cause : Breakdown} : entry.lookup "logic_tree" = some tree →
      Rule.WellFormed Rule.defaultMaxDepth tree → cause.OfOverflow →
      Rule.evaluate tree (.object []) = .error (.breakdown cause) → Halts entry (.breakdown cause)
  | name {problems : List Problem} {cause : Breakdown} :
      Definition.read (.object entry) = .refused problems →
      Unwritable (entry.get "name") cause → Halts entry (.breakdown cause)
  | data {d : Definition} : Definition.read (.object entry) = .accepted d →
      ¬ ((draftOf d).tree.Encodable ∧ (draftOf d).config.Encodable) →
      Halts entry (Store.encodingFault "create_workflow" [(draftOf d).tree, (draftOf d).config])

/-- The definitions that the schema accepts. -/
def definitions (entries : List Entries) : List Definition :=
  entries.filterMap fun entry =>
    match Definition.read (.object entry) with
    | .accepted d => some d
    | _ => none

/-- What is told of the entries that the schema refuses. -/
def skipLines (entries : List Entries) : List String :=
  entries.filterMap fun entry =>
    match Definition.read (.object entry) with
    | .refused problems => (skipLine entry problems.length).toOption
    | _ => none

theorem skipLine_eq_error {count : Nat} :
    skipLine entry count = .error cause ↔ Unwritable (entry.get "name") cause := by
  rw [skipLine, bind_eq_error]
  change written _ _ = _ ∨ _ ↔ _
  rw [written_eq_error]
  exact ⟨fun h => h.resolve_right nofun, .inl⟩

/-- An entry ends the seeding, or it is refused and told, or it is accepted and can be encoded. -/
theorem entry_cases (entry : Entries) :
    (∃ fault, Halts entry fault) ∨
    (∃ problems line, Definition.read (.object entry) = .refused problems ∧
      skipLine entry problems.length = .ok line) ∨
    ∃ d, Definition.read (.object entry) = .accepted d ∧ (draftOf d).tree.Encodable ∧
      (draftOf d).config.Encodable := by
  cases read : Definition.read (.object entry) with
  | broken cause =>
      obtain ⟨tree, found, formed, overflow, trial⟩ := Definition.read_eq_broken.mp read
      exact .inl ⟨_, .trial found formed overflow trial⟩
  | refused problems =>
      cases told : skipLine entry problems.length with
      | error cause => exact .inl ⟨_, .name read (skipLine_eq_error.mp told)⟩
      | ok line => exact .inr (.inl ⟨problems, line, rfl, told⟩)
  | accepted d =>
      by_cases encodes : (draftOf d).tree.Encodable ∧ (draftOf d).config.Encodable
      · exact .inr (.inr ⟨d, rfl, encodes⟩)
      · exact .inl ⟨_, .data read encodes⟩

theorem not_halts_of_refused (read : Definition.read (.object entry) = .refused problems)
    (name : (entry.get "name").Encodable) : ¬ Halts entry fault := by
  rintro (⟨found, formed, overflow, trial⟩ | ⟨-, unwritable⟩ | ⟨other, -⟩)
  · have broken := Definition.read_eq_broken.mpr ⟨_, found, formed, overflow, trial⟩
    cases read.symm.trans broken
  · cases (written_of_encodable name Value.literal).symm.trans (written_eq_error.mpr unwritable)
  · cases read.symm.trans other

theorem not_halts_of_accepted (read : Definition.read (.object entry) = .accepted d)
    (tree : (draftOf d).tree.Encodable) (config : (draftOf d).config.Encodable) :
    ¬ Halts entry fault := by
  rintro (⟨found, formed, overflow, trial⟩ | ⟨other, -⟩ | ⟨same, unencodable⟩)
  · have broken := Definition.read_eq_broken.mpr ⟨_, found, formed, overflow, trial⟩
    cases read.symm.trans broken
  · cases read.symm.trans other
  · cases read.symm.trans same
    exact unencodable ⟨tree, config⟩

end

/-! ### Rows -/

/-- The row of a definition: its fields, those of data as they are read back, and what a row has that
is new. -/
def rowOf (d : Definition) (id : String) (created : Timestamp) : Workflow where
  id := id
  name := d.name
  trigger := d.trigger.name
  tree := (draftOf d).tree.reread
  priority := d.priority
  active := .bool d.active
  status := some d.status.name
  config := (draftOf d).config.reread
  description := d.description
  executions := 0
  lastExecuted := none
  version := 1
  created := some created

/-- A row has the fields of a definition and is new. -/
def Stores (d : Definition) (w : Workflow) : Prop := ∃ created, w = rowOf d w.id created

theorem row?_draftOf (tree : (draftOf d).tree.WellKeyed) (config : (draftOf d).config.WellKeyed)
    (id : String) (created : Timestamp) :
    Store.Draft.row? (draftOf d) id created = some (rowOf d id created) := by
  have flag : Store.flag? (.bool d.active) = some d.active := by cases d.active <;> decide
  have treeColumn : Store.column? (draftOf d).tree = some (draftOf d).tree.reread :=
    Json.read_write tree
  have configColumn : Store.column? (draftOf d).config = some (draftOf d).config.reread :=
    Json.read_write config
  unfold Store.Draft.row?
  rw [treeColumn, configColumn]
  simp only [draftOf, Option.getD_some, Status.ofName?_name, flag]
  rfl

/-- The ids that the next rows are given. -/
def upcoming : Store → Nat → List String
  | _, 0 => []
  | s, n + 1 => s.takeRow.1.1 :: upcoming s.takeRow.2 n

/-- The table of workflows is there, and so many rows can be given new ids. -/
structure Ready (s : Store) (n : Nat) : Prop where
  table : ∃ rows, s.workflows = some rows
  distinct : (upcoming s n).Nodup
  unused : ∀ rows, s.workflows = some rows → ∀ w ∈ rows, w.id ∉ upcoming s n

theorem upcoming_tables (s : Store) (workflows : Option (List Workflow)) (n : Nat) :
    upcoming { s with workflows := workflows } n = upcoming s n := by
  induction n generalizing s with
  | zero => rfl
  | succ n ih => exact congrArg _ (ih s.takeRow.2)

theorem upcoming_of_le {m n : Nat} (h : m ≤ n) (s : Store) : upcoming s m <+: upcoming s n := by
  induction m generalizing s n with
  | zero => exact List.nil_prefix
  | succ m ih =>
      cases n with
      | zero => cases h
      | succ n => exact (List.prefix_cons_inj _).mpr (ih (Nat.le_of_succ_le_succ h) _)

theorem Ready.mono {m : Nat} (ready : Ready s n) (h : m ≤ n) : Ready s m where
  table := ready.table
  distinct := ready.distinct.sublist (upcoming_of_le h s).sublist
  unused rows hrows w hw known := ready.unused rows hrows w hw ((upcoming_of_le h s).subset known)

/-- The row that a definition is given next. -/
def nextRow (s : Store) (d : Definition) : Workflow := rowOf d s.takeRow.1.1 s.takeRow.1.2

/-- The store with that row. -/
def withRow (s : Store) (d : Definition) : Store :=
  { s.takeRow.2 with workflows := s.workflows.map (· ++ [nextRow s d]) }

theorem upcoming_withRow (s : Store) (d : Definition) (n : Nat) :
    (nextRow s d).id :: upcoming (withRow s d) n = upcoming s (n + 1) :=
  congrArg _ (upcoming_tables _ _ n)

theorem Ready.withRow (ready : Ready s (n + 1)) (d : Definition) : Ready (withRow s d) n := by
  obtain ⟨⟨rows, hrows⟩, distinct, unused⟩ := ready
  rw [← upcoming_withRow s d n] at distinct unused
  obtain ⟨fresh, distinct⟩ := List.nodup_cons.mp distinct
  have table : (Seeding.withRow s d).workflows = some (rows ++ [nextRow s d]) := by
    rw [Seeding.withRow, hrows]
    rfl
  refine ⟨⟨_, table⟩, distinct, fun all hall w hw => ?_⟩
  cases table.symm.trans hall
  rcases List.mem_append.mp hw with old | new
  · exact fun known => unused rows hrows w old (List.mem_cons_of_mem _ known)
  · rw [List.mem_singleton.mp new]
    exact fresh

/-! ### One entry -/

section

variable [Levels]

/-- A draft that is valid and can be encoded is stored as the next row. -/
theorem create_of_ready (valid : Rule.validate Rule.defaultMaxDepth (draftOf d).tree = .ok .accepted)
    (treeKeyed : (draftOf d).tree.WellKeyed) (configKeyed : (draftOf d).config.WellKeyed)
    (tree : (draftOf d).tree.Encodable) (config : (draftOf d).config.Encodable)
    (ready : Ready s (n + 1)) :
    Store.create (draftOf d) Rule.defaultMaxDepth s = (.ok (nextRow s d), withRow s d) := by
  obtain ⟨rows, hrows⟩ := ready.table
  have fresh : s.takeRow.1.1 ∉ rows.map Workflow.id := by
    intro known
    obtain ⟨w, hw, same⟩ := List.mem_map.mp known
    exact ready.unused rows hrows w hw (same ▸ List.mem_cons_self)
  rw [Store.create_of_row valid tree config (row?_draftOf treeKeyed configKeyed _ _) hrows fresh,
    withRow, hrows]
  rfl

theorem create_of_unencodable
    (valid : Rule.validate Rule.defaultMaxDepth (draftOf d).tree = .ok .accepted)
    (h : ¬ ((draftOf d).tree.Encodable ∧ (draftOf d).config.Encodable)) (s : Store) :
    Store.create (draftOf d) Rule.defaultMaxDepth s =
      (.error (Store.encodingFault "create_workflow" [(draftOf d).tree, (draftOf d).config]),
        s.takeRow.2) := by
  have fails : ∃ cause, [(draftOf d).tree, (draftOf d).config].forM checkEncoding = .error cause := by
    cases encoded : [(draftOf d).tree, (draftOf d).config].forM checkEncoding with
    | error cause => exact ⟨cause, rfl⟩
    | ok => exact absurd (Store.encode_two_eq_ok.mp encoded) h
  obtain ⟨cause, fails⟩ := fails
  simp only [Store.create, Rule.ensureValid_eq_ok.mpr valid, fails]

variable {done : Progress} {rest : List Value}

theorem seedFrom_of_refused {line : String}
    (read : Definition.read (.object entry) = .refused problems)
    (told : skipLine entry problems.length = .ok line) :
    seedFrom done (.object entry :: rest) s =
      seedFrom { done with skipped := done.skipped ++ [line] } rest s := by
  rw [seedFrom, read]
  dsimp only
  rw [told]

theorem seedFrom_of_created {w : Workflow} {s' : Store}
    (read : Definition.read (.object entry) = .accepted d)
    (created : Store.create (draftOf d) Rule.defaultMaxDepth s = (.ok w, s')) :
    seedFrom done (.object entry :: rest) s =
      seedFrom
        { done with created := done.created ++ [w.id], printed := done.printed ++ [createdLine w] }
        rest s' := by
  rw [seedFrom, read]
  dsimp only [bind, StateT.bind]
  rw [created]

/-- An entry that ends the seeding leaves the tables as they are. -/
theorem seedFrom_of_halts (h : Halts entry fault) (done : Progress) (rest : List Value)
    (s : Store) :
    (seedFrom done (.object entry :: rest) s).1 = .error fault ∧
      (seedFrom done (.object entry :: rest) s).2.tables = s.tables := by
  cases h with
  | trial found formed overflow trial =>
      have broken := Definition.read_eq_broken.mpr ⟨_, found, formed, overflow, trial⟩
      rw [seedFrom, broken]
      exact ⟨rfl, rfl⟩
  | name read unwritable =>
      rw [seedFrom, read]
      dsimp only
      rw [skipLine_eq_error.mpr unwritable]
      exact ⟨rfl, rfl⟩
  | data read unencodable =>
      rw [seedFrom, read]
      dsimp only [bind, StateT.bind]
      rw [create_of_unencodable (Definition.exists_tree read).2 unencodable]
      -- An id is taken then, but no table changes.
      exact ⟨rfl, rfl⟩

/-! ### Many entries -/

/-- The definitions of the entries are stored, in their order and under the ids that were next. -/
structure Seeded (entries : List Entries) (s s' : Store) (new : List Workflow) : Prop where
  tables : s'.tables = ⟨s.workflows.map (· ++ new), s.records⟩
  stored : List.Forall₂ Stores (definitions entries) new
  ids : new.map Workflow.id = upcoming s (definitions entries).length

theorem Seeded.nil (s : Store) : Seeded [] s s [] where
  tables := by
    have same : s.workflows.map (· ++ []) = s.workflows := by simp
    rw [same]
    rfl
  stored := .nil
  ids := rfl

theorem definitions_of_refused (read : Definition.read (.object entry) = .refused problems)
    (entries : List Entries) : definitions (entry :: entries) = definitions entries := by
  simp [definitions, read]

theorem definitions_of_accepted (read : Definition.read (.object entry) = .accepted d)
    (entries : List Entries) : definitions (entry :: entries) = d :: definitions entries := by
  simp [definitions, read]

theorem Seeded.of_refused {s' : Store} {new : List Workflow}
    (read : Definition.read (.object entry) = .refused problems) (h : Seeded entries s s' new) :
    Seeded (entry :: entries) s s' new := by
  obtain ⟨tables, stored, ids⟩ := h
  rw [← definitions_of_refused read entries] at stored ids
  exact ⟨tables, stored, ids⟩

theorem Seeded.of_accepted {s' : Store} {new : List Workflow}
    (read : Definition.read (.object entry) = .accepted d)
    (h : Seeded entries (withRow s d) s' new) :
    Seeded (entry :: entries) s s' (nextRow s d :: new) where
  tables := by
    have both : (s.workflows.map (· ++ [nextRow s d])).map (· ++ new) =
        s.workflows.map (· ++ nextRow s d :: new) := by
      rw [Option.map_map]
      refine congrArg (Option.map · s.workflows) (funext fun rows => ?_)
      exact List.append_assoc rows [nextRow s d] new
    exact h.tables.trans (congrArg (Store.Tables.mk · s.records) both)
  stored := by
    rw [definitions_of_accepted read]
    exact .cons ⟨_, rfl⟩ h.stored
  ids := by
    rw [definitions_of_accepted read, List.map_cons, List.length_cons, h.ids, upcoming_withRow]

theorem length_definitions_le (before after : List Entries) :
    (definitions before).length ≤ (definitions (before ++ after)).length := by
  rw [definitions, definitions, List.filterMap_append, List.length_append]
  exact Nat.le_add_right _ _

/-- Entries none of which ends the seeding are skipped and stored one after another. -/
theorem seedFrom_of_quiet (quiet : ∀ entry ∈ entries, ∀ fault, ¬ Halts entry fault)
    (keyed : ∀ entry ∈ entries, (Value.object entry).WellKeyed)
    (ready : Ready s (definitions entries).length) :
    ∃ new s', Seeded entries s s' new ∧ ∀ done rest,
      seedFrom done (entries.map .object ++ rest) s =
        seedFrom ⟨done.created ++ new.map Workflow.id, done.printed ++ new.map createdLine,
          done.skipped ++ skipLines entries⟩ rest s' := by
  -- The rest is seeded from the store after the first entry, which is ready for what is left.
  induction entries generalizing s with
  | nil => exact ⟨[], s, .nil s, fun done rest => by simp [skipLines]⟩
  | cons entry entries ih =>
      obtain ⟨goes, quiet⟩ := List.forall_mem_cons.mp quiet
      obtain ⟨entryKeyed, keyed⟩ := List.forall_mem_cons.mp keyed
      rcases entry_cases entry with ⟨fault, halts⟩ | ⟨problems, line, read, told⟩ |
        ⟨d, read, tree, config⟩
      · exact absurd halts (goes fault)
      · rw [definitions_of_refused read] at ready
        obtain ⟨new, s', seeded, run⟩ := ih quiet keyed ready
        have lines : skipLines (entry :: entries) = line :: skipLines entries := by
          simp [skipLines, read, told, Except.toOption]
        refine ⟨new, s', seeded.of_refused read, fun done rest => ?_⟩
        rw [List.map_cons, List.cons_append, seedFrom_of_refused read told, run, lines]
        simp
      · rw [definitions_of_accepted read, List.length_cons] at ready
        have created := create_of_ready (Definition.exists_tree read).2
          (Definition.tree_wellKeyed read entryKeyed) (Definition.config_wellKeyed read entryKeyed)
          tree config ready
        obtain ⟨new, s', seeded, run⟩ := ih quiet keyed (ready.withRow d)
        have lines : skipLines (entry :: entries) = skipLines entries := by
          simp [skipLines, read]
        refine ⟨nextRow s d :: new, s', seeded.of_accepted read, fun done rest => ?_⟩
        rw [List.map_cons, List.cons_append, seedFrom_of_created read created, run, lines]
        simp

/-- If some entry ends the seeding, there is a first one. -/
theorem exists_first_halting (h : ∃ entry ∈ entries, ∃ fault, Halts entry fault) :
    ∃ before entry after fault, entries = before ++ entry :: after ∧
      (∀ earlier ∈ before, ∀ fault, ¬ Halts earlier fault) ∧ Halts entry fault := by
  classical
  obtain ⟨entry, he, halts⟩ := h
  have some : (entries.find? fun entry => decide (∃ fault, Halts entry fault)).isSome :=
    List.find?_isSome.mpr ⟨entry, he, decide_eq_true halts⟩
  obtain ⟨first, found⟩ := Option.isSome_iff_exists.mp some
  obtain ⟨halts, before, after, split, quiet⟩ := List.find?_eq_some_iff_append.mp found
  obtain ⟨fault, halts⟩ := of_decide_eq_true halts
  refine ⟨before, first, after, fault, split, fun earlier he other halting => ?_, halts⟩
  have goes := quiet earlier he
  rw [decide_eq_true ⟨other, halting⟩] at goes
  cases goes

theorem seed_eq (entries : List Entries) (s : Store) :
    seed (.list (entries.map .object)) s = seedFrom {} (entries.map .object ++ []) s := by
  rw [List.append_nil]
  rfl

theorem seed_of_quiet (quiet : ∀ entry ∈ entries, ∀ fault, ¬ Halts entry fault)
    (keyed : ∀ entry ∈ entries, (Value.object entry).WellKeyed)
    (ready : Ready s (definitions entries).length) :
    ∃ new, Seeded entries s (seed (.list (entries.map .object)) s).2 new ∧
      (seed (.list (entries.map .object)) s).1 =
        .ok ⟨new.map Workflow.id, new.map createdLine, skipLines entries⟩ := by
  obtain ⟨new, s', seeded, run⟩ := seedFrom_of_quiet quiet keyed ready
  rw [seed_eq, run]
  exact ⟨new, seeded, rfl⟩

theorem seed_of_halts {after : List Entries}
    (quiet : ∀ earlier ∈ before, ∀ fault, ¬ Halts earlier fault) (halts : Halts entry fault)
    (keyed : ∀ earlier ∈ before, (Value.object earlier).WellKeyed)
    (ready : Ready s (definitions before).length) :
    (seed (.list ((before ++ entry :: after).map .object)) s).1 = .error fault ∧
      ∃ new, Seeded before s (seed (.list ((before ++ entry :: after).map .object)) s).2 new := by
  obtain ⟨new, s', ⟨tables, stored, ids⟩, run⟩ := seedFrom_of_quiet quiet keyed ready
  rw [seed_eq, List.map_append, List.append_assoc, run]
  obtain ⟨raised, kept⟩ := seedFrom_of_halts halts _ _ s'
  exact ⟨raised, new, kept.trans tables, stored, ids⟩

/-- **What a seeding does.**  The table is there and the next ids are new.  The seeding returns if and
only if no entry ends it; then there is one new row for each definition that the schema accepts, in the
order of the entries and with the fields of the definition, the ids of these rows are returned, and
each of the other entries is told and skipped.  Otherwise it raises what the first such entry ends it
with, and only the definitions before that entry are stored. -/
theorem seed_outcome (entries : List Entries) (s : Store)
    (keyed : ∀ entry ∈ entries, (Value.object entry).WellKeyed)
    (ready : Ready s (definitions entries).length) :
    ((∃ done, (seed (.list (entries.map .object)) s).1 = .ok done) ↔
      ∀ entry ∈ entries, ∀ fault, ¬ Halts entry fault) ∧
    ((∀ entry ∈ entries, ∀ fault, ¬ Halts entry fault) →
      ∃ new, Seeded entries s (seed (.list (entries.map .object)) s).2 new ∧
        (seed (.list (entries.map .object)) s).1 =
          .ok ⟨new.map Workflow.id, new.map createdLine, skipLines entries⟩) ∧
    ∀ before entry after fault, entries = before ++ entry :: after →
      (∀ earlier ∈ before, ∀ fault, ¬ Halts earlier fault) → Halts entry fault →
      (seed (.list (entries.map .object)) s).1 = .error fault ∧
        ∃ new, Seeded before s (seed (.list (entries.map .object)) s).2 new := by
  have raises : ∀ before entry after fault, entries = before ++ entry :: after →
      (∀ earlier ∈ before, ∀ fault, ¬ Halts earlier fault) → Halts entry fault →
      (seed (.list (entries.map .object)) s).1 = .error fault ∧
        ∃ new, Seeded before s (seed (.list (entries.map .object)) s).2 new := by
    rintro before entry after fault rfl quiet halts
    exact seed_of_halts quiet halts (fun earlier he => keyed earlier (List.mem_append_left _ he))
      (ready.mono (length_definitions_le before _))
  refine ⟨⟨?_, fun quiet => ?_⟩, fun quiet => seed_of_quiet quiet keyed ready, raises⟩
  · rintro ⟨done, ok⟩ entry he fault halts
    obtain ⟨before, first, after, fault, split, quiet, halts⟩ :=
      exists_first_halting ⟨entry, he, fault, halts⟩
    obtain ⟨raised, -⟩ := raises before first after fault split quiet halts
    cases ok.symm.trans raised
  · obtain ⟨new, -, ok⟩ := seed_of_quiet quiet keyed ready
    exact ⟨_, ok⟩

end

/-- An entry without a trigger and a tree. -/
def unfinished : Entries := [("name", .str "draft")]

/-- An entry with all that is needed. -/
def complete : Entries :=
  [("name", .str "idle"), ("trigger", .str "ORDER_CREATED"), ("logic_tree", .object [])]

theorem read_complete [Levels] : Definition.read (.object complete) =
    .accepted { name := "idle", trigger := .orderCreated, tree := [] } := by
  have tree : Checked.required complete "logic_tree" readTree = .accepted [] :=
    Checked.required_eq_accepted.mpr ⟨_, rfl, readTree_eq_accepted.mpr ⟨rfl, Rule.validate_empty⟩⟩
  exact Definition.read_eq_accepted.mpr ⟨_, rfl, rfl, rfl, rfl, rfl, tree, rfl, rfl, rfl⟩

/-- The unfinished entry is skipped, and the complete one is stored. -/
theorem seed_outcome_unfinished :
    (∀ entry ∈ [unfinished, complete], (Value.object entry).WellKeyed) ∧
      Ready {} (definitions [unfinished, complete]).length ∧
      ∃ new, Seeded [unfinished, complete] {}
          (seed (.list [.object unfinished, .object complete]) {}).2 new ∧
        (seed (.list [.object unfinished, .object complete]) {}).1 =
          .ok ⟨new.map Workflow.id, new.map createdLine, skipLines [unfinished, complete]⟩ := by
  have refused : Definition.read (.object unfinished) =
      .refused [⟨[.field "trigger"], .missing⟩, ⟨[.field "logic_tree"], .missing⟩] := rfl
  have quiet : ∀ entry ∈ [unfinished, complete], ∀ fault, ¬ Halts entry fault :=
    List.forall_mem_cons.mpr
      ⟨fun _ => not_halts_of_refused refused (checkEncoding_eq_ok.mp rfl),
        List.forall_mem_singleton.mpr fun _ => not_halts_of_accepted read_complete
          (checkEncoding_eq_ok.mp rfl) (checkEncoding_eq_ok.mp rfl)⟩
  have unfinishedKeyed : (Value.object unfinished).WellKeyed := by
    refine wellKeyed_object (by decide) ?_
    simp only [unfinished, List.forall_mem_singleton]
    exact wellKeyed_of_nesting_zero rfl
  have completeKeyed : (Value.object complete).WellKeyed := by
    refine wellKeyed_object (by decide) ?_
    simp only [complete, List.forall_mem_cons, List.not_mem_nil, false_imp_iff, implies_true,
      and_true]
    exact ⟨wellKeyed_of_nesting_zero rfl, wellKeyed_of_nesting_zero rfl,
      wellKeyed_object List.nodup_nil nofun⟩
  have keyed : ∀ entry ∈ [unfinished, complete], (Value.object entry).WellKeyed :=
    List.forall_mem_cons.mpr ⟨unfinishedKeyed, List.forall_mem_singleton.mpr completeKeyed⟩
  have one : (definitions [unfinished, complete]).length = 1 := by
    rw [definitions_of_refused refused, definitions_of_accepted read_complete]
    rfl
  have ready : Ready {} (definitions [unfinished, complete]).length := by
    rw [one]
    refine ⟨⟨[], rfl⟩, List.pairwise_singleton _ _, ?_⟩
    rintro _ ⟨⟩ w hw
    exact absurd hw List.not_mem_nil
  obtain ⟨-, returns, -⟩ := seed_outcome [unfinished, complete] {} keyed ready
  exact ⟨keyed, ready, returns quiet⟩

/-- An entry whose tree is the oversized rule. -/
def oversized : Entries :=
  [("name", .str "large"), ("trigger", .str "ORDER_CREATED"), ("logic_tree", Rule.oversizedRule)]

/-- The trial of the oversized rule overflows, and so the complete entry is not stored. -/
theorem seed_stops_at_oversized :
    (∀ d, Definition.read (.object oversized) ≠ .accepted d) ∧
      (∃ d, Definition.read (.object complete) = .accepted d) ∧
      (seed (.list [.object oversized, .object complete]) {}).1 =
        .error (.breakdown .integerTooLarge) ∧
      (seed (.list [.object oversized, .object complete]) {}).2.tables = ({} : Store).tables := by
  have found : oversized.lookup "logic_tree" = some Rule.oversizedRule := rfl
  have formed := Rule.wellFormed_oversizedRule
  have trial := Rule.evaluate_oversizedRule
  have broken := Definition.read_eq_broken.mpr ⟨_, found, formed, .integerTooLarge, trial⟩
  have halts : Halts oversized (.breakdown .integerTooLarge) := .trial found formed .integerTooLarge trial
  obtain ⟨raised, kept⟩ := seedFrom_of_halts halts {} [.object complete] {}
  refine ⟨fun d accepted => ?_, ⟨_, read_complete⟩, raised, kept⟩
  cases broken.symm.trans accepted

end TriggerFlow.Seeding
