import TriggerFlow.Proofs.Rule.Equivalence
import TriggerFlow.Proofs.Seeding
import TriggerFlow.Proofs.Store.Feed

/-! # What becomes of an accepted definition

The values that the readers of the schema give are written so that they are read again as the same
(`Rereads`), and the defaults are among them.  So a definition that has been accepted and written is
accepted again (`Definition.read_toValue`), and its fields are within their bounds
(`Definition.toValue_sound`).  It can be stored unless its tree or its config cannot be encoded, and
the row that is then found has its fields, as they are read back: `Seeding.accepted_is_stored`. -/

namespace TriggerFlow

namespace Schema

open Value

/-! ### Reading again -/

/-- Whatever is read and then written is read as the same. -/
def Rereads {α : Type} (read : Value → Checked α) (write : α → Value) : Prop :=
  ∀ v a, read v = .accepted a → read (write a) = .accepted a

section Readers

variable {α : Type} {read : Value → Checked α} {write : α → Value} {entries : Entries}
  {name : String} {a default : α}

theorem rereads_readSized (low : Nat) (high : Option Nat) : Rereads (readSized low high) .str := by
  intro v s h
  exact readSized_eq_accepted.mpr ⟨rfl, (readSized_eq_accepted.mp h).2⟩

theorem rereads_readBounded (low high : Int) : Rereads (readBounded low high) .int := by
  intro v n h
  exact readBounded_eq_accepted.mpr ⟨rfl, (readBounded_eq_accepted.mp h).2⟩

theorem rereads_readName {ofName? : String → Option α} {nameOf : α → String}
    (known : ∀ a, ofName? (nameOf a) = some a) :
    Rereads (readName ofName?) fun a => .str (nameOf a) := by
  intro v a _
  exact readName_eq_accepted.mpr ⟨_, rfl, known a⟩

theorem rereads_readTruth : Rereads readTruth .bool := fun _ _ _ => rfl

theorem rereads_readTree [Levels] : Rereads readTree .object := by
  intro v entries h
  obtain ⟨rfl, valid⟩ := readTree_eq_accepted.mp h
  exact h

theorem rereads_config : Rereads TriggerConfig.read TriggerConfig.toValue :=
  fun _ _ h => TriggerConfig.read_toValue h

theorem Rereads.optional (h : Rereads read write) (some : ∀ a, write a ≠ .null) :
    Rereads (readOptional read) (Value.ofOption write) := by
  rintro v o given
  rcases readOptional_eq_accepted.mp given with ⟨-, rfl⟩ | ⟨-, a, read, rfl⟩
  · rfl
  · exact readOptional_eq_accepted.mpr (.inr ⟨some a, a, h v a read, rfl⟩)

theorem Rereads.required (h : Rereads read write)
    (given : .required entries name read = Checked.accepted a) : read (write a) = .accepted a := by
  obtain ⟨v, -, found⟩ := Checked.required_eq_accepted.mp given
  exact h v a found

/-- A default has to be one of the values that are read again. -/
theorem Rereads.defaulted (h : Rereads read write) (own : read (write default) = .accepted default)
    (given : .defaulted entries name default read = Checked.accepted a) :
    read (write a) = .accepted a := by
  rcases Checked.defaulted_eq_accepted.mp given with ⟨-, rfl⟩ | ⟨v, -, found⟩
  · exact own
  · exact h v a found

end Readers

/-! ### Definitions -/

variable {v : Value} {d : Definition}

/-- A definition that has been read and written is read as the same definition. -/
theorem Definition.read_toValue [Levels] (h : Definition.read v = .accepted d) :
    Definition.read d.toValue = .accepted d := by
  obtain ⟨entries, -, name, description, trigger, config, tree, priority, active, status⟩ :=
    read_eq_accepted.mp h
  have texts := (rereads_readSized 0 (some 500)).optional nofun
  have configs := rereads_config.optional nofun
  have triggers := rereads_readName Trigger.ofName?_name
  have statuses := rereads_readName Status.ofName?_name
  refine read_eq_accepted.mpr ⟨_, rfl, ?_, ?_, ?_, ?_, ?_, ?_, ?_, ?_⟩
  · exact Checked.required_eq_accepted.mpr ⟨_, rfl, (rereads_readSized 1 (some 100)).required name⟩
  · exact Checked.defaulted_eq_accepted.mpr (.inr ⟨_, rfl, texts.defaulted rfl description⟩)
  · exact Checked.required_eq_accepted.mpr ⟨_, rfl, triggers.required trigger⟩
  · exact Checked.defaulted_eq_accepted.mpr (.inr ⟨_, rfl, configs.defaulted rfl config⟩)
  · exact Checked.required_eq_accepted.mpr ⟨_, rfl, rereads_readTree.required tree⟩
  · exact Checked.defaulted_eq_accepted.mpr
      (.inr ⟨_, rfl, (rereads_readBounded 0 100).defaulted rfl priority⟩)
  · exact Checked.defaulted_eq_accepted.mpr (.inr ⟨_, rfl, rereads_readTruth.defaulted rfl active⟩)
  · exact Checked.defaulted_eq_accepted.mpr (.inr ⟨_, rfl, statuses.defaulted rfl status⟩)

/-- The bounds of the fields of a definition as it is written. -/
structure Sound [Levels] (written : Value) : Prop where
  name : ∃ s : String, written.get "name" = .str s ∧ 1 ≤ s.length ∧ s.length ≤ 100
  priority : ∃ n : Int, written.get "priority" = .int n ∧ 0 ≤ n ∧ n ≤ 100
  trigger : ∃ t ∈ Trigger.all, written.get "trigger" = .str t.name
  status : ∃ s ∈ Status.all, written.get "status" = .str s.name
  tree : Rule.validate Rule.defaultMaxDepth (written.get "logic_tree") = .ok .accepted

theorem Definition.toValue_sound [Levels] (h : Definition.read v = .accepted d) : Sound d.toValue := by
  obtain ⟨entries, written, name, -, -, -, tree, priority, -⟩ :=
    read_eq_accepted.mp (read_toValue h)
  cases written
  obtain ⟨_, ⟨⟩, name⟩ := Checked.required_eq_accepted.mp name
  obtain ⟨-, long, short⟩ := readSized_eq_accepted.mp name
  rcases Checked.defaulted_eq_accepted.mp priority with ⟨⟨⟩, -⟩ | ⟨_, ⟨⟩, priority⟩
  obtain ⟨-, above, below⟩ := readBounded_eq_accepted.mp priority
  obtain ⟨_, ⟨⟩, tree⟩ := Checked.required_eq_accepted.mp tree
  exact {
    name := ⟨d.name, rfl, long, short 100 rfl⟩
    priority := ⟨d.priority, rfl, above, below⟩
    trigger := ⟨d.trigger, by cases d.trigger <;> decide, rfl⟩
    status := ⟨d.status, by cases d.status <;> decide, rfl⟩
    tree := (readTree_eq_accepted.mp tree).2 }

theorem Sound.isWord [Levels] (h : Sound d.toValue) : Number.isWord d.priority = true := by
  obtain ⟨_, ⟨⟩, above, below⟩ := h.priority
  exact Number.isWord_of_lt above (Int.lt_of_le_of_lt below (by decide))

end Schema

/-! ### Rows -/

namespace Seeding

open Outcome Schema Value

variable {d : Definition} {s : Store}

/-- The fields that a workflow has of a definition, as the definition writes them. -/
def fieldsOf (w : Workflow) : Value :=
  .object [
    ("name", .str w.name), ("description", Value.ofOption .str w.description),
    ("trigger", .str w.trigger), ("trigger_config", w.config), ("logic_tree", w.tree),
    ("priority", .int w.priority), ("is_active", w.active),
    ("status", Value.ofOption .str w.status)]

/-- As columns of a row, the fields of a definition make the draft that a seeding makes of it. -/
theorem draftOf_toValue (word : Number.isWord d.priority = true) :
    ∃ columns, d.toValue = .object columns ∧ Store.draftOf columns = .ok (draftOf d) := by
  refine ⟨_, rfl, ?_⟩
  have description : Store.textColumn (Value.ofOption .str d.description) = .ok d.description := by
    cases d.description <;> rfl
  change (do
    let name ← Store.textColumn (.str d.name)
    let trigger ← Store.textColumn (.str d.trigger.name)
    let priority ← Store.integerColumn (.int d.priority)
    let status ← Store.textColumn (.str d.status.name)
    let description ← Store.textColumn (Value.ofOption .str d.description)
    return ({ draftOf d with name, trigger, priority, status, description } : Draft)) = _
  rw [description, Store.integerColumn, if_pos word]
  rfl

/-- The row that a definition is given is found under its id. -/
theorem get_nextRow (ready : Ready s 1) (d : Definition) :
    Store.get (nextRow s d).id (withRow s d) = (.ok (some (nextRow s d)), withRow s d) := by
  obtain ⟨⟨rows, hrows⟩, -, unused⟩ := ready
  have table : (withRow s d).workflows = some (rows ++ [nextRow s d]) := by
    rw [withRow, hrows]
    rfl
  have others : rows.find? (fun w => w.id == (nextRow s d).id) = none :=
    List.find?_eq_none.mpr fun w hw same =>
      unused rows hrows w hw (beq_iff_eq.mp same ▸ List.mem_cons_self)
  simp only [Store.get, table, List.find?_append, others, Option.none_or, List.find?_cons,
    beq_self_eq_true]

/-- The fields of the row of a definition are those of the definition as they are read back. -/
theorem fieldsOf_rowOf (d : Definition) (id : String) (created : Timestamp) :
    fieldsOf (rowOf d id created) = d.toValue.reread := by
  have description : (Value.ofOption .str d.description).reread =
      Value.ofOption .str d.description := by
    cases d.description <;> rfl
  rw [Definition.toValue, reread]
  simp only [rereadEntries, description, reread]
  rfl

/-- **An accepted definition is stable and storable.**  Written with all its fields, it is accepted as
the same definition, and its fields are within their bounds.  A seeding inserts what these fields make
as columns.  While the table of workflows is there and the next id is new, that is stored if its tree
and its config can be encoded, and what is then found under the new id has exactly its fields, as they
are read back from their texts.  If it is not stored, no table changes, and the only reason is that its
tree or its config cannot be encoded; it is told as a failed operation, unless what could not be encoded
cannot be told either. -/
theorem accepted_is_stored [Levels] {entry : Value} (read : Definition.read entry = .accepted d)
    (keyed : entry.WellKeyed) (ready : Ready s 1) :
    Definition.read d.toValue = .accepted d ∧ Sound d.toValue ∧
    (∃ columns, d.toValue = .object columns ∧ ∀ maxDepth,
      Store.createFrom columns maxDepth = Store.create (draftOf d) maxDepth) ∧
    ((draftOf d).tree.Encodable → (draftOf d).config.Encodable →
      ∃ w s', Store.create (draftOf d) Rule.defaultMaxDepth s = (.ok w, s') ∧
        Store.get w.id s' = (.ok (some w), s') ∧ fieldsOf w = d.toValue.reread) ∧
    ∀ fault s', Store.create (draftOf d) Rule.defaultMaxDepth s = (.error fault, s') →
      s'.tables = s.tables ∧ ¬ ((draftOf d).tree.Encodable ∧ (draftOf d).config.Encodable) ∧
        fault = Store.encodingFault "create_workflow" [(draftOf d).tree, (draftOf d).config] := by
  obtain ⟨entries, rfl, -⟩ := Definition.read_eq_accepted.mp read
  have valid := (Definition.exists_tree read).2
  have created (tree : (draftOf d).tree.Encodable) (config : (draftOf d).config.Encodable) :
      Store.create (draftOf d) Rule.defaultMaxDepth s = (.ok (nextRow s d), withRow s d) :=
    create_of_ready valid (Definition.tree_wellKeyed read keyed)
      (Definition.config_wellKeyed read keyed) tree config ready
  have sound := Definition.toValue_sound read
  obtain ⟨columns, fields, drafted⟩ := draftOf_toValue sound.isWord
  refine ⟨Definition.read_toValue read, sound,
    ⟨columns, fields, fun _ => funext fun _ => by rw [Store.createFrom, drafted]⟩,
    fun tree config => ⟨_, _, created tree config, get_nextRow ready d, fieldsOf_rowOf d _ _⟩,
    fun fault s' raised => ?_⟩
  by_cases encodes : (draftOf d).tree.Encodable ∧ (draftOf d).config.Encodable
  · cases (created encodes.1 encodes.2).symm.trans raised
  · cases (create_of_unencodable valid encodes s).symm.trans raised
    exact ⟨rfl, encodes, rfl⟩

/-- An entry with a filter for a value, and with fields that are read leniently. -/
def lenientEntry (v : Value) : Entries := [
  ("name", .str "domestic"), ("trigger", .str "ORDER_CREATED"), ("logic_tree", .object []),
  ("trigger_config", .object [
    ("enabled", .str "Yes"),
    ("filters", .list [
      .object [("field", .str "country"), ("operator", .str "=="), ("value", v)]])]),
  ("priority", .str " 07"), ("is_active", .int 1)]

/-- The definition that is read from that entry. -/
def lenientDefinition (v : Value) : Definition where
  name := "domestic"
  trigger := .orderCreated
  config := some { enabled := true, filters := [⟨"country", "==", v⟩] }
  tree := []
  priority := 7
  active := true

theorem read_lenientEntry [Levels] (v : Value) :
    Definition.read (.object (lenientEntry v)) = .accepted (lenientDefinition v) := by
  have tree : Checked.required (lenientEntry v) "logic_tree" readTree = .accepted [] :=
    Checked.required_eq_accepted.mpr ⟨_, rfl, readTree_eq_accepted.mpr ⟨rfl, Rule.validate_empty⟩⟩
  exact Definition.read_eq_accepted.mpr ⟨_, rfl, rfl, rfl, rfl, rfl, tree, rfl, rfl, rfl⟩

theorem wellKeyed_lenientEntry {v : Value} (h : v.WellKeyed) :
    (Value.object (lenientEntry v)).WellKeyed := by
  have filter : (Value.object
      [("field", .str "country"), ("operator", .str "=="), ("value", v)]).WellKeyed := by
    refine wellKeyed_object (by simp) ?_
    simpa using ⟨wellKeyed_of_nesting_zero rfl, wellKeyed_of_nesting_zero rfl, h⟩
  have config : (Value.object [("enabled", .str "Yes"), ("filters", .list [
      .object [("field", .str "country"), ("operator", .str "=="), ("value", v)]])]).WellKeyed := by
    refine wellKeyed_object (by simp) ?_
    simpa using ⟨wellKeyed_of_nesting_zero rfl, wellKeyed_list (List.forall_mem_singleton.mpr filter)⟩
  refine wellKeyed_object (by simp [lenientEntry]) ?_
  simpa [lenientEntry] using ⟨wellKeyed_of_nesting_zero rfl, wellKeyed_of_nesting_zero rfl,
    wellKeyed_object List.nodup_nil nofun, config, wellKeyed_of_nesting_zero rfl,
    wellKeyed_of_nesting_zero rfl⟩

theorem ready_empty : Ready {} 1 where
  table := ⟨[], rfl⟩
  distinct := List.pairwise_singleton _ _
  unused := by
    rintro _ ⟨⟩ w hw
    exact absurd hw List.not_mem_nil

/-- The lenient entry with a text for its value is stored. -/
theorem accepted_is_stored_lenientEntry :
    Definition.read (.object (lenientEntry (.str "PL"))) =
        .accepted (lenientDefinition (.str "PL")) ∧
      (Value.object (lenientEntry (.str "PL"))).WellKeyed ∧ Ready {} 1 ∧
      ∃ w s', Store.create (draftOf (lenientDefinition (.str "PL"))) Rule.defaultMaxDepth {} =
          (.ok w, s') ∧ Store.get w.id s' = (.ok (some w), s') ∧
        fieldsOf w = (lenientDefinition (.str "PL")).toValue := by
  have read := read_lenientEntry (.str "PL")
  have keyed := wellKeyed_lenientEntry (v := .str "PL") (wellKeyed_of_nesting_zero rfl)
  obtain ⟨-, -, -, stored, -⟩ := accepted_is_stored read keyed ready_empty
  exact ⟨read, keyed, ready_empty, stored ⟨by decide, by decide +kernel⟩ ⟨by decide, by decide +kernel⟩⟩

/-- The lenient definition is not stored with a value that nests too deeply. -/
theorem create_lenientDefinition [Levels] {v : Value} (deep : Levels.encoding < v.nesting) (s : Store) :
    Store.create (draftOf (lenientDefinition v)) Rule.defaultMaxDepth s =
      (.error (Store.encodingFault "create_workflow"
        [(draftOf (lenientDefinition v)).tree, (draftOf (lenientDefinition v)).config]),
        s.takeRow.2) := by
  have whole : Levels.encoding < (draftOf (lenientDefinition v)).config.nesting := by
    simp only [draftOf, lenientDefinition, Value.ofOption, TriggerConfig.toValue,
      FilterDefinition.toValue, List.map_cons, List.map_nil, nesting, nestingEntries, nestingItems]
    omega
  refine create_of_unencodable (Definition.exists_tree (read_lenientEntry v)).2 ?_ s
  exact fun encodes => absurd encodes.2.nesting_le (Nat.not_le.mpr whole)

/-- The lenient entry with a long chain for its value is accepted as well, but the chain cannot be
encoded, and so nothing is stored. -/
theorem nestedFilter_is_not_stored :
    Definition.read (.object (lenientEntry (Rule.chain 2000))) =
        .accepted (lenientDefinition (Rule.chain 2000)) ∧
      (Value.object (lenientEntry (Rule.chain 2000))).WellKeyed ∧ Ready {} 1 ∧
      (∃ fault, (Store.create (draftOf (lenientDefinition (Rule.chain 2000))) Rule.defaultMaxDepth
        {}).1 = .error fault) ∧
      ∀ id, (Store.get id (Store.create (draftOf (lenientDefinition (Rule.chain 2000)))
        Rule.defaultMaxDepth {}).2).1 = .ok none := by
  have deep : Levels.encoding < (Rule.chain 2000).nesting := by
    rw [Rule.nesting_chain]
    decide
  rw [create_lenientDefinition deep]
  exact ⟨read_lenientEntry _, wellKeyed_lenientEntry (Rule.equatable_chain 2000).well_keyed,
    ready_empty, ⟨_, rfl⟩, fun _ => rfl⟩

end Seeding

end TriggerFlow
