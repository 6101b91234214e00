import Mathlib.Tactic.MkIffOfInductiveProp
import TriggerFlow.Proofs.Filter.Breakdown
import TriggerFlow.Proofs.Schema.TriggerConfig
import TriggerFlow.Proofs.Store.Row
import TriggerFlow.Seeding

/-! # Trigger configs before and after they are read

A config that the schema accepts is saved as it was written, or as the schema read it, with all its
fields.  An event meets the same filters in both (`fires_eq_asWritten`, `fires_toValue`), but the
engine takes a word for false as enabled and filters without a logic as alternatives.  So the two fire
alike unless one of these differences decides (`fires_eq_iff`), and so do the workflows that are stored
with them (`config_fires_alike_iff`). -/

namespace TriggerFlow.Filter

open Outcome Value

open Schema

variable {v c context : Value} {f : FilterDefinition} {cfg : TriggerConfig}

/-! ### Configs that have been read -/

/-- What the answers of all filters come to. -/
def holdsOf : Combination → List Bool → Bool
  | .all, answers => answers.all id
  | .any, answers => answers.any id

/-- The answers of the filters of a config to an event. -/
def answersOf [Levels] (cfg : TriggerConfig) (context : Value) : Except Fault (List Bool) :=
  (cfg.filters.mapM fun f => itemHolds context f.toValue).mapError Fault.breakdown

/-- Whether an event fires under a config that has been read. -/
def firesUnder [Levels] (cfg : TriggerConfig) (context : Value) : Except Fault Bool :=
  if !cfg.enabled || cfg.filters.isEmpty then .ok true
  else (answersOf cfg context).map (holdsOf cfg.logic)

/-- An object has the flag, the logic and the filters of a config, as the engine takes them. -/
structure Takes [Levels] (entries : Entries) (cfg : TriggerConfig) : Prop where
  enabled : (entries.get "enabled").truthy = cfg.enabled
  logic : (entries.get "logic").same (.str "AND") = (cfg.logic == .all)
  filters : entries.get "filters" = .null ∧ cfg.filters = [] ∨
    ∃ items, entries.get "filters" = .list items ∧ List.Forall₂
      (fun v f => ∀ context, itemHolds context v = itemHolds context f.toValue) items cfg.filters

theorem mapM_itemHolds [Levels] {items : List Value} {filters : List FilterDefinition}
    (h : List.Forall₂ (fun v f => ∀ context, itemHolds context v = itemHolds context f.toValue)
      items filters) (context : Value) :
    items.mapM (itemHolds context) = filters.mapM fun f => itemHolds context f.toValue := by
  induction h with
  | nil => rfl
  | cons head tail ih => rw [List.mapM_cons, List.mapM_cons, head, ih]

theorem fires_of_takes [Levels] {entries : Entries} (h : Takes entries cfg) (context : Value) :
    fires (.object entries) context = firesUnder cfg context := by
  rw [firesUnder, ← h.enabled]
  cases enabled : (entries.get "enabled").truthy with
  | false => simp [fires, Value.get, enabled]
  | true =>
      rcases h.filters with ⟨missing, none⟩ | ⟨items, hf, same⟩
      · simp [fires, Value.get, enabled, missing, none]
      · by_cases none : items = []
        · subst none
          rw [List.forall₂_nil_left_iff] at same
          simp [fires, Value.get, enabled, hf, same]
        · have some_ : cfg.filters.isEmpty = false := by
            rw [List.isEmpty_eq_false_iff, ← List.length_pos_iff, ← same.length_eq,
              List.length_pos_iff]
            exact none
          rw [fires_of_filters context enabled hf none, mapM_itemHolds same, some_]
          simp only [Value.get, h.logic]
          change answersOf cfg context >>= _ = (answersOf cfg context).map _
          cases answersOf cfg context with
          | error fault => rfl
          | ok answers => cases cfg.logic <;> rfl

/-! ### Both ways of saving a config -/

theorem holds_congr [Levels] {rule rule' : Entries} {path : String} (ne : path ≠ "")
    (field : rule.get "field" = .str path) (field' : rule'.get "field" = .str path)
    (operator : rule.get "operator" = rule'.get "operator")
    (value : rule.get "value" = rule'.get "value") (data : Value) :
    holds rule data = holds rule' data := by
  rw [holds_of_path field ne, holds_of_path field' ne, operator, value]

theorem itemHolds_of_read [Levels] (h : FilterDefinition.read v = .accepted f) (context : Value) :
    itemHolds context v = itemHolds context f.toValue := by
  obtain ⟨entries, rfl, ⟨hf, lf⟩, ⟨ho, -⟩, hv⟩ := FilterDefinition.read_eq_accepted.mp h
  have ne : f.field ≠ "" := by
    rintro none
    rw [none] at lf
    cases lf
  have field : Entries.get entries "field" = .str f.field := get_of_lookup hf
  have operator : Entries.get entries "operator" = .str f.operator := get_of_lookup ho
  exact @holds_congr _ entries
    [("field", .str f.field), ("operator", .str f.operator), ("value", f.value)] _ ne field rfl
    operator hv context

/-- A config with all its fields is taken as it is. -/
theorem fires_toValue [Levels] (cfg : TriggerConfig) (context : Value) :
    fires cfg.toValue context = firesUnder cfg context := by
  refine fires_of_takes ?_ context
  constructor
  case enabled => rfl
  case logic => exact cfg.logic.same_name
  case filters =>
      refine .inr ⟨_, rfl, ?_⟩
      rw [List.forall₂_map_left_iff]
      exact List.forall₂_same.mpr fun _ _ _ => rfl

/-- A config as the engine takes it where it is saved as it was written. -/
def asWritten (c : Value) (cfg : TriggerConfig) : TriggerConfig :=
  { cfg with
    enabled := (c.get "enabled").truthy
    logic := if (c.get "logic").isNull then .any else cfg.logic }

theorem fires_eq_asWritten [Levels] (accepted : TriggerConfig.read c = .accepted cfg) (context : Value) :
    fires c context = firesUnder (asWritten c cfg) context := by
  obtain ⟨entries, rfl, -, logic, filters⟩ := TriggerConfig.read_eq_accepted.mp accepted
  refine fires_of_takes ?_ context
  constructor
  case enabled => rfl
  case logic =>
      rcases logic with ⟨missing, -⟩ | there
      · simp only [asWritten, Value.get, get_of_missing missing]
        rfl
      · simp only [asWritten, Value.get, get_of_lookup there]
        exact cfg.logic.same_name
  case filters =>
      rcases filters with ⟨missing, none⟩ | ⟨items, there, each⟩
      · exact .inl ⟨get_of_missing missing, none⟩
      · exact .inr ⟨items, get_of_lookup there, each.imp fun _ _ h => itemHolds_of_read h⟩

/-! ### Where the two differ -/

/-- A word for false, which the engine takes as enabled. -/
def SaysFalse (v : Value) : Prop := ∃ s, v = .str s ∧ IsWordFor false s

/-- Filters of which some let an event through and others do not. -/
def Mixed (answers : List Bool) : Prop := true ∈ answers ∧ false ∈ answers

theorem holdsOf_eq_iff {answers : List Bool} (h : answers ≠ []) :
    holdsOf .any answers = holdsOf .all answers ↔ ¬ Mixed answers := by
  have some_ : true ∈ answers ∨ false ∈ answers := by
    obtain ⟨answer, ha⟩ := List.exists_mem_of_ne_nil answers h
    cases answer with
    | true => exact .inl ha
    | false => exact .inr ha
  have any : answers.any id = true ↔ true ∈ answers := by simp
  have all : answers.all id = true ↔ false ∉ answers := by simp
  rw [holdsOf, holdsOf, Bool.eq_iff_iff, any, all, Mixed]
  tauto

theorem enabled_cases (accepted : TriggerConfig.read c = .accepted cfg) :
    (asWritten c cfg).enabled = cfg.enabled ∧ ¬ SaysFalse (c.get "enabled") ∨
      (asWritten c cfg).enabled = true ∧ cfg.enabled = false ∧ SaysFalse (c.get "enabled") := by
  obtain ⟨entries, rfl, enabled, -⟩ := TriggerConfig.read_eq_accepted.mp accepted
  simp only [asWritten, Value.get]
  rcases enabled with ⟨missing, default⟩ | ⟨v, there, read⟩
  · rw [get_of_missing missing, default]
    refine .inl ⟨rfl, ?_⟩
    rintro ⟨_, h, -⟩
    cases h
  · rw [get_of_lookup there]
    rcases readTruth_cases read with ⟨s, rfl, word⟩ | ⟨noText, truthy⟩
    · have truthy : (Value.str s).truthy = true := by simpa [Value.truthy] using word.ne_empty
      rw [truthy]
      cases b : cfg.enabled with
      | true =>
          rw [b] at word
          refine .inl ⟨rfl, ?_⟩
          rintro ⟨_, h, other⟩
          cases h
          exact word.not_false other
      | false => exact .inr ⟨rfl, rfl, s, rfl, b ▸ word⟩
    · refine .inl ⟨truthy, ?_⟩
      rintro ⟨s, h, -⟩
      exact noText s h

theorem logic_cases (accepted : TriggerConfig.read c = .accepted cfg) :
    (asWritten c cfg).logic = cfg.logic ∧ (c.get "logic").isNull = false ∨
      (asWritten c cfg).logic = .any ∧ cfg.logic = .all ∧ (c.get "logic").isNull = true := by
  obtain ⟨entries, rfl, -, logic, -⟩ := TriggerConfig.read_eq_accepted.mp accepted
  rcases logic with ⟨missing, default⟩ | there
  · simp only [asWritten, Value.get, get_of_missing missing]
    exact .inr ⟨rfl, default, rfl⟩
  · simp only [asWritten, Value.get, get_of_lookup there]
    exact .inl ⟨rfl, rfl⟩

theorem firesUnder_of_disabled [Levels] (h : cfg.enabled = false) (context : Value) :
    firesUnder cfg context = .ok true := by
  rw [firesUnder, h]
  rfl

/-- Filters are alternatives or conditions; where they agree on an event, it makes no difference. -/
theorem firesUnder_eq_iff [Levels] {written : TriggerConfig} (on : cfg.enabled = true)
    (written_on : written.enabled = true) (any : written.logic = .any) (all : cfg.logic = .all)
    (same : written.filters = cfg.filters) (context : Value) :
    firesUnder written context = firesUnder cfg context ↔
      ∀ answers, answersOf cfg context = .ok answers → ¬ Mixed answers := by
  have answers_eq : answersOf written context = answersOf cfg context := by
    rw [answersOf, answersOf, same]
  rw [firesUnder, firesUnder, written_on, on, any, all, same, answers_eq]
  cases none : cfg.filters.isEmpty with
  | true =>
      have nothing : answersOf cfg context = .ok [] := by
        rw [answersOf, List.isEmpty_iff.mp none]
        rfl
      simp [nothing, Mixed]
  | false =>
      cases asked : answersOf cfg context with
      | error fault => simp [Except.map]
      | ok answers =>
          have hne : answers ≠ [] := by
            rw [answersOf, mapError_eq_ok, mapM_eq_ok] at asked
            rw [List.isEmpty_eq_false_iff, ← List.length_pos_iff] at none
            rw [← List.length_pos_iff, ← asked.length_eq]
            exact none
          simp [Except.map, holdsOf_eq_iff hne]

/-- Reading a config changes nothing for an event: if a word for false enables the filters, the event
fires all the same, and if there is no logic, the filters agree on the event. -/
@[mk_iff]
structure Unchanged [Levels] (c : Value) (cfg : TriggerConfig) (context : Value) : Prop where
  enabled : SaysFalse (c.get "enabled") → fires c context = .ok true
  logic : cfg.enabled = true → (c.get "logic").isNull = true →
    ∀ answers, answersOf cfg context = .ok answers → ¬ Mixed answers

theorem fires_eq_iff [Levels] (accepted : TriggerConfig.read c = .accepted cfg) (context : Value) :
    fires c context = fires cfg.toValue context ↔ Unchanged c cfg context := by
  rw [unchanged_iff, fires_toValue, fires_eq_asWritten accepted]
  rcases enabled_cases accepted with ⟨same, noWord⟩ | ⟨-, off, word⟩
  · cases on : cfg.enabled with
    | false =>
        rw [firesUnder_of_disabled (same.trans on), firesUnder_of_disabled on]
        simp
    | true =>
        rcases logic_cases accepted with ⟨logic, there⟩ | ⟨any, all, missing⟩
        · have unchanged : asWritten c cfg = cfg := by
            change TriggerConfig.mk (asWritten c cfg).enabled (asWritten c cfg).logic _ = cfg
            rw [same, logic]
          simp [unchanged, noWord, there]
        · rw [firesUnder_eq_iff on (same.trans on) any all rfl]
          simp [noWord, missing]
  · rw [firesUnder_of_disabled off]
    simp [word, off]

/-- **What reading a config changes.**  A config that the schema accepts fires as it does when it has
been read if and only if none of the differences decides.  The same decides about two workflows that
are stored, one with the config as it was written and one from a definition with the config, once both
come back from the table; that is the very same if nothing in the config is not-a-number. -/
theorem config_fires_alike_iff [Levels] (c : Value) (cfg : TriggerConfig) (context : Value)
    (accepted : TriggerConfig.read c = .accepted cfg) :
    (fires c context = fires cfg.toValue context ↔ Unchanged c cfg context) ∧
    (∀ (draft : Draft) (definition : Definition) (d e : Int) (s t : Store) (w v : Workflow),
      c.WellKeyed → draft.config = c → definition.config = some cfg →
      (Store.create draft d s).1 = .ok w →
      (Store.create (Seeding.draftOf definition) e t).1 = .ok v →
      (fires w.config context = fires v.config context ↔
        Unchanged c.reread cfg.reread context)) ∧
    (c.NaNFree → c.reread = c ∧ cfg.reread = cfg) := by
  have back := TriggerConfig.read_reread accepted
  refine ⟨fires_eq_iff accepted context, ?_, fun number => ?_⟩
  · intro draft definition d e s t w v hc plain read hw hv
    have seeded : (Seeding.draftOf definition).config = cfg.toValue := by
      rw [Seeding.draftOf, read]
      rfl
    rw [Store.create_config (plain ▸ hc) hw, plain,
      Store.create_config (seeded ▸ TriggerConfig.toValue_wellKeyed accepted hc) hv, seeded,
      TriggerConfig.toValue_reread]
    exact fires_eq_iff back context
  · rw [reread_eq_self c number, accepted] at back
    exact ⟨reread_eq_self c number, (Checked.accepted.inj back).symm⟩

/-- A rule on the country of an event. -/
def countryRule (country : String) : Value :=
  .object [("field", .str "country"), ("operator", .str "=="), ("value", .str country)]

/-- A rule on something that an event may lack. -/
def noReviewRule : Value := .object [("field", .str "review"), ("operator", .str "!=")]

/-- An event. -/
def polishEvent : Value := .object [("country", .str "PL")]

/-- A config with a word for true and with a logic. -/
def wordyConfig : Value :=
  .object [("enabled", .str "Yes"), ("logic", .str "AND"),
    ("filters", .list [countryRule "PL", noReviewRule])]

/-- What is read from it. -/
def readConfig : TriggerConfig :=
  ⟨true, .all, [⟨"country", "==", .str "PL"⟩, ⟨"review", "!=", .null⟩]⟩

/-- A workflow with the config as it was written. -/
def wordyDraft : Draft where
  name := some "Parcels"
  trigger := some "ORDER_CREATED"
  tree := .object []
  config := wordyConfig

/-- A definition of the workflow. -/
def wordyDefinition : Definition where
  name := "Parcels"
  trigger := .orderCreated
  tree := []
  config := some readConfig

theorem wordyConfig_wellKeyed : wordyConfig.WellKeyed := by
  have atom (s : String) : (Value.str s).WellKeyed := wellKeyed_of_nesting_zero rfl
  refine wellKeyed_object (by decide) ?_
  simp only [List.forall_mem_cons, List.not_mem_nil, false_imp_iff, implies_true, and_true]
  refine ⟨atom _, atom _, wellKeyed_list ?_⟩
  simp only [List.forall_mem_cons, List.not_mem_nil, false_imp_iff, implies_true, and_true]
  refine ⟨wellKeyed_object (by decide) ?_, wellKeyed_object (by decide) ?_⟩ <;> simp [atom]

theorem config_fires_alike_iff_wordyConfig :
    fires wordyConfig polishEvent = fires readConfig.toValue polishEvent ∧
      ∃ w v, (Store.create wordyDraft 10 {}).1 = .ok w ∧
        (Store.create (Seeding.draftOf wordyDefinition) 10 {}).1 = .ok v ∧
          fires w.config polishEvent = fires v.config polishEvent := by
  have accepted : TriggerConfig.read wordyConfig = .accepted readConfig := rfl
  have unchanged : Unchanged wordyConfig readConfig polishEvent := by
    refine ⟨?_, nofun⟩
    rintro ⟨_, ⟨⟩, word⟩
    exact absurd word (by decide)
  have valid : Rule.validate 10 (.object []) = .ok .accepted := by
    rw [Rule.validate_eq_accepted]
    refine ⟨⟨_, rfl⟩, ?_, ?_, ?_, _, rfl⟩
    · simp only [Rule.checkStructure, Rule.checkNodes, Rule.walk, Rule.children, List.reverse_nil,
        List.nil_append]
      rfl
    · simp only [Rule.checkActions, Rule.checkNodes, Rule.walk, Rule.children, List.reverse_nil,
        List.nil_append]
      rfl
    · simp [Rule.checkDepth, Rule.measureDepth, Rule.measure, Rule.children, Rule.operation?,
        Rule.exceeds]
  have empty : (Value.object []).WellKeyed := wellKeyed_object (by decide) (by simp)
  obtain ⟨w, hw⟩ : ∃ w, (Store.create wordyDraft 10 {}).1 = .ok w :=
    Store.exists_create valid rfl rfl rfl rfl empty wordyConfig_wellKeyed
      ⟨by decide, by decide⟩ ⟨by decide, by decide⟩ rfl
  obtain ⟨v, hv⟩ : ∃ v, (Store.create (Seeding.draftOf wordyDefinition) 10 {}).1 = .ok v :=
    Store.exists_create valid rfl rfl rfl rfl empty
      (TriggerConfig.toValue_wellKeyed accepted wordyConfig_wellKeyed)
      ⟨by decide, by decide⟩ ⟨by decide, by decide⟩ rfl
  obtain ⟨alike, saved, back⟩ := config_fires_alike_iff _ _ polishEvent accepted
  obtain ⟨same, same'⟩ := back (by simp [wordyConfig, countryRule, noReviewRule])
  rw [same, same'] at saved
  exact ⟨alike.mpr unchanged, w, v, hw, hv,
    (saved _ wordyDefinition _ _ _ _ w v wordyConfig_wellKeyed rfl rfl hw hv).mpr unchanged⟩

/-- A config without a logic, whose filters agree on no event from these countries. -/
def conflictingConfig : Value :=
  .object [("enabled", .bool true), ("filters", .list [countryRule "PL", countryRule "DE"])]

/-- A config that a word says to be off. -/
def offConfig : Value :=
  .object [("enabled", .str "off"), ("filters", .list [countryRule "DE"])]

/-- Without a logic one of two filters lets the event through, but not after the config has been read;
a word for false enables a filter that stops the event, but not after the config has been read. -/
theorem fires_differs :
    (∃ cfg, TriggerConfig.read conflictingConfig = .accepted cfg ∧
      fires conflictingConfig polishEvent = .ok true ∧ fires cfg.toValue polishEvent = .ok false) ∧
    ∃ cfg, TriggerConfig.read offConfig = .accepted cfg ∧
      fires offConfig polishEvent = .ok false ∧ fires cfg.toValue polishEvent = .ok true :=
  ⟨⟨_, rfl, rfl, rfl⟩, _, rfl, rfl, rfl⟩

end TriggerFlow.Filter
