import TriggerFlow.Proofs.Schema.Checked
import TriggerFlow.Proofs.Value.Parts
import TriggerFlow.Proofs.Value.Reread
import TriggerFlow.Schema.Definition

/-! # Trigger configs that the schema accepts

A config is accepted if and only if its fields are (`TriggerConfig.read_eq_accepted`).  What has been
read is written with all its fields; that is read as the same config (`TriggerConfig.read_toValue`)
and has each of its keys once if the config had (`TriggerConfig.toValue_wellKeyed`).  A config that
comes back from its JSON text is read as the config was, but for the not-a-numbers in its filters
(`TriggerConfig.read_reread`). -/

namespace TriggerFlow.Schema

open Value

variable {v c : Value} {f : FilterDefinition} {cfg : TriggerConfig}

theorem Combination.read_eq_accepted {logic : Combination} :
    Combination.read v = .accepted logic ↔ v = .str logic.name := by
  rw [Combination.read, Checked.andThen_eq_accepted]
  simp only [readText_eq_accepted]
  constructor
  · rintro ⟨s, rfl, h⟩
    split at h
    · cases h
      simp_all [Combination.name]
    · split at h <;> cases h
      simp_all [Combination.name]
  · rintro rfl
    exact ⟨_, rfl, by cases logic <;> rfl⟩

theorem Combination.same_name (logic : Combination) :
    (Value.str logic.name).same (.str "AND") = (logic == .all) := by
  cases logic <;> rfl

theorem FilterDefinition.read_eq_accepted :
    FilterDefinition.read v = .accepted f ↔
      ∃ entries : Entries, v = .object entries ∧
        (entries.lookup "field" = some (.str f.field) ∧ 1 ≤ f.field.length) ∧
        (entries.lookup "operator" = some (.str f.operator) ∧ 1 ≤ f.operator.length) ∧
        entries.get "value" = f.value := by
  rw [FilterDefinition.read, Checked.andThen_eq_accepted]
  simp only [readObject_eq_accepted, Checked.seq_eq_accepted, Checked.map_eq_accepted,
    Checked.required_eq_accepted, Checked.defaulted_eq_accepted, readSized_eq_accepted,
    Checked.accepted.injEq, reduceCtorEq, false_imp_iff, implies_true, and_true]
  refine exists_congr fun entries => and_congr_right fun _ => ?_
  constructor
  · rintro ⟨_, value, ⟨_, operator, ⟨field, ⟨_, hf, rfl, lf⟩, rfl⟩, ⟨_, ho, rfl, lo⟩, rfl⟩, hv, rfl⟩
    refine ⟨⟨hf, lf⟩, ⟨ho, lo⟩, ?_⟩
    rcases hv with ⟨hv, rfl⟩ | ⟨_, hv, rfl⟩
    · exact get_of_missing hv
    · exact get_of_lookup hv
  · rintro ⟨⟨hf, lf⟩, ⟨ho, lo⟩, hv⟩
    refine ⟨_, f.value, ⟨_, f.operator, ⟨f.field, ⟨_, hf, rfl, lf⟩, rfl⟩, ⟨_, ho, rfl, lo⟩, rfl⟩,
      ?_, rfl⟩
    cases hl : entries.lookup "value" with
    | none => exact .inl ⟨rfl, hv ▸ get_of_missing hl⟩
    | some w => exact .inr ⟨w, rfl, by rw [← hv, get_of_lookup hl]⟩

theorem TriggerConfig.read_eq_accepted :
    TriggerConfig.read c = .accepted cfg ↔
      ∃ entries : Entries, c = .object entries ∧
        (entries.lookup "enabled" = none ∧ cfg.enabled = false ∨
          ∃ v, entries.lookup "enabled" = some v ∧ readTruth v = .accepted cfg.enabled) ∧
        (entries.lookup "logic" = none ∧ cfg.logic = .all ∨
          entries.lookup "logic" = some (.str cfg.logic.name)) ∧
        (entries.lookup "filters" = none ∧ cfg.filters = [] ∨
          ∃ items, entries.lookup "filters" = some (.list items) ∧
            List.Forall₂ (fun v f => FilterDefinition.read v = .accepted f) items cfg.filters) := by
  rw [TriggerConfig.read, Checked.andThen_eq_accepted]
  simp only [readObject_eq_accepted, Checked.seq_eq_accepted, Checked.map_eq_accepted,
    Checked.defaulted_eq_accepted, readList_eq_accepted, Combination.read_eq_accepted]
  refine exists_congr fun entries => and_congr_right fun _ => ?_
  constructor
  · rintro ⟨_, filters, ⟨_, logic, ⟨enabled, he, rfl⟩, hl, rfl⟩, hf, rfl⟩
    refine ⟨he, ?_, ?_⟩
    · simpa using hl
    · rcases hf with hf | ⟨_, hf, items, rfl, each⟩
      · exact .inl hf
      · exact .inr ⟨items, hf, each⟩
  · rintro ⟨he, hl, hf⟩
    refine ⟨_, cfg.filters, ⟨_, cfg.logic, ⟨cfg.enabled, he, rfl⟩, ?_, rfl⟩, ?_, rfl⟩
    · simpa using hl
    · rcases hf with hf | ⟨items, hf, each⟩
      · exact .inl hf
      · exact .inr ⟨_, hf, items, rfl, each⟩

/-! ### What is written -/

theorem FilterDefinition.read_toValue (h : FilterDefinition.read v = .accepted f) :
    FilterDefinition.read f.toValue = .accepted f := by
  obtain ⟨-, -, ⟨-, hf⟩, ⟨-, ho⟩, -⟩ := read_eq_accepted.mp h
  exact read_eq_accepted.mpr ⟨_, rfl, ⟨rfl, hf⟩, ⟨rfl, ho⟩, rfl⟩

theorem FilterDefinition.toValue_wellKeyed (h : FilterDefinition.read v = .accepted f)
    (hv : v.WellKeyed) : f.toValue.WellKeyed := by
  obtain ⟨entries, rfl, -, -, value⟩ := read_eq_accepted.mp h
  refine wellKeyed_object (by simp) ?_
  simp only [List.forall_mem_cons, List.not_mem_nil, false_imp_iff, implies_true, and_true]
  refine ⟨wellKeyed_of_nesting_zero rfl, wellKeyed_of_nesting_zero rfl, ?_⟩
  rw [← value]
  rcases get_eq_null_or_mem entries "value" with null | mem
  · rw [null]
    exact wellKeyed_of_nesting_zero rfl
  · exact hv.entry mem

/-- The filters of a config are read from parts of it. -/
theorem TriggerConfig.exists_part (h : TriggerConfig.read c = .accepted cfg)
    (hf : f ∈ cfg.filters) : ∃ v, Part v c ∧ FilterDefinition.read v = .accepted f := by
  obtain ⟨entries, rfl, -, -, each⟩ := read_eq_accepted.mp h
  rcases each with ⟨-, none⟩ | ⟨items, there, each⟩
  · rw [none] at hf
    cases hf
  · obtain ⟨i, hi, rfl⟩ := List.getElem_of_mem hf
    have hi' : i < items.length := each.length_eq ▸ hi
    refine ⟨items[i], ?_, each.get hi' hi⟩
    have list := get_eq_null_or_part (.object entries) "filters"
    rw [Value.get, get_of_lookup there] at list
    exact (Part.item (List.getElem_mem hi') .whole).trans (list.resolve_left nofun)

/-- A config that has been read and written is read as the same config. -/
theorem TriggerConfig.read_toValue (h : TriggerConfig.read c = .accepted cfg) :
    TriggerConfig.read cfg.toValue = .accepted cfg := by
  refine read_eq_accepted.mpr ⟨_, rfl, .inr ⟨_, rfl, rfl⟩, .inr rfl, .inr ⟨_, rfl, ?_⟩⟩
  rw [List.forall₂_map_left_iff, List.forall₂_same]
  intro f hf
  obtain ⟨v, -, read⟩ := exists_part h hf
  exact FilterDefinition.read_toValue read

theorem TriggerConfig.toValue_wellKeyed (h : TriggerConfig.read c = .accepted cfg)
    (hc : c.WellKeyed) : cfg.toValue.WellKeyed := by
  have filters : (Value.list (cfg.filters.map FilterDefinition.toValue)).WellKeyed := by
    refine wellKeyed_list ?_
    rw [List.forall_mem_map]
    intro f hf
    obtain ⟨v, part, read⟩ := exists_part h hf
    exact FilterDefinition.toValue_wellKeyed read (hc.part part)
  refine wellKeyed_object (by simp) ?_
  simp only [List.forall_mem_cons, List.not_mem_nil, false_imp_iff, implies_true, and_true]
  exact ⟨wellKeyed_of_nesting_zero rfl, wellKeyed_of_nesting_zero rfl, filters⟩

/-! ### Configs that come back from a text -/

theorem readTruth_reread (v : Value) : readTruth v.reread = readTruth v := by
  rcases v with _ | _ | _ | (_ | _ | _) | _ | _ | _ <;> rfl

/-- The filter with its value as it is read back. -/
def FilterDefinition.reread (f : FilterDefinition) : FilterDefinition :=
  { f with value := f.value.reread }

/-- The config with the values of its filters as they are read back. -/
def TriggerConfig.reread (cfg : TriggerConfig) : TriggerConfig :=
  { cfg with filters := cfg.filters.map FilterDefinition.reread }

theorem FilterDefinition.read_reread (h : FilterDefinition.read v = .accepted f) :
    FilterDefinition.read v.reread = .accepted f.reread := by
  obtain ⟨entries, rfl, ⟨hf, lf⟩, ⟨ho, lo⟩, hv⟩ := read_eq_accepted.mp h
  refine read_eq_accepted.mpr ⟨rereadEntries entries, rfl, ⟨?_, lf⟩, ⟨?_, lo⟩, ?_⟩
  · rw [lookup_rereadEntries, hf]
    rfl
  · rw [lookup_rereadEntries, ho]
    rfl
  · rw [get_rereadEntries, hv]
    rfl

theorem TriggerConfig.read_reread (h : TriggerConfig.read c = .accepted cfg) :
    TriggerConfig.read c.reread = .accepted cfg.reread := by
  obtain ⟨entries, rfl, enabled, logic, filters⟩ := read_eq_accepted.mp h
  refine read_eq_accepted.mpr ⟨rereadEntries entries, rfl, ?_, ?_, ?_⟩
  · refine enabled.imp (And.imp_left fun missing => ?_) fun ⟨v, there, read⟩ => ⟨v.reread, ?_, ?_⟩
    · rw [lookup_rereadEntries, missing]
      rfl
    · rw [lookup_rereadEntries, there]
      rfl
    · rw [readTruth_reread]
      exact read
  · refine logic.imp (And.imp_left fun missing => ?_) fun there => ?_
    · rw [lookup_rereadEntries, missing]
      rfl
    · rw [lookup_rereadEntries, there]
      rfl
  · refine filters.imp (fun h => ⟨?_, ?_⟩)
      fun ⟨items, there, each⟩ => ⟨rereadItems items, ?_, ?_⟩
    · rw [lookup_rereadEntries, h.1]
      rfl
    · rw [reread, h.2]
      rfl
    · rw [lookup_rereadEntries, there]
      rfl
    · rw [rereadItems_eq, reread, List.forall₂_map_left_iff, List.forall₂_map_right_iff]
      exact each.imp fun _ _ read => FilterDefinition.read_reread read

/-- What is written of a config comes back as it is written of the config that comes back. -/
theorem TriggerConfig.toValue_reread (cfg : TriggerConfig) :
    cfg.toValue.reread = cfg.reread.toValue := by
  have filters : rereadItems (cfg.filters.map FilterDefinition.toValue) =
      (cfg.filters.map FilterDefinition.reread).map FilterDefinition.toValue := by
    rw [rereadItems_eq, List.map_map, List.map_map]
    rfl
  rw [toValue, toValue, reread]
  exact congrArg (fun items => Value.object
    [("enabled", .bool cfg.enabled), ("logic", .str cfg.logic.name), ("filters", .list items)]) filters

end TriggerFlow.Schema
