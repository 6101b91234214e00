import TriggerFlow.Proofs.Schema.TriggerConfig
import TriggerFlow.Proofs.Store.Admission

/-! # Definitions that the schema accepts

A definition is accepted if and only if its fields are (`Definition.read_eq_accepted`).  Its reading
breaks down just where the trial of its tree overflows (`Definition.read_eq_broken`); all that is wrong
besides is refused.  What has been accepted can go to the store: its tree is valid within the default
depth, and no object of its tree or its config has a key twice (`Definition.tree_wellKeyed`,
`Definition.config_wellKeyed`). -/

namespace TriggerFlow

/-- An overflow of numbers: an integer too large for a floating-point number, or a sum. -/
inductive Breakdown.OfOverflow : Breakdown → Prop
  | integerTooLarge : OfOverflow .integerTooLarge
  | sumOverflow : OfOverflow .sumOverflow

theorem Trigger.ofName?_name (t : Trigger) : Trigger.ofName? t.name = some t := by
  cases t <;> decide

theorem Status.ofName?_name (s : Status) : Status.ofName? s.name = some s := by
  cases s <;> decide

namespace Schema

open Value

/-- Of the limits of numbers, overflows are those that are no problem of the value. -/
theorem ofOverflow_iff {cause : Breakdown} :
    cause.OfOverflow ↔ cause.OfNumbers ∧ isValueProblem cause = false := by
  constructor
  · rintro (_ | _)
    · exact ⟨.integerTooLarge, rfl⟩
    · exact ⟨.sumOverflow, rfl⟩
  · rintro ⟨_ | _ | _ | _ | _, overflow⟩
    · exact .integerTooLarge
    · exact .sumOverflow
    all_goals cases overflow

variable {v : Value} {entries : Entries} {cause : Breakdown} {d : Definition}

/-! ### Breakdowns -/

theorem readTree_eq_broken [Levels] :
    readTree v = .broken cause ↔ Rule.WellFormed Rule.defaultMaxDepth v ∧ cause.OfOverflow ∧
      Rule.evaluate v (.object []) = .error (.breakdown cause) := by
  have validation : readTree v = .broken cause ↔
      Rule.validate Rule.defaultMaxDepth v = .error (.breakdown cause) ∧
        isValueProblem cause = false := by
    cases v with
    | object entries =>
        rw [readTree, readObject, Checked.andThen]
        cases outcome : Rule.validate Rule.defaultMaxDepth (.object entries) with
        | ok verdict => cases verdict <;> simp [Checked.problem]
        | error fault =>
            cases fault with
            | breakdown other =>
                by_cases problem : isValueProblem other = true
                · have differs : other = cause → ¬ isValueProblem cause = false := by
                    rintro rfl
                    simp [problem]
                  simpa [problem, Checked.problem] using differs
                · have unchanged : other = cause → isValueProblem cause = false := by
                    rintro rfl
                    simpa using problem
                  simpa [problem] using unchanged
            | _ => simp [Checked.problem]
    | _ => simp [readTree, readObject, Checked.andThen, Checked.problem, Rule.validate]
  rw [validation, Rule.validate_eq_error, ofOverflow_iff]
  constructor
  · rintro ⟨⟨formed, _, numbers, ⟨⟩, trial⟩, other⟩
    exact ⟨formed, ⟨numbers, other⟩, trial⟩
  · rintro ⟨formed, ⟨numbers, other⟩, trial⟩
    exact ⟨⟨formed, cause, numbers, rfl, trial⟩, other⟩

theorem Combination.steady_read (v : Value) : (Combination.read v).Steady := by
  refine (steady_readText v).andThen fun s => ?_
  split
  · nofun
  · split <;> nofun

theorem FilterDefinition.steady_read (v : Value) : (FilterDefinition.read v).Steady :=
  (steady_readObject _ v).andThen fun _ =>
    (((Checked.steady_required (steady_readSized 1 none)).map _).seq
      (Checked.steady_required (steady_readSized 1 none))).seq
      (Checked.steady_defaulted nofun)

theorem TriggerConfig.steady_read (v : Value) : (TriggerConfig.read v).Steady :=
  (steady_readObject _ v).andThen fun _ =>
    (((Checked.steady_defaulted steady_readTruth).map _).seq
      (Checked.steady_defaulted Combination.steady_read)).seq
      (Checked.steady_defaulted (steady_readList FilterDefinition.steady_read))

/-- The reading of a definition breaks down if and only if the trial of its tree overflows. -/
theorem Definition.read_eq_broken [Levels] :
    Definition.read (.object entries) = .broken cause ↔
      ∃ tree, entries.lookup "logic_tree" = some tree ∧
        Rule.WellFormed Rule.defaultMaxDepth tree ∧ cause.OfOverflow ∧
        Rule.evaluate tree (.object []) = .error (.breakdown cause) := by
  have status : (Checked.defaulted entries "status" .draft (readName Status.ofName?)).Steady :=
    Checked.steady_defaulted (steady_readName Status.ofName?)
  have active : (Checked.defaulted entries "is_active" false readTruth).Steady :=
    Checked.steady_defaulted steady_readTruth
  have priority : (Checked.defaulted entries "priority" 0 (readBounded 0 100)).Steady :=
    Checked.steady_defaulted (steady_readBounded 0 100)
  -- The fields after the tree and those before it are steady.
  rw [Definition.read, readObject, Checked.andThen, Checked.seq_eq_broken_left status,
    Checked.seq_eq_broken_left active, Checked.seq_eq_broken_left priority,
    Checked.seq_eq_broken_right, Checked.required_eq_broken]
  · simp only [readTree_eq_broken]
  · exact ((((Checked.steady_required (steady_readSized 1 (some 100))).map _).seq
      (Checked.steady_defaulted (steady_readOptional (steady_readSized 0 (some 500))))).seq
      (Checked.steady_required (steady_readName Trigger.ofName?))).seq
      (Checked.steady_defaulted (steady_readOptional TriggerConfig.steady_read))

/-! ### What is accepted -/

theorem Definition.read_eq_accepted [Levels] :
    Definition.read v = .accepted d ↔ ∃ entries : Entries, v = .object entries ∧
      .required entries "name" (readSized 1 (some 100)) = Checked.accepted d.name ∧
      .defaulted entries "description" none (readOptional (readSized 0 (some 500))) =
        Checked.accepted d.description ∧
      .required entries "trigger" (readName Trigger.ofName?) = Checked.accepted d.trigger ∧
      .defaulted entries "trigger_config" none (readOptional TriggerConfig.read) =
        Checked.accepted d.config ∧
      .required entries "logic_tree" readTree = Checked.accepted d.tree ∧
      .defaulted entries "priority" 0 (readBounded 0 100) = Checked.accepted d.priority ∧
      .defaulted entries "is_active" false readTruth = Checked.accepted d.active ∧
      .defaulted entries "status" .draft (readName Status.ofName?) = Checked.accepted d.status := by
  rw [Definition.read, Checked.andThen_eq_accepted]
  simp only [readObject_eq_accepted, Checked.seq_eq_accepted, Checked.map_eq_accepted]
  refine exists_congr fun entries => and_congr_right fun _ => ?_
  constructor
  · rintro ⟨_, status, ⟨_, active, ⟨_, priority, ⟨_, tree, ⟨_, config, ⟨_, trigger,
      ⟨_, description, ⟨name, hname, rfl⟩, hdescription, rfl⟩, htrigger, rfl⟩, hconfig, rfl⟩,
      htree, rfl⟩, hpriority, rfl⟩, hactive, rfl⟩, hstatus, rfl⟩
    exact ⟨hname, hdescription, htrigger, hconfig, htree, hpriority, hactive, hstatus⟩
  · rintro ⟨hname, hdescription, htrigger, hconfig, htree, hpriority, hactive, hstatus⟩
    exact ⟨_, _, ⟨_, _, ⟨_, _, ⟨_, _, ⟨_, _, ⟨_, _, ⟨_, _, ⟨_, hname, rfl⟩, hdescription, rfl⟩,
      htrigger, rfl⟩, hconfig, rfl⟩, htree, rfl⟩, hpriority, rfl⟩, hactive, rfl⟩, hstatus, rfl⟩

theorem Definition.exists_tree [Levels] (h : Definition.read (.object entries) = .accepted d) :
    entries.lookup "logic_tree" = some (.object d.tree) ∧
      Rule.validate Rule.defaultMaxDepth (.object d.tree) = .ok .accepted := by
  obtain ⟨_, ⟨⟩, -, -, -, -, read, -⟩ := read_eq_accepted.mp h
  obtain ⟨tree, found, read⟩ := Checked.required_eq_accepted.mp read
  obtain ⟨rfl, valid⟩ := readTree_eq_accepted.mp read
  exact ⟨found, valid⟩

theorem Definition.tree_wellKeyed [Levels] (h : Definition.read (.object entries) = .accepted d)
    (keyed : (Value.object entries).WellKeyed) : (Value.object d.tree).WellKeyed :=
  keyed.entry (mem_of_lookup (exists_tree h).1)

theorem Definition.config_wellKeyed [Levels] (h : Definition.read (.object entries) = .accepted d)
    (keyed : (Value.object entries).WellKeyed) :
    (Value.ofOption TriggerConfig.toValue d.config).WellKeyed := by
  obtain ⟨_, ⟨⟩, -, -, -, read, -⟩ := read_eq_accepted.mp h
  cases config : d.config with
  | none => exact wellKeyed_of_nesting_zero rfl
  | some cfg =>
      rw [config, Checked.defaulted_eq_accepted] at read
      obtain ⟨v, found, read⟩ := read.resolve_left nofun
      have given := keyed.entry (mem_of_lookup found)
      cases v with
      | null => cases read
      | _ =>
          obtain ⟨_, read, ⟨⟩⟩ := Checked.map_eq_accepted.mp read
          exact TriggerConfig.toValue_wellKeyed read given

end Schema

end TriggerFlow
