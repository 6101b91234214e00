import TriggerFlow.Proofs.Number.Order
import TriggerFlow.Proofs.Schema.Checked
import TriggerFlow.Settings

/-! # Which settings load

Every setting has the value of the first source that gives it one (`lookup_merge`), and settings are
read if and only if each of them is and no limit is at fault (`read_eq_accepted`).  The limits are
guarded by refusing what is too small (`limitFault?_eq_none`).  That is enough for the integers, but a
timeout that is not-a-number is not too small, and it loads from every source (`load_notANumber`).
Exactly which settings load, and which of them have positive limits throughout: `load_limits`. -/

namespace TriggerFlow

theorem Binary64.le_eq_false_iff {x y : Binary64} :
    x.le y = false ↔ y.lt x = true ∨ x.isNaN = true ∨ y.isNaN = true := by
  cases hx : x.isNaN with
  | true => simp [le, rank?_of_isNaN hx]
  | false =>
      cases hy : y.isNaN with
      | true =>
          rw [le, rank?_of_isNaN hy]
          cases x.rank? <;> simp
      | false =>
          obtain ⟨p, hp⟩ := exists_rank hx
          obtain ⟨q, hq⟩ := exists_rank hy
          simp [le_of_rank hp hq, lt_of_rank hq hp]

namespace Settings

open Schema

variable {s : Settings} {given values : Entries} {sources : List Entries} {name : String}

/-! ### Sources -/

theorem lookup_filterMap (f : String → Option Value) (names : List String) (name : String) :
    (names.filterMap fun n => (f n).map fun v => (n, v)).lookup name =
      if name ∈ names then f name else none := by
  induction names with
  | nil => rfl
  | cons n rest ih =>
      rw [List.filterMap_cons]
      by_cases h : name = n
      · subst h
        cases hv : f name with
        | none => simp [ih, hv]
        | some v => simp
      · have differs : (name == n) = false := beq_false_of_ne h
        cases hv : f n with
        | none => simp [ih, h]
        | some v => simp [List.lookup_cons, differs, ih, h]

/-- The value of a setting is that of the first source that gives it one. -/
theorem lookup_merge (sources : List Entries) (h : name ∈ names) :
    (merge sources).lookup name = sources.findSome? fun source => source.lookup name := by
  rw [merge, lookup_filterMap fun name => sources.findSome? fun source => source.lookup name,
    if_pos h]

/-! ### Reading -/

theorem read_eq_accepted :
    read given = .accepted s ↔
      (.defaulted given "app_name" "workflow-automation" readText = Checked.accepted s.appName ∧
      .defaulted given "app_version" "1.0.0" readText = Checked.accepted s.appVersion ∧
      .defaulted given "debug" false readTruth = Checked.accepted s.debug ∧
      .defaulted given "database_url" "" readText = Checked.accepted s.databaseUrl ∧
      .defaulted given "database_echo" false readTruth = Checked.accepted s.databaseEcho ∧
      .defaulted given "workflow_execution_timeout_seconds" (Binary64.ofInt 5) readFloat =
        Checked.accepted s.executionTimeout ∧
      .defaulted given "workflow_max_recursion_depth" 10 readInteger =
        Checked.accepted s.maxDepth ∧
      .defaulted given "workflow_max_per_trigger" 100 readInteger =
        Checked.accepted s.maxPerTrigger ∧
      .defaulted given "workflow_max_concurrency" 1 readInteger =
        Checked.accepted s.maxConcurrency ∧
      .defaulted given "workflow_sandbox_start_method" "forkserver" readText =
        Checked.accepted s.startMethod ∧
      .defaulted given "telemetry_enabled" true readTruth = Checked.accepted s.telemetryEnabled ∧
      .defaulted given "telemetry_exporter" "none" readText =
        Checked.accepted s.telemetryExporter ∧
      .defaulted given "telemetry_sample_rate" Binary64.one readFloat =
        Checked.accepted s.telemetrySampleRate ∧
      .defaulted given "telemetry_environment" "development" readText =
        Checked.accepted s.telemetryEnvironment) ∧ s.limitFault? = none := by
  rw [read, Checked.andThen_eq_accepted]
  constructor
  · rintro ⟨t, fields, checked⟩
    have within : t = s ∧ t.limitFault? = none := by
      split at checked
      · cases checked
      · cases checked
        exact ⟨rfl, ‹_›⟩
    obtain ⟨rfl, limits⟩ := within
    simp only [Checked.seq_eq_accepted, Checked.map_eq_accepted] at fields
    obtain ⟨_, _, ⟨_, _, ⟨_, _, ⟨_, _, ⟨_, _, ⟨_, _, ⟨_, _, ⟨_, _, ⟨_, _, ⟨_, _, ⟨_, _, ⟨_, _, ⟨_, _,
      ⟨_, h₁, rfl⟩, h₂, rfl⟩, h₃, rfl⟩, h₄, rfl⟩, h₅, rfl⟩, h₆, rfl⟩, h₇, rfl⟩, h₈, rfl⟩, h₉, rfl⟩,
      h₁₀, rfl⟩, h₁₁, rfl⟩, h₁₂, rfl⟩, h₁₃, rfl⟩, h₁₄, rfl⟩ := fields
    exact ⟨⟨h₁, h₂, h₃, h₄, h₅, h₆, h₇, h₈, h₉, h₁₀, h₁₁, h₁₂, h₁₃, h₁₄⟩, limits⟩
  · rintro ⟨⟨h₁, h₂, h₃, h₄, h₅, h₆, h₇, h₈, h₉, h₁₀, h₁₁, h₁₂, h₁₃, h₁₄⟩, limits⟩
    refine ⟨s, ?_, by rw [limits]⟩
    simp only [Checked.seq_eq_accepted, Checked.map_eq_accepted]
    exact ⟨_, _, ⟨_, _, ⟨_, _, ⟨_, _, ⟨_, _, ⟨_, _, ⟨_, _, ⟨_, _, ⟨_, _, ⟨_, _, ⟨_, _, ⟨_, _, ⟨_, _,
      ⟨_, h₁, rfl⟩, h₂, rfl⟩, h₃, rfl⟩, h₄, rfl⟩, h₅, rfl⟩, h₆, rfl⟩, h₇, rfl⟩, h₈, rfl⟩, h₉, rfl⟩,
      h₁₀, rfl⟩, h₁₁, rfl⟩, h₁₂, rfl⟩, h₁₃, rfl⟩, h₁₄, rfl⟩

/-! ### Limits -/

/-- The counts are positive, and the start method is one of those that exist. -/
structure Bounded (s : Settings) : Prop where
  maxDepth : 1 ≤ s.maxDepth
  maxPerTrigger : 1 ≤ s.maxPerTrigger
  maxConcurrency : 1 ≤ s.maxConcurrency
  startMethod : s.startMethod ∈ startMethods

/-- All limits are positive. -/
structure Positive (s : Settings) : Prop extends Bounded s where
  timeout : Binary64.zero.lt s.executionTimeout = true

theorem refuse_eq_none {p : Prop} [Decidable p] {fault : String} {rest : Option String} :
    (if p then some fault else rest) = none ↔ ¬ p ∧ rest = none := by
  split <;> simp [*]

/-- No limit is at fault if and only if all are positive, or the timeout is not-a-number. -/
theorem limitFault?_eq_none :
    s.limitFault? = none ↔ s.Bounded ∧
      (Binary64.zero.lt s.executionTimeout = true ∨ s.executionTimeout.isNaN = true) := by
  have timeout : s.executionTimeout.le .zero = false ↔
      Binary64.zero.lt s.executionTimeout = true ∨ s.executionTimeout.isNaN = true := by
    rw [Binary64.le_eq_false_iff]
    simp [show Binary64.zero.isNaN = false from rfl]
  simp only [limitFault?, refuse_eq_none, Bool.not_eq_true, timeout, Int.not_lt,
    Bool.not_eq_true', Bool.not_eq_false, List.contains_iff_mem, and_true]
  constructor
  · rintro ⟨timeout, maxDepth, maxPerTrigger, maxConcurrency, startMethod⟩
    exact ⟨⟨maxDepth, maxPerTrigger, maxConcurrency, startMethod⟩, timeout⟩
  · rintro ⟨⟨maxDepth, maxPerTrigger, maxConcurrency, startMethod⟩, timeout⟩
    exact ⟨timeout, maxDepth, maxPerTrigger, maxConcurrency, startMethod⟩

/-! ### Loading -/

variable {environment : List (String × String)} {dotenv : String}

/-- The value that the first source gives a setting. -/
def supplied? (values : Entries) (environment : List (String × String)) (dotenv : String)
    (name : String) : Option Value :=
  [ofValues values, ofVariables (environment.map fun v => (v.1, some v.2)),
    ofVariables (Dotenv.assignments environment dotenv)].findSome? fun source => source.lookup name

/-- The timeout is read from what is supplied for it, and left at its default if nothing is. -/
theorem load_timeout (h : load values environment dotenv = .accepted s) :
    (supplied? values environment dotenv "workflow_execution_timeout_seconds" = none ∧
        s.executionTimeout = .ofInt 5) ∨
      ∃ v, supplied? values environment dotenv "workflow_execution_timeout_seconds" = some v ∧
        readFloat v = .accepted s.executionTimeout := by
  obtain ⟨⟨-, -, -, -, -, timeout, -⟩, -⟩ := read_eq_accepted.mp h
  rw [Checked.defaulted_eq_accepted, lookup_merge _ (by decide)] at timeout
  exact timeout

theorem lower_names : ∀ name ∈ names, Text.lower name = name := by decide +kernel

theorem ofValues_of_names (h : given.map Prod.fst ⊆ names) : ofValues given = given := by
  refine (List.map_congr_left fun e he => ?_).trans (List.map_id given)
  rw [lower_names e.1 (h (List.mem_map_of_mem he))]
  rfl

/-- An empty `.env` text sets nothing. -/
theorem assignments_empty (environment : List (String × String)) :
    Dotenv.assignments environment "" = [] := by
  have none : Dotenv.bindings [] = [] := by
    rw [Dotenv.bindings]
    rfl
  change (Dotenv.bindings []).foldl _ [] = _
  rw [none]
  rfl

/-- Settings within their limits load from the values that they are written with. -/
theorem exists_load (h : s.limitFault? = none) :
    ∃ values, s.toValue = .object values ∧ load values [] "" = .accepted s := by
  refine ⟨_, rfl, ?_⟩
  rw [load, ofValues_of_names (by exact List.Subset.refl names)]
  have own {α : Type} {name : String} {default a : α} {read : Value → Checked α} {v : Value}
      {first : Entries} {rest : List Entries} (known : name ∈ names)
      (found : first.lookup name = some v) (accepted : read v = .accepted a) :
      .defaulted (merge (first :: rest)) name default read = Checked.accepted a := by
    rw [Checked.defaulted_eq_accepted, lookup_merge _ known, List.findSome?_cons, found]
    exact .inr ⟨v, rfl, accepted⟩
  refine read_eq_accepted.mpr ⟨⟨?_, ?_, ?_, ?_, ?_, ?_, ?_, ?_, ?_, ?_, ?_, ?_, ?_, ?_⟩, h⟩
  all_goals exact own (by decide) rfl rfl

/-! ### A timeout alone -/

/-- Where only one setting is given, every other one has its default. -/
theorem defaulted_singleton {α : Type} {given name : String} (h : name ≠ given) (v : Value)
    (default : α) (read : Value → Checked α) :
    .defaulted [(given, v)] name default read = Checked.accepted default := by
  refine Checked.defaulted_eq_accepted.mpr (.inl ⟨?_, rfl⟩)
  simpa [List.lookup_eq_none_iff] using h

/-- A timeout alone is read as settings that have it. -/
theorem read_timeout {v : Value} {x : Binary64} (hv : readFloat v = .accepted x)
    (h : Binary64.zero.lt x = true ∨ x.isNaN = true) :
    read [("workflow_execution_timeout_seconds", v)] = .accepted { executionTimeout := x } := by
  have own (default : Binary64) : .defaulted [("workflow_execution_timeout_seconds", v)]
      "workflow_execution_timeout_seconds" default readFloat = Checked.accepted x :=
    Checked.defaulted_eq_accepted.mpr (.inr ⟨v, rfl, hv⟩)
  have within : ({ executionTimeout := x } : Settings).limitFault? = none :=
    limitFault?_eq_none.mpr
      ⟨⟨show (1 : Int) ≤ 10 by decide, show (1 : Int) ≤ 100 by decide, Int.le_refl 1,
        show "forkserver" ∈ startMethods by decide⟩, h⟩
  rw [read]
  simp (disch := decide) only [own, defaulted_singleton]
  change (Checked.accepted ({ executionTimeout := x } : Settings)).andThen _ = _
  rw [Checked.andThen, within]

/-- The variable of the timeout, as a setting. -/
theorem ofVariables_timeout (text : String) :
    ofVariables [("WORKFLOW_EXECUTION_TIMEOUT_SECONDS", some text)] =
      [("workflow_execution_timeout_seconds", .str text)] := by
  have lowered : Text.lower "WORKFLOW_EXECUTION_TIMEOUT_SECONDS" =
      "workflow_execution_timeout_seconds" := by decide +kernel
  rw [ofVariables, List.map_cons, lowered]
  rfl

/-! ### Which settings load -/

/-- **Which settings load.**  Settings can be loaded from some sources if and only if their counts are
positive, their start method exists, and their timeout is positive or not-a-number.  So whatever the
sources are, all limits of the settings that load are positive, unless what is supplied for the timeout
is read as not-a-number. -/
theorem load_limits (s : Settings) :
    ((∃ values environment dotenv, load values environment dotenv = .accepted s) ↔
      s.Bounded ∧
        (Binary64.zero.lt s.executionTimeout = true ∨ s.executionTimeout.isNaN = true)) ∧
    ∀ values environment dotenv, load values environment dotenv = .accepted s →
      (s.Positive ↔ ∀ v x,
        supplied? values environment dotenv "workflow_execution_timeout_seconds" = some v →
          readFloat v = .accepted x → x.isNaN = false) := by
  rw [← limitFault?_eq_none]
  refine ⟨⟨?_, fun within => ?_⟩, fun values environment dotenv loaded => ⟨?_, fun number => ?_⟩⟩
  · rintro ⟨values, environment, dotenv, loaded⟩
    exact (read_eq_accepted.mp loaded).2
  · obtain ⟨values, -, loaded⟩ := exists_load within
    exact ⟨values, [], "", loaded⟩
  · rintro positive v x supplied accepted
    rcases load_timeout loaded with ⟨missing, -⟩ | ⟨w, found, read⟩
    · cases missing.symm.trans supplied
    · cases found.symm.trans supplied
      obtain rfl : s.executionTimeout = x := Checked.accepted.inj (read.symm.trans accepted)
      have above := positive.timeout
      cases h : s.executionTimeout with
      | nan => cases h ▸ above
      | _ => rfl
  · obtain ⟨bounded, above | notANumber⟩ :=
      limitFault?_eq_none.mp (read_eq_accepted.mp loaded).2
    · exact ⟨bounded, above⟩
    · rcases load_timeout loaded with ⟨-, default⟩ | ⟨v, supplied, read⟩
      · rw [default, Binary64.isNaN_ofInt] at notANumber
        cases notANumber
      · rw [number v _ supplied read] at notANumber
        cases notANumber

/-- A timeout of one second, given directly, goes before one of the environment that is
not-a-number, and so all limits are positive. -/
theorem load_limits_oneSecond :
    load [("workflow_execution_timeout_seconds", .float .one)]
        [("WORKFLOW_EXECUTION_TIMEOUT_SECONDS", "nan")] "" =
      .accepted { executionTimeout := .one } ∧
    ({ executionTimeout := .one } : Settings).Positive := by
  have first : supplied? [("workflow_execution_timeout_seconds", .float .one)]
      [("WORKFLOW_EXECUTION_TIMEOUT_SECONDS", "nan")] "" "workflow_execution_timeout_seconds" =
        some (.float .one) := by
    rw [supplied?, ofValues_of_names (by simp [names])]
    rfl
  have loaded : load [("workflow_execution_timeout_seconds", .float .one)]
      [("WORKFLOW_EXECUTION_TIMEOUT_SECONDS", "nan")] "" =
        .accepted { executionTimeout := .one } := by
    rw [load, assignments_empty, ofValues_of_names (by simp [names]), List.map_singleton,
      ofVariables_timeout]
    exact read_timeout rfl (.inl (by decide +kernel))
  refine ⟨loaded, ((load_limits _).2 _ _ _ loaded).mpr fun v x supplied accepted => ?_⟩
  cases first.symm.trans supplied
  rw [← Checked.accepted.inj accepted]
  exact Binary64.isNaN_ofInt 1

/-- A timeout that is not-a-number loads from every source, and it is not positive. -/
theorem load_notANumber :
    load [("workflow_execution_timeout_seconds", .float .notANumber)] [] "" =
        .accepted { executionTimeout := .notANumber } ∧
      load [] [("WORKFLOW_EXECUTION_TIMEOUT_SECONDS", "nan")] "" =
        .accepted { executionTimeout := .notANumber } ∧
      load [] [] "WORKFLOW_EXECUTION_TIMEOUT_SECONDS=nan" =
        .accepted { executionTimeout := .notANumber } ∧
      ¬ ({ executionTimeout := .notANumber } : Settings).Positive := by
  have line : Dotenv.assignments [] "WORKFLOW_EXECUTION_TIMEOUT_SECONDS=nan" =
      [("WORKFLOW_EXECUTION_TIMEOUT_SECONDS", some "nan")] := by decide +kernel
  have word : readFloat (.str "nan") = .accepted .notANumber := rfl
  refine ⟨?_, ?_, ?_, fun h => ?_⟩
  · rw [load, assignments_empty, ofValues_of_names (by simp [names])]
    exact read_timeout rfl (.inr rfl)
  · rw [load, assignments_empty, List.map_singleton, ofVariables_timeout]
    exact read_timeout word (.inr rfl)
  · rw [load, line, ofVariables_timeout]
    exact read_timeout word (.inr rfl)
  · have above : Binary64.zero.lt Binary64.notANumber = true := h.timeout
    cases above

end Settings

end TriggerFlow
