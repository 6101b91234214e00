import TriggerFlow.Filter
import TriggerFlow.Proofs.Number.Range
import TriggerFlow.Proofs.Rule.Breakdown
import TriggerFlow.Proofs.Value.Limits

/-! # What a trigger filter breaks down on

A trigger config that cannot be read is a fault of logic (`Unreadable`).  A rule of a readable config
has an answer for most data, whatever its field, operator and value are.  It has none where its
operator is a list or an object, where a number is too large, and where a comparison or a text meets
data of too many levels or digits; nor has a rule without a field that nests too deeply for the log
record about it (`Breaks`, `holds_eq_error`).  The rules are asked in order, and the first that has no
answer is the fault of the config (`fires_eq_error`). -/

namespace TriggerFlow.Filter

open Outcome Value

/-! ### Numbers -/

/-- An integer without a nearest floating-point number. -/
def IsTooLarge (v : Value) : Prop :=
  ∃ n : Int, v = .int n ∧ (2 ^ 54 - 1) * 2 ^ 970 ≤ n.natAbs

variable {v actual expected data : Value} {cause : Breakdown} {rule : Entries} {path : String}

theorem amount_eq_error : amount v = .error cause ↔ IsTooLarge v ∧ cause = .integerTooLarge := by
  cases v with
  | int n =>
      have : IsTooLarge (.int n) ↔ (2 ^ 54 - 1) * 2 ^ 970 ≤ n.natAbs :=
        ⟨fun ⟨_, h, large⟩ => by cases h; exact large, fun large => ⟨n, rfl, large⟩⟩
      rw [this, ← Number.nearest?_eq_none_iff, ← Rule.toBinary64_eq_error]
      exact map_eq_error
  | _ => exact ⟨nofun, fun ⟨⟨_, h, _⟩, _⟩ => by cases h⟩

/-- Reading a number breaks down on one that is too large, and so may what is done with the number. -/
theorem amount_bind_eq_error {β : Type} {rest : Option Binary64 → Except Breakdown β} {large : Prop}
    (h : ∀ x, rest x = .error cause ↔ large ∧ cause = .integerTooLarge) :
    (amount v >>= rest) = .error cause ↔
      (IsTooLarge v ∨ large) ∧ cause = .integerTooLarge := by
  rw [bind_eq_error, amount_eq_error]
  constructor
  · rintro (⟨first, rfl⟩ | ⟨x, -, hx⟩)
    · exact ⟨.inl first, rfl⟩
    · exact ((h x).mp hx).imp_left .inr
  · rintro ⟨tooLarge, rfl⟩
    cases ha : amount v with
    | error other => exact .inl ⟨(amount_eq_error.mp ha).1, rfl⟩
    | ok x =>
        have small : ¬ IsTooLarge v := by
          intro first
          rw [amount_eq_error.mpr ⟨first, rfl⟩] at ha
          cases ha
        exact .inr ⟨x, rfl, (h x).mpr ⟨tooLarge.resolve_left small, rfl⟩⟩

/-! ### What a rule names -/

/-- An operator that cannot be looked up. -/
inductive Unhashable : Value → Breakdown → Prop
  | list (items : List Value) : Unhashable (.list items) (.unhashable .list)
  | object (entries : Entries) : Unhashable (.object entries) (.unhashable .object)

theorem testOf_eq_error {operator : Value} :
    testOf operator = .error cause ↔ Unhashable operator cause := by
  constructor
  · intro h
    unfold testOf at h
    split at h <;> cases h
    · exact .list _
    · exact .object _
  · rintro (_ | _) <;> rfl

/-- A rule that names no path. -/
def Pathless (rule : Entries) : Prop := ∀ path, rule.get "field" = .str path → path = ""

theorem pathOf_eq_some : pathOf rule = some path ↔ rule.get "field" = .str path ∧ path ≠ "" := by
  rw [pathOf, Option.filter_eq_some_iff, bne_iff_ne]
  refine and_congr_left fun _ => ?_
  cases rule.get "field" <;> simp [text?]

theorem pathOf_eq_none : pathOf rule = none ↔ Pathless rule := by
  constructor
  · intro none path field
    by_contra ne
    rw [pathOf_eq_some.mpr ⟨field, ne⟩] at none
    cases none
  · intro pathless
    refine Option.eq_none_iff_forall_ne_some.mpr fun path found => ?_
    obtain ⟨field, ne⟩ := pathOf_eq_some.mp found
    exact ne (pathless path field)

/-! ### Tests -/

section

variable [Levels]

/-- How a test breaks down on the value of a field and the expected one. -/
def Test.Breaks (actual expected : Value) (cause : Breakdown) : Test → Prop
  | .equal | .unequal =>
      ComparesTooDeep actual expected ∧ cause = .nestedTooDeeply .comparison
  | .compare _ => (IsTooLarge actual ∨ IsTooLarge expected) ∧ cause = .integerTooLarge
  | .isIn | .notIn =>
      (∃ items, expected = .list items ∧ SearchesTooDeep actual items) ∧
        cause = .nestedTooDeeply .comparison
  | .contains | .notContains | .startsWith | .endsWith =>
      Unwritable actual cause ∨ (∀ other, ¬ Unwritable actual other) ∧ Unwritable expected cause
  | .between =>
      (∃ low high, expected = .list [low, high] ∧
        (IsTooLarge actual ∨ IsTooLarge low ∨ IsTooLarge high)) ∧ cause = .integerTooLarge

theorem compare_eq_error {r : Rule.Relation} :
    (Test.compare r).run actual expected = .error cause ↔
      (IsTooLarge actual ∨ IsTooLarge expected) ∧ cause = .integerTooLarge := by
  rw [← or_false (IsTooLarge expected)]
  refine amount_bind_eq_error fun x => amount_bind_eq_error fun y => ?_
  split <;> simp [pure, Except.pure]

theorem compareTexts_eq_error {holds : String → String → Bool} :
    compareTexts holds actual expected = .error cause ↔
      Unwritable actual cause ∨ (∀ other, ¬ Unwritable actual other) ∧ Unwritable expected cause := by
  rw [compareTexts, lowerText, lowerText, bind_eq_error]
  simp only [bind_eq_error, map_eq_error, textWithin_eq_error, map_eq_ok]
  constructor
  · rintro (h | ⟨s, ⟨t, ht, -⟩, h | ⟨_, -, h⟩⟩)
    · exact .inl h
    · refine .inr ⟨fun other ho => ?_, h⟩
      rw [textWithin_eq_error.mpr ho] at ht
      cases ht
    · cases h
  · rintro (h | ⟨writable, h⟩)
    · exact .inl h
    · obtain ⟨s, hs⟩ := exists_text writable
      exact .inr ⟨_, ⟨s, hs, rfl⟩, .inl h⟩

theorem between_eq_error {low high : Value} :
    Test.between.run actual (.list [low, high]) = .error cause ↔
      (IsTooLarge actual ∨ IsTooLarge low ∨ IsTooLarge high) ∧ cause = .integerTooLarge := by
  rw [← or_false (IsTooLarge high)]
  refine amount_bind_eq_error fun x => amount_bind_eq_error fun l => amount_bind_eq_error fun h => ?_
  split <;> simp [pure, Except.pure]

theorem Test.run_eq_error {test : Test} :
    test.run actual expected = .error cause ↔ test.Breaks actual expected cause := by
  cases test with
  | equal => exact sameWithin_eq_error
  | unequal => exact map_eq_error.trans sameWithin_eq_error
  | compare r => exact compare_eq_error
  | contains | notContains | startsWith | endsWith => exact compareTexts_eq_error
  | isIn =>
      cases expected with
      | list items => simp [Test.run, Test.Breaks, isAmongWithin_eq_error]
      | _ => simp [Test.run, Test.Breaks]
  | notIn =>
      cases expected with
      | list items => simp [Test.run, Test.Breaks, map_eq_error, isAmongWithin_eq_error]
      | _ => simp [Test.run, Test.Breaks]
  | between =>
      cases expected with
      | list bounds =>
          rcases bounds with _ | ⟨low, _ | ⟨high, _ | ⟨more, rest⟩⟩⟩
          · simp [Test.run, Test.Breaks]
          · simp [Test.run, Test.Breaks]
          · rw [between_eq_error]
            simp [Test.Breaks]
          · simp [Test.run, Test.Breaks]
      | _ => simp [Test.run, Test.Breaks]

/-! ### Rules -/

/-- A rule with so many levels that no log record can be written about it. -/
def TooDeepToLog (rule : Entries) : Prop :=
  (Value.object rule).obstacle? .writing Levels.logging = some (.nestedTooDeeply .writing)

instance (rule : Entries) : Decidable (TooDeepToLog rule) := inferInstanceAs (Decidable (_ = _))

/-- How a rule breaks down on data: its path leads to a value, and its operator cannot be looked up or
asks for a test that breaks down there; or it names no path, and no log record can be written about
it. -/
def Breaks (rule : Entries) (data : Value) (cause : Breakdown) : Prop :=
  (∃ path, rule.get "field" = .str path ∧ path ≠ "" ∧ (lookup data path).isNull = false ∧
    (Unhashable (rule.get "operator") cause ∨
      ∃ test, testOf (rule.get "operator") = .ok (some test) ∧
        test.Breaks (lookup data path) (rule.get "value") cause)) ∨
  Pathless rule ∧ TooDeepToLog rule ∧ cause = .nestedTooDeeply .writing

theorem ignored_eq (rule : Entries) :
    ignored rule = if TooDeepToLog rule then .error (.nestedTooDeeply .writing) else .ok false := by
  unfold ignored
  split
  · rename_i during found
    rcases obstacle?_eq_some _ found with ⟨same, -⟩ | ⟨⟨⟩, -⟩
    cases same
    exact (if_pos found).symm
  · rename_i loggable
    exact (if_neg (loggable .writing)).symm

theorem holds_of_pathless (h : Pathless rule) (data : Value) :
    holds rule data =
      if TooDeepToLog rule then .error (.nestedTooDeeply .writing) else .ok false := by
  rw [holds, pathOf_eq_none.mpr h]
  exact ignored_eq rule

theorem holds_of_path (field : rule.get "field" = .str path) (ne : path ≠ "") (data : Value) :
    holds rule data = answer (rule.get "operator") (lookup data path) (rule.get "value") := by
  rw [holds, pathOf_eq_some.mpr ⟨field, ne⟩]

/-- Where there is a value, the answer breaks down on the operator or on its test. -/
theorem answer_eq_error {operator : Value} :
    answer operator actual expected = .error cause ↔
      actual.isNull = false ∧ (Unhashable operator cause ∨
        ∃ test, testOf operator = .ok (some test) ∧ test.Breaks actual expected cause) := by
  unfold answer
  cases actual.isNull with
  | true =>
      rw [if_pos rfl]
      refine iff_of_false ?_ nofun
      split <;> nofun
  | false =>
      rw [if_neg Bool.false_ne_true, bind_eq_error, testOf_eq_error, and_iff_right rfl]
      refine or_congr Iff.rfl ⟨?_, ?_⟩
      · rintro ⟨_ | test, ht, h⟩
        · cases h
        · exact ⟨test, ht, Test.run_eq_error.mp h⟩
      · rintro ⟨test, ht, h⟩
        exact ⟨some test, ht, Test.run_eq_error.mpr h⟩

theorem holds_eq_error : holds rule data = .error cause ↔ Breaks rule data cause := by
  unfold Breaks
  by_cases pathless : Pathless rule
  · rw [holds_of_pathless pathless]
    constructor
    · intro h
      split at h <;> cases h
      exact .inr ⟨pathless, ‹_›, rfl⟩
    · rintro (⟨path, field, ne, -⟩ | ⟨-, deep, rfl⟩)
      · exact absurd (pathless path field) ne
      · exact if_pos deep
  · obtain ⟨path, found⟩ := Option.ne_none_iff_exists'.mp (mt pathOf_eq_none.mp pathless)
    obtain ⟨field, ne⟩ := pathOf_eq_some.mp found
    rw [holds_of_path field ne, answer_eq_error]
    constructor
    · exact fun h => .inl ⟨path, field, ne, h⟩
    · rintro (⟨other, field', -, h⟩ | ⟨none, -⟩)
      · cases field.symm.trans field'
        exact h
      · exact absurd none pathless

/-! ### Configs -/

/-- Why a config cannot be read. -/
inductive Unreadable (config : Value) : LogicFault → Prop
  | config : config ≠ .null → (∀ entries, config ≠ .object entries) →
      Unreadable config (.configKind config.kind)
  | filters {entries : Entries} : config = .object entries → (config.get "enabled").truthy = true →
      config.get "filters" ≠ .null → (∀ items, config.get "filters" ≠ .list items) →
      Unreadable config (.filtersKind (config.get "filters").kind)

/-- How a config breaks down on an event: it is enabled, and a rule does, the first of its filters that
has no answer. -/
def ConfigBreaks (config context : Value) (cause : Breakdown) : Prop :=
  ∃ entries before rule after, config = .object entries ∧
    (config.get "enabled").truthy = true ∧
    config.get "filters" = .list (before ++ .object rule :: after) ∧
    (∀ earlier other, .object earlier ∈ before → ¬ Breaks earlier context other) ∧
    Breaks rule context cause

theorem itemHolds_eq_error {item : Value} :
    itemHolds data item = .error cause ↔ ∃ rule, item = .object rule ∧ Breaks rule data cause := by
  cases item with
  | object rule => simp [itemHolds, holds_eq_error]
  | _ => simp [itemHolds]

theorem asked_eq_error {filters : List Value} {fault : Fault} :
    (filters.mapM (itemHolds data)).mapError Fault.breakdown = .error fault ↔
      ∃ cause before rule after, fault = .breakdown cause ∧
        filters = before ++ .object rule :: after ∧
        (∀ earlier other, .object earlier ∈ before → ¬ Breaks earlier data other) ∧
        Breaks rule data cause := by
  have answered (item : Value) : (∃ answer, itemHolds data item = .ok answer) ↔
      ∀ earlier other, item = .object earlier → ¬ Breaks earlier data other := by
    constructor
    · rintro ⟨answer, ha⟩ earlier other rfl breaks
      rw [itemHolds_eq_error.mpr ⟨earlier, rfl, breaks⟩] at ha
      cases ha
    · intro none
      cases ha : itemHolds data item with
      | ok answer => exact ⟨answer, rfl⟩
      | error cause =>
          obtain ⟨rule, hr, breaks⟩ := itemHolds_eq_error.mp ha
          exact absurd breaks (none rule cause hr)
  rw [mapError_eq_error]
  simp only [mapM_eq_error, itemHolds_eq_error, answered]
  constructor
  · rintro ⟨cause, ⟨before, _, after, rfl, earlier, rule, rfl, breaks⟩, rfl⟩
    exact ⟨cause, before, rule, after, rfl, rfl, fun e other he => earlier _ he e other rfl, breaks⟩
  · rintro ⟨cause, before, rule, after, rfl, rfl, earlier, breaks⟩
    exact ⟨cause, ⟨before, _, after, rfl, fun item hi e other he => earlier e other (he ▸ hi),
      rule, rfl, breaks⟩, rfl⟩

theorem fires_of_unreadable {config context : Value} {reason : LogicFault}
    (h : Unreadable config reason) : fires config context = .error (.logic reason) := by
  cases h with
  | config notNull notObject =>
      cases config with
      | null => exact absurd rfl notNull
      | object entries => exact absurd rfl (notObject entries)
      | _ => rfl
  | filters isObject enabled notNull notList =>
      subst isObject
      simp only [fires, enabled, Bool.not_true, Bool.false_eq_true, if_false]
      split
      · exact absurd ‹_› notNull
      · exact absurd ‹_› (notList _)
      · exact absurd ‹_› (notList _)
      · rfl

/-- The rules of an enabled config are asked for their answers. -/
theorem fires_of_filters {entries : Entries} {filters : List Value} (context : Value)
    (enabled : ((Value.object entries).get "enabled").truthy = true)
    (h : (Value.object entries).get "filters" = .list filters) (hne : filters ≠ []) :
    fires (.object entries) context =
      (filters.mapM (itemHolds context)).mapError Fault.breakdown >>= fun answers =>
        if ((Value.object entries).get "logic").same (.str "AND") then .ok (answers.all id)
        else .ok (answers.any id) := by
  cases filters with
  | nil => exact absurd rfl hne
  | cons item rest =>
      simp only [fires, enabled, Bool.not_true, Bool.false_eq_true, if_false, h]
      split <;> rfl

theorem fires_eq_error {config context : Value} {fault : Fault} :
    fires config context = .error fault ↔
      (∃ reason, fault = .logic reason ∧ Unreadable config reason) ∨
        ∃ cause, fault = .breakdown cause ∧ ConfigBreaks config context cause := by
  constructor
  · intro h
    cases config with
    | null => cases h
    | object entries =>
        cases enabled : ((Value.object entries).get "enabled").truthy with
        | false => simp [fires, enabled] at h
        | true =>
            cases hf : (Value.object entries).get "filters" with
            | null => simp [fires, enabled, hf] at h
            | list filters =>
                by_cases hne : filters = []
                · simp [fires, enabled, hf, hne] at h
                rw [fires_of_filters context enabled hf hne, bind_eq_error, asked_eq_error] at h
                rcases h with ⟨cause, before, rule, after, rfl, rfl, earlier, breaks⟩ | ⟨_, -, h⟩
                · exact .inr ⟨cause, rfl, entries, before, rule, after, rfl, enabled, hf, earlier,
                    breaks⟩
                · split at h <;> cases h
            | _ =>
                simp only [fires, enabled, Bool.not_true, Bool.false_eq_true, if_false, hf] at h
                cases h
                refine .inl ⟨_, rfl, ?_⟩
                rw [← hf]
                exact .filters rfl enabled (by rw [hf]; nofun) (by rw [hf]; nofun)
    | _ =>
        cases h
        exact .inl ⟨_, rfl, .config nofun nofun⟩
  · rintro (⟨reason, rfl, unreadable⟩ | ⟨cause, rfl, entries, before, rule, after, rfl, enabled, hf,
      earlier, breaks⟩)
    · exact fires_of_unreadable unreadable
    · rw [fires_of_filters context enabled hf (by simp), bind_eq_error, asked_eq_error]
      exact .inl ⟨cause, before, rule, after, rfl, rfl, earlier, breaks⟩

/-- **When a trigger filter has no answer.**  A fault of logic is one of the config, which cannot be
read; every other fault is that of the first rule that breaks down.  A rule breaks down if its operator
cannot be looked up or the data is beyond the limits of its test, or if it names no field and cannot be
logged, and for no other reason. -/
theorem fires_faults (config context : Value) :
    (∀ fault, fires config context = .error fault ↔
      (∃ reason, fault = .logic reason ∧ Unreadable config reason) ∨
        ∃ cause, fault = .breakdown cause ∧ ConfigBreaks config context cause) ∧
    ∀ rule cause, holds rule context = .error cause ↔ Breaks rule context cause :=
  ⟨fun _ => fires_eq_error, fun _ _ => holds_eq_error⟩

end

/-- An enabled config with one filter, which asks for the total of an order. -/
def totalConfig (operator value : Value) : Value :=
  .object [("enabled", .bool true), ("filters", .list [
    .object [("field", .str "total"), ("operator", operator), ("value", value)]])]

theorem readable_totalConfig (operator value : Value) (reason : LogicFault) :
    ¬ Unreadable (totalConfig operator value) reason := by
  rintro (⟨-, notObject⟩ | ⟨-, -, -, notList⟩)
  · exact notObject _ rfl
  · exact notList _ rfl

/-- A total that is too large, compared with a text, and an operator that is a list: both configs can
be read, and neither has an answer. -/
theorem fires_totalConfig :
    (fires (totalConfig (.str ">") (.str "any")) (.object [("total", .int (10 ^ 400))]) =
        .error (.breakdown .integerTooLarge) ∧
      ∀ reason, ¬ Unreadable (totalConfig (.str ">") (.str "any")) reason) ∧
    fires (totalConfig (.list [.str ">"]) (.int 100)) (.object [("total", .int 250)]) =
        .error (.breakdown (.unhashable .list)) ∧
      ∀ reason, ¬ Unreadable (totalConfig (.list [.str ">"]) (.int 100)) reason :=
  ⟨⟨by decide +kernel, readable_totalConfig _ _⟩, by decide +kernel, readable_totalConfig _ _⟩

end TriggerFlow.Filter
