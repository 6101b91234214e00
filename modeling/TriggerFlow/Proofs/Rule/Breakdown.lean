import TriggerFlow.Proofs.Rule.Operation
import TriggerFlow.Proofs.Rule.Tree

/-! # What evaluation breaks down on

Besides faults of logic, an evaluation ends without a value only where numbers reach a limit
(`Breakdown.OfNumbers`) or where a path meets a list with an index that cannot be read
(`Rule.Ending`, `eval_ending`).  In the empty context no path meets a list, so there it is numbers alone
that break down (`evaluate_empty_error`). -/

namespace TriggerFlow

open Outcome

/-- A limit of numbers: one that is too large or too long, or an operation that has no result. -/
inductive Breakdown.OfNumbers : Breakdown → Prop
  | integerTooLarge : OfNumbers .integerTooLarge
  | sumOverflow : OfNumbers .sumOverflow
  | opposedInfinities : OfNumbers .opposedInfinities
  | undefinedRemainder : OfNumbers .undefinedRemainder
  | integerTooLong : OfNumbers .integerTooLong

namespace Rule

/-- How an evaluation in a context can end without a value. -/
inductive Ending (context : Value) : Fault → Prop
  | logic (fault : LogicFault) : Ending context (.logic fault)
  | numbers {cause : Breakdown} : cause.OfNumbers → Ending context (.breakdown cause)
  | path {cause : Breakdown} {path : List String} :
      resolve context path = .error cause → Ending context (.breakdown cause)

variable {context : Value} {fault : Fault} {cause : Breakdown}

/-! ### Comparing -/

theorem toBinary64_eq_error {n : Number} :
    toBinary64 n = .error cause ↔ n.nearest? = none ∧ cause = .integerTooLarge := by
  unfold toBinary64
  cases n.nearest? <;> simp [eq_comm]

theorem onBinary64_error {f : Binary64 → Binary64 → Bool} {m n : Number}
    (h : (do return f (← toBinary64 m) (← toBinary64 n)) = Except.error cause) :
    cause = .integerTooLarge := by
  simp only [bind_eq_error] at h
  rcases h with h | ⟨_, -, h | ⟨_, -, h⟩⟩
  · exact (toBinary64_eq_error.mp h).2
  · exact (toBinary64_eq_error.mp h).2
  · cases h

theorem valuesEqual_error {a b : Value} (h : valuesEqual a b = .error cause) :
    cause = .integerTooLarge := by
  unfold valuesEqual at h
  split at h
  · exact onBinary64_error h
  · cases h

theorem related_error {r : Relation} {a b : Value} (h : related r a b = .error cause) :
    cause = .integerTooLarge := by
  unfold related at h
  split at h
  · exact onBinary64_error h
  · split at h <;> cases h

theorem relatedChain_error {r : Relation} {a b c : Value}
    (h : relatedChain r a b c = .error cause) : cause = .integerTooLarge := by
  unfold relatedChain at h
  rcases bind_eq_error.mp h with h | ⟨answer, -, h⟩
  · exact related_error h
  · split at h
    · exact related_error h
    · cases h

theorem equalsSome_error {v : Value} {items : List Value} (h : equalsSome v items = .error cause) :
    cause = .integerTooLarge := by
  induction items with
  | nil => cases h
  | cons item rest ih =>
      unfold equalsSome at h
      rcases bind_eq_error.mp h with h | ⟨answer, -, h⟩
      · exact valuesEqual_error h
      · split at h
        · cases h
        · exact ih h

theorem isMember_error {v whole : Value} (h : isMember v whole = .error cause) :
    cause = .integerTooLarge := by
  unfold isMember at h
  split at h
  · exact equalsSome_error h
  · split at h <;> cases h
  · cases h

/-- A comparison has an answer unless an integer is too large. -/
theorem Ending.of_decided {answer : Except Breakdown Bool} (h : decided answer = .error fault)
    (only : ∀ {cause}, answer = .error cause → cause = .integerTooLarge) : Ending context fault := by
  cases answer with
  | ok b => cases h
  | error cause =>
      cases h
      rw [only rfl]
      exact .numbers .integerTooLarge

/-! ### Calculating -/

theorem numbers_ending {op : Operator} {vs : List Value} (h : numbers op vs = .error fault) :
    Ending context fault := by
  induction vs with
  | nil => cases h
  | cons v rest ih =>
      unfold numbers at h
      split at h
      · exact ih (map_eq_error.mp h)
      · cases h
        exact .logic _

theorem calculate_ending {op : Operator} {xs : List Binary64}
    (h : calculate op xs = .error fault) : Ending context fault := by
  cases op with
  | sum =>
      rw [calculate] at h
      split at h <;> cases h
      · exact .numbers .sumOverflow
      · exact .numbers .opposedInfinities
  | product => cases h
  | minimum | maximum =>
      cases xs with
      | nil =>
          cases h
          exact .logic _
      | cons => cases h
  | difference =>
      rcases xs with _ | ⟨x, _ | ⟨y, _ | ⟨z, rest⟩⟩⟩ <;> cases h <;> exact .logic _
  | quotient =>
      rcases xs with _ | ⟨x, _ | ⟨y, _ | ⟨z, rest⟩⟩⟩
      case cons.cons.nil =>
        rw [calculate] at h
        split at h <;> cases h
        exact .logic _
      all_goals
        cases h
        exact .logic _
  | remainder =>
      rcases xs with _ | ⟨x, _ | ⟨y, _ | ⟨z, rest⟩⟩⟩
      case cons.cons.nil =>
        rw [calculate] at h
        split at h
        · cases h
          exact .logic _
        · split at h <;> cases h
          exact .numbers .undefinedRemainder
      all_goals
        cases h
        exact .logic _
  | _ =>
      cases h
      exact .logic _

theorem arithmetic_ending {op : Operator} {vs : List Value}
    (h : arithmetic op vs = .error fault) : Ending context fault := by
  unfold arithmetic at h
  split at h
  · cases h
  · simp only [bind_eq_error, mapError_eq_error] at h
    rcases h with h | ⟨_, -, ⟨cause, h, rfl⟩ | ⟨_, -, h | ⟨_, -, h⟩⟩⟩
    · exact numbers_ending h
    · obtain ⟨n, -, h⟩ := mem_of_mapM_error h
      rw [(toBinary64_eq_error.mp h).2]
      exact .numbers .integerTooLarge
    · exact calculate_ending h
    · cases h

/-! ### Reading variables -/

theorem readPath_ending {fallback : Value} {path : String}
    (h : readPath context fallback path = .error fault) : Ending context fault := by
  unfold readPath at h
  split at h
  · cases h
  · rename_i hr
    cases h
    exact .path hr

theorem variableAt_ending {path fallback : Value}
    (h : variableAt context path fallback = .error fault) : Ending context fault := by
  cases path with
  | null => cases h
  | str path =>
      rw [variableAt_str] at h
      split at h
      · cases h
      · exact readPath_ending h
  | int n =>
      rw [variableAt_int] at h
      split at h
      · cases h
        exact .numbers .integerTooLong
      · exact readPath_ending h
  | bool | float | list | object =>
      cases h
      exact .logic _

/-! ### Operations and trees -/

theorem compute_ending {op : Operator} {vs : List Value}
    (h : compute op context vs = .error fault) : Ending context fault := by
  unfold compute at h
  split at h
  case h_1 | h_2 | h_3 => exact variableAt_ending h
  case h_4 | h_5 => exact .of_decided h valuesEqual_error
  case h_6 | h_7 => exact .of_decided h fun hc => valuesEqual_error (map_eq_error.mp hc)
  case h_8 | h_9 | h_10 | h_12 => exact .of_decided h related_error
  case h_11 | h_13 => exact .of_decided h relatedChain_error
  case h_14 | h_15 => cases h
  case h_16 => exact .of_decided h isMember_error
  case h_17 => exact .of_decided h fun hc => isMember_error (map_eq_error.mp hc)
  case h_18 =>
    split at h
    · exact arithmetic_ending h
    · cases h
      exact .logic _

end Rule

/-- An operation ends like one of its operands or in a way of its own. -/
theorem Operator.apply_ending {op : Operator} {context : Value} {outcomes : List Outcome}
    {fault : Fault} (h : op.apply context outcomes = .error fault) :
    .error fault ∈ outcomes ∨ Rule.Ending context fault := by
  cases hl : op.isLazy with
  | true =>
      left
      have chosen := op.apply_of_lazy hl context outcomes
      rw [h] at chosen
      exact chosen.resolve_left nofun
  | false =>
      rw [op.apply_of_strict hl, bind_eq_error] at h
      rcases h with h | ⟨vs, -, h⟩
      · exact .inl (Rule.mem_of_collect_error h)
      · exact .inr (Rule.compute_ending h)

namespace Rule

variable {tree context : Value} {fault : Fault}

theorem eval_ending (h : eval context tree = .error fault) : Ending context fault := by
  induction tree using tree_induction with
  | list items ih =>
      rw [eval_list, map_eq_error] at h
      obtain ⟨item, hi, he⟩ := List.mem_map.mp (mem_of_collect_error h)
      exact ih item hi he
  | operation tree symbol operands ht ih =>
      rw [eval_operation context ht, operate] at h
      split at h
      · rcases Operator.apply_ending h with he | ending
        · obtain ⟨operand, ho, he⟩ := List.mem_map.mp he
          exact ih operand ho he
        · exact ending
      · cases h
        exact .logic _
  | literal tree hl =>
      rw [eval_literal context hl] at h
      cases h

/-- An evaluation fails with a fault of logic or a breakdown. -/
theorem evaluate_error [Levels] (h : evaluate tree context = .error fault) :
    (∃ f, fault = .logic f) ∨ ∃ cause, fault = .breakdown cause := by
  rcases evaluate_cases context tree with heq | ⟨during, heq⟩
  · rw [heq] at h
    cases eval_ending h with
    | logic f => exact .inl ⟨f, rfl⟩
    | numbers | path => exact .inr ⟨_, rfl⟩
  · rw [heq] at h
    cases h
    exact .inr ⟨_, rfl⟩

/-! ### The empty context -/

theorem resolve_empty (path : List String) : ∃ v, resolve (.object []) path = .ok v := by
  cases path with
  | nil => exact ⟨_, rfl⟩
  | cons segment rest => exact ⟨.null, rfl⟩

/-- In the empty context only logic, nesting and numbers keep a tree from having a value. -/
theorem evaluate_empty_error [Levels] (h : evaluate tree (.object []) = .error fault) :
    (∃ f, fault = .logic f) ∨ (∃ during, fault = .breakdown (.nestedTooDeeply during)) ∨
      ∃ cause, Breakdown.OfNumbers cause ∧ fault = .breakdown cause := by
  rcases evaluate_cases (.object []) tree with heq | ⟨during, heq⟩
  · rw [heq] at h
    cases eval_ending h with
    | logic f => exact .inl ⟨f, rfl⟩
    | numbers hc => exact .inr (.inr ⟨_, hc, rfl⟩)
    | path hp =>
        obtain ⟨v, hv⟩ := resolve_empty ‹_›
        rw [contextOf_object, hv] at hp
        cases hp
  · rw [heq] at h
    cases h
    exact .inr (.inl ⟨during, rfl⟩)

end Rule

end TriggerFlow
