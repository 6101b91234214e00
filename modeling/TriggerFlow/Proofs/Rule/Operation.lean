import TriggerFlow.Proofs.Outcome

/-! # What an operation gives and what it blames

The operands of an operation are combined by `collect`, `firstWhere` or `choose`; each gives a value
or a fault of an operand, or null.  Beyond the faults of its operands, an operator with an admitted
number of them raises only faults of its own (`Operator.Raises`, `Operator.apply_error`): a path of
the wrong kind, an operand of the wrong kind, or a division by zero. -/

namespace TriggerFlow

open Outcome

namespace Rule

/-! ### Combining outcomes -/

theorem collect_eq_ok {outcomes : List Outcome} {vs : List Value} :
    collect outcomes = .ok vs ↔ outcomes = vs.map .ok := by
  induction outcomes generalizing vs with
  | nil => cases vs <;> simp [collect]
  | cons outcome rest ih =>
      simp only [collect, bind_eq_ok, pure_eq_ok, ih]
      constructor
      · rintro ⟨v, rfl, ws, rfl, rfl⟩
        rfl
      · intro h
        cases vs with
        | nil => cases h
        | cons v ws =>
            obtain ⟨rfl, rfl⟩ := List.cons.inj h
            exact ⟨v, rfl, ws, rfl, rfl⟩

theorem mem_of_collect_error {outcomes : List Outcome} {fault : Fault}
    (h : collect outcomes = .error fault) : .error fault ∈ outcomes := by
  induction outcomes with
  | nil => cases h
  | cons outcome rest ih =>
      simp only [collect, bind_eq_error] at h
      rcases h with rfl | ⟨v, -, h | ⟨vs, -, h⟩⟩
      · exact List.mem_cons_self
      · exact List.mem_cons_of_mem _ (ih h)
      · cases h

/-- A choice between outcomes gives one of them, or null if there are none. -/
theorem mem_of_firstWhere {settles : Value → Bool} {outcomes : List Outcome} :
    firstWhere settles outcomes = .ok .null ∨ firstWhere settles outcomes ∈ outcomes := by
  induction outcomes with
  | nil => exact .inl rfl
  | cons outcome rest ih =>
      cases rest with
      | nil => exact .inr List.mem_cons_self
      | cons next rest =>
          cases outcome with
          | error fault => exact .inr List.mem_cons_self
          | ok v =>
              have step : firstWhere settles (.ok v :: next :: rest) =
                  if settles v then .ok v else firstWhere settles (next :: rest) := rfl
              rw [step]
              split
              · exact .inr List.mem_cons_self
              · exact ih.imp_right (List.mem_cons_of_mem _)

theorem mem_of_choose {outcomes : List Outcome} :
    choose outcomes = .ok .null ∨ choose outcomes ∈ outcomes := by
  induction outcomes using choose.induct with
  | case1 => exact .inl rfl
  | case2 otherwise => exact .inr List.mem_cons_self
  | case3 condition outcome rest ih =>
      cases condition with
      | error fault => exact .inr List.mem_cons_self
      | ok c =>
          have step : choose (.ok c :: outcome :: rest) =
              if c.truthy then outcome else choose rest := rfl
          rw [step]
          split
          · exact .inr (List.mem_cons_of_mem _ List.mem_cons_self)
          · exact ih.imp_right fun h => List.mem_cons_of_mem _ (List.mem_cons_of_mem _ h)

end Rule

/-! ### Operand counts -/

theorem Arity.admits_iff {low high count : Nat} :
    (Arity.mk low (some high)).admits count = true ↔ low ≤ count ∧ count ≤ high := by
  simp [admits]

theorem Arity.admits_unbounded_iff {low count : Nat} :
    (Arity.mk low none).admits count = true ↔ low ≤ count := by
  simp [admits]

theorem Arity.eq_of_admits {n count : Nat} (h : (Arity.mk n (some n)).admits count = true) :
    count = n :=
  Nat.le_antisymm (admits_iff.mp h).2 (admits_iff.mp h).1

namespace Operator

/-! ### Faults of the operator itself -/

/-- The faults that an operator raises itself when it has an admitted number of operands. -/
inductive Raises : Operator → LogicFault → Prop
  | pathKind (kind : Kind) : Raises .variable (.pathKind kind)
  | operandKind {op : Operator} (kind : Kind) :
      op.isArithmetic = true → Raises op (.operandKind op kind)
  | quotient : Raises .quotient (.divisionByZero .quotient)
  | remainder : Raises .remainder (.divisionByZero .remainder)

namespace Raises

variable {op : Operator} {fault : LogicFault}

theorem operator? (h : op.Raises fault) : fault.operator? = some op.symbol := by
  cases h <;> rfl

theorem variable_or_arithmetic (h : op.Raises fault) :
    op = .variable ∨ op.isArithmetic = true := by
  cases h with
  | pathKind => exact .inl rfl
  | operandKind _ ha => exact .inr ha
  | quotient | remainder => exact .inr rfl

end Raises

end Operator

namespace Rule

variable {op : Operator} {fault : LogicFault}

theorem numbers_error {vs : List Value} (h : numbers op vs = .error (.logic fault)) :
    ∃ kind, fault = .operandKind op kind := by
  induction vs with
  | nil => cases h
  | cons v rest ih =>
      unfold numbers at h
      split at h
      · exact ih (map_eq_error.mp h)
      · cases h
        exact ⟨_, rfl⟩

theorem numbers_length {vs : List Value} {ns : List Number} (h : numbers op vs = .ok ns) :
    ns.length = vs.length := by
  induction vs generalizing ns with
  | nil =>
      cases h
      rfl
  | cons v rest ih =>
      unfold numbers at h
      split at h
      · obtain ⟨ms, hm, rfl⟩ := map_eq_ok.mp h
        rw [List.length_cons, List.length_cons, ih hm]
      · cases h

theorem calculate_error {xs : List Binary64} (ha : op.isArithmetic = true)
    (hn : op.arity.admits xs.length = true) (h : calculate op xs = .error (.logic fault)) :
    op.Raises fault := by
  cases op with
  | sum =>
      rw [calculate] at h
      split at h <;> cases h
  | product => cases h
  | minimum | maximum =>
      cases xs with
      | nil => cases hn
      | cons => cases h
  | difference =>
      rcases Nat.lt_or_ge xs.length 2 with hlt | hge
      · obtain ⟨x, rfl⟩ := List.length_eq_one_iff.mp
          (Nat.le_antisymm (by omega) (Arity.admits_iff.mp hn).1)
        cases h
      · obtain ⟨x, y, rfl⟩ := List.length_eq_two.mp
          (Nat.le_antisymm (Arity.admits_iff.mp hn).2 hge)
        cases h
  | quotient =>
      obtain ⟨x, y, rfl⟩ := List.length_eq_two.mp (Arity.eq_of_admits hn)
      rw [calculate] at h
      split at h
      · cases h
        exact .quotient
      · cases h
  | remainder =>
      obtain ⟨x, y, rfl⟩ := List.length_eq_two.mp (Arity.eq_of_admits hn)
      rw [calculate] at h
      split at h
      · cases h
        exact .remainder
      · split at h <;> cases h
  | _ => cases ha

theorem arithmetic_error {vs : List Value} (ha : op.isArithmetic = true)
    (hn : op.arity.admits vs.length = true) (h : arithmetic op vs = .error (.logic fault)) :
    op.Raises fault := by
  unfold arithmetic at h
  split at h
  · cases h
  · simp only [bind_eq_error] at h
    rcases h with h | ⟨ns, hns, h | ⟨xs, hxs, h | ⟨x, -, h⟩⟩⟩
    · obtain ⟨kind, rfl⟩ := numbers_error h
      exact .operandKind kind ha
    · obtain ⟨cause, -, h⟩ := mapError_eq_error.mp h
      cases h
    · refine calculate_error ha ?_ h
      rw [← (mapM_eq_ok.mp (mapError_eq_ok.mp hxs)).length_eq, numbers_length hns]
      exact hn
    · cases h

theorem decided_ne_logic {answer : Except Breakdown Bool} :
    decided answer ≠ .error (.logic fault) := by
  cases answer <;> simp [decided]

/-- The value that a text leads to, or the default. -/
def readPath (context fallback : Value) (path : String) : Outcome :=
  match resolve context (segments path) with
  | .ok v => .ok (if v.isNull then fallback else v)
  | .error cause => .error (.breakdown cause)

theorem variableAt_str (context fallback : Value) (path : String) :
    variableAt context (.str path) fallback =
      if path == "" then .ok context else readPath context fallback path := rfl

theorem variableAt_int (context fallback : Value) (n : Int) :
    variableAt context (.int n) fallback =
      if 10 ^ Breakdown.digitLimit ≤ n.natAbs then .error (.breakdown .integerTooLong)
      else readPath context fallback (toString n) := rfl

theorem readPath_ne_logic {context fallback : Value} {path : String} :
    readPath context fallback path ≠ .error (.logic fault) := by
  unfold readPath
  split <;> simp

theorem variableAt_error {path fallback context : Value}
    (h : variableAt context path fallback = .error (.logic fault)) :
    ∃ kind, fault = .pathKind kind := by
  cases path with
  | null => cases h
  | str path =>
      rw [variableAt_str] at h
      split at h
      · cases h
      · exact absurd h readPath_ne_logic
  | int n =>
      rw [variableAt_int] at h
      split at h
      · cases h
      · exact absurd h readPath_ne_logic
  | bool | float | list | object =>
      cases h
      exact ⟨_, rfl⟩

theorem compute_of_isArithmetic (ha : op.isArithmetic = true) (context : Value)
    (vs : List Value) : compute op context vs = arithmetic op vs := by
  cases op <;> first | rfl | cases ha

theorem compute_error {context : Value} {vs : List Value} (hl : op.isLazy = false)
    (hn : op.arity.admits vs.length = true) (h : compute op context vs = .error (.logic fault)) :
    op.Raises fault := by
  by_cases ha : op.isArithmetic = true
  · rw [compute_of_isArithmetic ha] at h
    exact arithmetic_error ha hn h
  · cases op with
    | «variable» =>
        have hread : ∃ path fallback, variableAt context path fallback = .error (.logic fault) := by
          rcases vs with _ | ⟨path, _ | ⟨fallback, _ | ⟨v, vs⟩⟩⟩
          · exact ⟨.str "", .null, h⟩
          · exact ⟨_, _, h⟩
          · exact ⟨_, _, h⟩
          · have := (Arity.admits_iff.mp hn).2
            simp only [List.length_cons] at this
            omega
        obtain ⟨path, fallback, hread⟩ := hread
        obtain ⟨kind, rfl⟩ := variableAt_error hread
        exact .pathKind kind
    | equal | identical | unequal | notIdentical | above | atLeast | member | notMember =>
        obtain ⟨a, b, rfl⟩ := List.length_eq_two.mp (Arity.eq_of_admits hn)
        exact absurd h decided_ne_logic
    | below | atMost =>
        rcases Nat.lt_or_ge vs.length 3 with hlt | hge
        · obtain ⟨a, b, rfl⟩ := List.length_eq_two.mp
            (Nat.le_antisymm (by omega) (Arity.admits_iff.mp hn).1)
          exact absurd h decided_ne_logic
        · obtain ⟨a, b, c, rfl⟩ := List.length_eq_three.mp
            (Nat.le_antisymm (Arity.admits_iff.mp hn).2 hge)
          exact absurd h decided_ne_logic
    | negation | truth =>
        obtain ⟨v, rfl⟩ := List.length_eq_one_iff.mp (Arity.eq_of_admits hn)
        cases h
    | conjunction | disjunction | conditional | ternary => cases hl
    | sum | difference | product | quotient | remainder | minimum | maximum => exact (ha rfl).elim

end Rule

/-! ### Operations -/

/-- A lazy operator gives the outcome of an operand, or null if there are none. -/
theorem Operator.apply_of_lazy {op : Operator} (hl : op.isLazy = true) (context : Value)
    (outcomes : List Outcome) :
    op.apply context outcomes = .ok .null ∨ op.apply context outcomes ∈ outcomes := by
  cases op <;> cases hl
  · exact Rule.mem_of_firstWhere
  · exact Rule.mem_of_firstWhere
  · exact Rule.mem_of_choose
  · exact Rule.mem_of_choose

theorem Operator.apply_of_strict {op : Operator} (hl : op.isLazy = false) (context : Value)
    (outcomes : List Outcome) :
    op.apply context outcomes = (Rule.collect outcomes >>= Rule.compute op context) := by
  cases op <;> first | rfl | cases hl

/-- A fault of an operation is the fault of an operand or one of the operator itself. -/
theorem Operator.apply_error {op : Operator} {context : Value} {outcomes : List Outcome}
    {fault : LogicFault} (hn : op.arity.admits outcomes.length = true)
    (h : op.apply context outcomes = .error (.logic fault)) :
    .error (.logic fault) ∈ outcomes ∨ op.Raises fault := by
  cases hl : op.isLazy with
  | true =>
      left
      have chosen := op.apply_of_lazy hl context outcomes
      rw [h] at chosen
      exact chosen.resolve_left nofun
  | false =>
      rw [op.apply_of_strict hl, bind_eq_error] at h
      rcases h with h | ⟨vs, hvs, h⟩
      · exact .inl (Rule.mem_of_collect_error h)
      · right
        refine Rule.compute_error hl ?_ h
        rw [Rule.collect_eq_ok] at hvs
        rw [hvs, List.length_map] at hn
        exact hn

end TriggerFlow
