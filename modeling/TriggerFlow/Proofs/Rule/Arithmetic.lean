import TriggerFlow.Proofs.Number.Order
import TriggerFlow.Proofs.Rule.Breakdown
import TriggerFlow.Proofs.Rule.Soundness

/-! # The outcomes of arithmetic

The seven operators of arithmetic look at the values of their operands in one order.  A missing value
decides first, then the leftmost value that is no number (`LeftmostUnfit`), then an integer that is too
large, then a division by zero (`DividesByZero`).  What is left is a number or one of the few ways in
which the arithmetic of floating-point numbers breaks down (`Operator.BreaksWith`).  Each of these
outcomes comes about under its own condition exactly: `arithmetic_precedence`. -/

namespace TriggerFlow

/-- The ways in which the arithmetic of an operator breaks down. -/
inductive Operator.BreaksWith : Operator → Breakdown → Prop
  | tooLarge (op : Operator) : BreaksWith op .integerTooLarge
  | overflow : BreaksWith .sum .sumOverflow
  | opposedInfinities : BreaksWith .sum .opposedInfinities
  | undefinedRemainder : BreaksWith .remainder .undefinedRemainder

namespace Rule

open Outcome

/-- The leftmost of the values that is no number. -/
def LeftmostUnfit (v : Value) (vs : List Value) : Prop :=
  ∃ before after, vs = before ++ v :: after ∧ (∀ w ∈ before, w.number? ≠ none) ∧ v.number? = none

/-- The operator divides and its second operand is a zero. -/
def DividesByZero {α : Type} (isZero : α → Bool) (op : Operator) (operands : List α) : Prop :=
  (op = .quotient ∨ op = .remainder) ∧ ∃ x, operands[1]? = some x ∧ isZero x = true

/-- The result of an operator on numbers, which it rounds first. -/
def calculateRounded (op : Operator) (ns : List Number) : Except Fault Value := do
  let xs ← (ns.mapM toBinary64).mapError Fault.breakdown
  return .float (← calculate op xs)

variable {op : Operator} {context tree : Value} {vs : List Value} {ns : List Number}
  {xs : List Binary64} {e : Fault}

/-! ### Numbers among the operands -/

/-- An operand as a number. -/
def numberFor (op : Operator) (v : Value) : Except Fault Number :=
  match v.number? with
  | some n => .ok n
  | none => .error (.logic (.operandKind op v.kind))

theorem numberFor_eq_ok {v : Value} {n : Number} : numberFor op v = .ok n ↔ v.number? = some n := by
  unfold numberFor
  cases v.number? <;> simp

theorem numberFor_eq_error {v : Value} :
    numberFor op v = .error e ↔ v.number? = none ∧ e = .logic (.operandKind op v.kind) := by
  unfold numberFor
  cases v.number? <;> simp [eq_comm]

theorem numbers_eq_mapM (vs : List Value) : numbers op vs = vs.mapM (numberFor op) := by
  induction vs with
  | nil => rfl
  | cons v rest ih =>
      rw [numbers, List.mapM_cons, ih, numberFor]
      cases v.number? with
      | none => rfl
      | some n => cases List.mapM (numberFor op) rest <;> rfl

theorem numbers_eq_ok : numbers op vs = .ok ns ↔ vs.map Value.number? = ns.map some := by
  rw [numbers_eq_mapM, mapM_eq_ok, ← List.forall₂_eq_eq_eq, List.forall₂_map_left_iff,
    List.forall₂_map_right_iff]
  simp only [numberFor_eq_ok]

theorem numbers_eq_error :
    numbers op vs = .error e ↔
      ∃ v, LeftmostUnfit v vs ∧ e = .logic (.operandKind op v.kind) := by
  rw [numbers_eq_mapM, mapM_eq_error]
  simp only [numberFor_eq_ok, numberFor_eq_error, LeftmostUnfit, Option.ne_none_iff_exists']
  constructor
  · rintro ⟨before, v, after, rfl, earlier, unfit, rfl⟩
    exact ⟨v, ⟨before, after, rfl, earlier, unfit⟩, rfl⟩
  · rintro ⟨v, ⟨before, after, rfl, earlier, unfit⟩, rfl⟩
    exact ⟨before, v, after, rfl, earlier, unfit, rfl⟩

/-! ### Missing operands -/

theorem any_isNull_iff : vs.any Value.isNull = true ↔ .null ∈ vs := by
  rw [List.any_eq_true]
  constructor
  · rintro ⟨v, hv, null⟩
    cases v with
    | null => exact hv
    | _ => cases null
  · intro hv
    exact ⟨.null, hv, rfl⟩

theorem arithmetic_of_missing (h : .null ∈ vs) : arithmetic op vs = .ok .null :=
  if_pos (any_isNull_iff.mpr h)

theorem arithmetic_of_present (h : .null ∉ vs) :
    arithmetic op vs = (numbers op vs >>= fun ns => calculateRounded op ns) :=
  if_neg fun null => h (any_isNull_iff.mp null)

theorem number?_of_fit {v : Value} (fit : vs.map Value.number? = ns.map some) (hv : v ∈ vs) :
    v.number? ≠ none := by
  have mem : v.number? ∈ vs.map Value.number? := List.mem_map_of_mem hv
  rw [fit] at mem
  obtain ⟨n, -, hn⟩ := List.mem_map.mp mem
  rw [← hn]
  exact Option.some_ne_none n

theorem null_notMem (fit : vs.map Value.number? = ns.map some) : .null ∉ vs :=
  fun null => number?_of_fit fit null rfl

theorem arithmetic_of_unfit {v : Value} (h : .null ∉ vs) (unfit : LeftmostUnfit v vs) :
    arithmetic op vs = .error (.logic (.operandKind op v.kind)) := by
  rw [arithmetic_of_present h, numbers_eq_error.mpr ⟨v, unfit, rfl⟩]
  rfl

theorem arithmetic_of_fit (h : vs.map Value.number? = ns.map some) :
    arithmetic op vs = calculateRounded op ns := by
  rw [arithmetic_of_present (null_notMem h), numbers_eq_ok.mpr h]
  rfl

/-! ### Rounding the operands -/

theorem toBinary64_eq_ok {n : Number} {x : Binary64} : toBinary64 n = .ok x ↔ n.nearest? = some x := by
  unfold toBinary64
  cases n.nearest? <;> simp

theorem calculateRounded_of_tooLarge {n : Number} (hn : n ∈ ns) (large : n.nearest? = none) :
    calculateRounded op ns = .error (.breakdown .integerTooLarge) := by
  have broken : ns.mapM toBinary64 = .error .integerTooLarge := by
    cases rounded : ns.mapM toBinary64 with
    | error cause =>
        obtain ⟨m, -, hm⟩ := mem_of_mapM_error rounded
        rw [(toBinary64_eq_error.mp hm).2]
    | ok xs =>
        have all := mapM_eq_ok.mp rounded
        obtain ⟨i, hi, rfl⟩ := List.getElem_of_mem hn
        have hx := toBinary64_eq_ok.mp (all.get hi (all.length_eq ▸ hi))
        rw [List.get_eq_getElem, large] at hx
        cases hx
  rw [calculateRounded, broken]
  rfl

theorem exists_rounded (op : Operator) (within : ∀ n ∈ ns, n.nearest? ≠ none) :
    ∃ xs, List.Forall₂ (fun n x => n.nearest? = some x) ns xs ∧
      calculateRounded op ns = (calculate op xs).map Value.float := by
  cases rounded : ns.mapM toBinary64 with
  | error cause =>
      obtain ⟨n, hn, broken⟩ := mem_of_mapM_error rounded
      exact absurd (toBinary64_eq_error.mp broken).1 (within n hn)
  | ok xs =>
      refine ⟨xs, (mapM_eq_ok.mp rounded).imp fun _ _ h => toBinary64_eq_ok.mp h, ?_⟩
      rw [calculateRounded, rounded]
      rfl

/-! ### Calculating -/

/-- What comes of an operator of arithmetic on floating-point numbers. -/
inductive Calculated (op : Operator) (xs : List Binary64) : Except Fault Binary64 → Prop
  | number (x : Binary64) : ¬ DividesByZero Binary64.isZero op xs → Calculated op xs (.ok x)
  | broken {cause : Breakdown} : ¬ DividesByZero Binary64.isZero op xs → op.BreaksWith cause →
      Calculated op xs (.error (.breakdown cause))
  | divided : DividesByZero Binary64.isZero op xs →
      Calculated op xs (.error (.logic (.divisionByZero op)))

theorem dividesByZero_iff {α : Type} {isZero : α → Bool} {x y : α}
    (divides : op = .quotient ∨ op = .remainder) :
    DividesByZero isZero op [x, y] ↔ isZero y = true := by
  simp [DividesByZero, divides]

theorem not_dividesByZero {α : Type} {isZero : α → Bool} {xs : List α} (quotient : op ≠ .quotient)
    (remainder : op ≠ .remainder) : ¬ DividesByZero isZero op xs :=
  fun zero => zero.1.elim quotient remainder

theorem calculate_calculated (arithmetic : op.isArithmetic = true)
    (count : op.arity.admits xs.length = true) : Calculated op xs (calculate op xs) := by
  cases op with
  | sum =>
      have apart : ¬ DividesByZero Binary64.isZero .sum xs :=
        not_dividesByZero (by decide) (by decide)
      rw [calculate]
      split
      · exact .number _ apart
      · exact .broken apart .overflow
      · exact .broken apart .opposedInfinities
  | product => exact .number _ (not_dividesByZero (by decide) (by decide))
  | minimum | maximum =>
      cases xs with
      | nil => cases count
      | cons => exact .number _ (not_dividesByZero (by decide) (by decide))
  | difference =>
      rcases Nat.lt_or_ge xs.length 2 with hlt | hge
      · obtain ⟨x, rfl⟩ := List.length_eq_one_iff.mp
          (Nat.le_antisymm (by omega) (Arity.admits_iff.mp count).1)
        exact .number _ (not_dividesByZero (by decide) (by decide))
      · obtain ⟨x, y, rfl⟩ := List.length_eq_two.mp
          (Nat.le_antisymm (Arity.admits_iff.mp count).2 hge)
        exact .number _ (not_dividesByZero (by decide) (by decide))
  | quotient =>
      obtain ⟨x, y, rfl⟩ := List.length_eq_two.mp (Arity.eq_of_admits count)
      rw [calculate]
      split
      · exact .divided ((dividesByZero_iff (.inl rfl)).mpr ‹_›)
      · exact .number _ fun zero => absurd ((dividesByZero_iff (.inl rfl)).mp zero) ‹_›
  | remainder =>
      obtain ⟨x, y, rfl⟩ := List.length_eq_two.mp (Arity.eq_of_admits count)
      rw [calculate]
      split
      · exact .divided ((dividesByZero_iff (.inr rfl)).mpr ‹_›)
      · have apart : ¬ DividesByZero Binary64.isZero .remainder [x, y] :=
          fun zero => absurd ((dividesByZero_iff (.inr rfl)).mp zero) ‹_›
        split
        · exact .number _ apart
        · exact .broken apart .undefinedRemainder
  | _ => cases arithmetic

/-- Rounding neither makes a zero nor hides one. -/
theorem dividesByZero_rounded (rounded : List.Forall₂ (fun n x => n.nearest? = some x) ns xs) :
    DividesByZero Binary64.isZero op xs ↔ DividesByZero Number.isZero op ns := by
  cases rounded with
  | nil => simp [DividesByZero]
  | cons _ rest =>
      cases rest with
      | nil => simp [DividesByZero]
      | cons second _ => simp [DividesByZero, Number.isZero_nearest second]

/-! ### Precedence -/

/-- What comes of an operator of arithmetic on values, in the order in which it is found out. -/
inductive Concluded (op : Operator) (vs : List Value) : Outcome → Prop
  | missing : .null ∈ vs → Concluded op vs (.ok .null)
  | unfit {v : Value} : .null ∉ vs → LeftmostUnfit v vs →
      Concluded op vs (.error (.logic (.operandKind op v.kind)))
  | tooLarge {ns : List Number} {n : Number} : vs.map Value.number? = ns.map some → n ∈ ns →
      n.nearest? = none → Concluded op vs (.error (.breakdown .integerTooLarge))
  | divided {ns : List Number} : vs.map Value.number? = ns.map some →
      (∀ n ∈ ns, n.nearest? ≠ none) → DividesByZero Number.isZero op ns →
      Concluded op vs (.error (.logic (.divisionByZero op)))
  | number {ns : List Number} (x : Binary64) : vs.map Value.number? = ns.map some →
      (∀ n ∈ ns, n.nearest? ≠ none) → ¬ DividesByZero Number.isZero op ns →
      Concluded op vs (.ok (.float x))
  | broken {ns : List Number} {cause : Breakdown} : vs.map Value.number? = ns.map some →
      (∀ n ∈ ns, n.nearest? ≠ none) → ¬ DividesByZero Number.isZero op ns → op.BreaksWith cause →
      Concluded op vs (.error (.breakdown cause))

theorem arithmetic_concluded (isArithmetic : op.isArithmetic = true)
    (count : op.arity.admits vs.length = true) : Concluded op vs (arithmetic op vs) := by
  by_cases missing : .null ∈ vs
  · rw [arithmetic_of_missing missing]
    exact .missing missing
  cases found : numbers op vs with
  | error e =>
      obtain ⟨v, unfit, -⟩ := numbers_eq_error.mp found
      rw [arithmetic_of_unfit missing unfit]
      exact .unfit missing unfit
  | ok ns =>
      have fit := numbers_eq_ok.mp found
      rw [arithmetic_of_fit fit]
      by_cases within : ∀ n ∈ ns, n.nearest? ≠ none
      · obtain ⟨xs, rounded, calculated⟩ := exists_rounded op within
        have divides := @dividesByZero_rounded op ns xs rounded
        have result : Calculated op xs (calculate op xs) := by
          refine calculate_calculated isArithmetic ?_
          rwa [← rounded.length_eq, numbers_length found]
        rw [calculated]
        generalize calculate op xs = outcome at result
        cases result with
        | number x apart => exact .number x fit within (mt divides.mpr apart)
        | broken apart breaks => exact .broken fit within (mt divides.mpr apart) breaks
        | divided zero => exact .divided fit within (divides.mp zero)
      · obtain ⟨n, within⟩ := not_forall.mp within
        obtain ⟨hn, large⟩ := Classical.not_imp.mp within
        rw [calculateRounded_of_tooLarge hn (not_not.mp large)]
        exact .tooLarge fit hn (not_not.mp large)

theorem eval_concluded (isArithmetic : op.isArithmetic = true) {operands : List Value}
    (operation : operation? tree = some (op.symbol, operands))
    (count : op.arity.admits operands.length = true)
    (evaluated : operands.map (eval context) = vs.map .ok) : Concluded op vs (eval context tree) := by
  have strict : op.isLazy = false := by
    cases op <;> first | rfl | cases isArithmetic
  have length : operands.length = vs.length := by
    simpa using congrArg List.length evaluated
  rw [eval_strict strict operation count evaluated, compute_of_isArithmetic isArithmetic]
  exact arithmetic_concluded isArithmetic (length ▸ count)

/-! ### One outcome for each condition -/

theorem LeftmostUnfit.not_fit {v : Value} (h : LeftmostUnfit v vs) :
    vs.map Value.number? ≠ ns.map some := by
  intro fit
  obtain ⟨before, after, rfl, -, unfit⟩ := h
  exact number?_of_fit fit (List.mem_append_right before List.mem_cons_self) unfit

theorem LeftmostUnfit.kind_eq {v w : Value} (h : LeftmostUnfit v vs) (h' : LeftmostUnfit w vs) :
    v.kind = w.kind := by
  have first : numbers .sum vs = .error _ := numbers_eq_error.mpr ⟨v, h, rfl⟩
  have second : numbers .sum vs = .error _ := numbers_eq_error.mpr ⟨w, h', rfl⟩
  simpa using first.symm.trans second

theorem fit_unique {ms : List Number} (fit : vs.map Value.number? = ms.map some)
    (fit' : vs.map Value.number? = ns.map some) : ms = ns :=
  List.map_injective_iff.mpr (Option.some_injective Number) (fit.symm.trans fit')

namespace Concluded

variable {outcome : Outcome}

theorem eq_null_iff (h : Concluded op vs outcome) : outcome = .ok .null ↔ .null ∈ vs := by
  constructor
  · rintro rfl
    cases h
    assumption
  · intro null
    cases h with
    | missing => rfl
    | unfit present => exact absurd null present
    | tooLarge fit | divided fit | number _ fit | broken fit => exact absurd null (null_notMem fit)

theorem eq_unfit_iff (h : Concluded op vs outcome) (present : .null ∉ vs) (kind : Kind) :
    outcome = .error (.logic (.operandKind op kind)) ↔ ∃ v, LeftmostUnfit v vs ∧ v.kind = kind := by
  constructor
  · rintro rfl
    cases h with
    | @unfit v _ unfit => exact ⟨v, unfit, rfl⟩
  · rintro ⟨v, unfit, rfl⟩
    cases h with
    | missing null => exact absurd null present
    | unfit _ other => rw [unfit.kind_eq other]
    | tooLarge fit | divided fit | number _ fit | broken fit => exact absurd fit unfit.not_fit

theorem eq_divided_iff (h : Concluded op vs outcome) (fit : vs.map Value.number? = ns.map some)
    (within : ∀ n ∈ ns, n.nearest? ≠ none) :
    outcome = .error (.logic (.divisionByZero op)) ↔ DividesByZero Number.isZero op ns := by
  cases h with
  | missing null => exact absurd null (null_notMem fit)
  | unfit _ unfit => exact absurd fit unfit.not_fit
  | tooLarge fit' hn large =>
      obtain rfl := fit_unique fit fit'
      exact absurd large (within _ hn)
  | divided fit' _ zero =>
      obtain rfl := fit_unique fit fit'
      exact ⟨fun _ => zero, fun _ => rfl⟩
  | number _ fit' _ apart | broken fit' _ apart =>
      obtain rfl := fit_unique fit fit'
      exact ⟨nofun, fun zero => absurd zero apart⟩

theorem eq_tooLarge (h : Concluded op vs outcome) (fit : vs.map Value.number? = ns.map some)
    {n : Number} (hn : n ∈ ns) (large : n.nearest? = none) :
    outcome = .error (.breakdown .integerTooLarge) := by
  cases h with
  | missing null => exact absurd null (null_notMem fit)
  | unfit _ unfit => exact absurd fit unfit.not_fit
  | tooLarge => rfl
  | divided fit' within | number _ fit' within | broken fit' within =>
      obtain rfl := fit_unique fit fit'
      exact absurd large (within n hn)

theorem eq_number_or_broken (h : Concluded op vs outcome) (fit : vs.map Value.number? = ns.map some)
    (rest : ¬ ((∀ n ∈ ns, n.nearest? ≠ none) ∧ DividesByZero Number.isZero op ns)) :
    (∃ x, outcome = .ok (.float x)) ∨
      ∃ cause, op.BreaksWith cause ∧ outcome = .error (.breakdown cause) := by
  cases h with
  | missing null => exact absurd null (null_notMem fit)
  | unfit _ unfit => exact absurd fit unfit.not_fit
  | tooLarge => exact .inr ⟨_, .tooLarge op, rfl⟩
  | divided fit' within zero =>
      obtain rfl := fit_unique fit fit'
      exact absurd ⟨within, zero⟩ rest
  | number x => exact .inl ⟨x, rfl⟩
  | broken _ _ _ breaks => exact .inr ⟨_, breaks, rfl⟩

end Concluded

/-- **The precedence of arithmetic outcomes.**  An operation of arithmetic whose operands all have
values gives null exactly if one of these is null.  Otherwise it blames the kind of an operand exactly
if some operand is no number, and then of the leftmost one.  Otherwise, if every integer has a nearest
floating-point number, it blames a division by zero exactly if it divides and its second operand is a
zero of either sign.  In all other cases it gives a floating-point number or breaks down in one of the
ways of its operator; an integer that is too large is such a way, whatever the other operands. -/
theorem arithmetic_precedence (context : Value) {op : Operator} {tree : Value}
    {operands vs : List Value} (isArithmetic : op.isArithmetic = true)
    (operation : operation? tree = some (op.symbol, operands))
    (count : op.arity.admits operands.length = true)
    (evaluated : operands.map (eval context) = vs.map .ok) :
    (eval context tree = .ok .null ↔ .null ∈ vs) ∧
    (.null ∉ vs → ∀ kind, eval context tree = .error (.logic (.operandKind op kind)) ↔
      ∃ v, LeftmostUnfit v vs ∧ v.kind = kind) ∧
    ∀ ns : List Number, vs.map Value.number? = ns.map some →
      ((∀ n ∈ ns, n.nearest? ≠ none) →
        (eval context tree = .error (.logic (.divisionByZero op)) ↔
          DividesByZero Number.isZero op ns)) ∧
      ((∃ n ∈ ns, n.nearest? = none) →
        eval context tree = .error (.breakdown .integerTooLarge)) ∧
      (¬ ((∀ n ∈ ns, n.nearest? ≠ none) ∧ DividesByZero Number.isZero op ns) →
        (∃ x, eval context tree = .ok (.float x)) ∨
          ∃ cause, op.BreaksWith cause ∧ eval context tree = .error (.breakdown cause)) := by
  have concluded : Concluded op vs (eval context tree) :=
    eval_concluded isArithmetic operation count evaluated
  refine ⟨concluded.eq_null_iff, concluded.eq_unfit_iff, fun ns fit => ⟨?_, ?_, ?_⟩⟩
  · exact concluded.eq_divided_iff fit
  · rintro ⟨n, hn, large⟩
    exact concluded.eq_tooLarge fit hn large
  · exact concluded.eq_number_or_broken fit

/-- What each parcel of an order costs. -/
def costPerParcel : Value :=
  .object [("/", .list [.object [("var", .str "total")], .object [("var", .str "parcels")]])]

/-- An order without parcels. -/
def emptyOrder (total : Value) : Value :=
  .object [("total", total), ("parcels", .float (.ofCode true 0))]

theorem arithmetic_precedence_costPerParcel :
    eval (emptyOrder .null) costPerParcel = .ok .null ∧
      eval (emptyOrder (.str "10")) costPerParcel = .error (.logic (.operandKind .quotient .str)) ∧
      eval (emptyOrder (.int 10)) costPerParcel = .error (.logic (.divisionByZero .quotient)) := by
  have operation : operation? costPerParcel = some (Operator.quotient.symbol, _) := rfl
  have missing : [Value.object [("var", .str "total")], .object [("var", .str "parcels")]].map
      (eval (emptyOrder .null)) = [.null, .float (.ofCode true 0)].map .ok := rfl
  have text : [Value.object [("var", .str "total")], .object [("var", .str "parcels")]].map
      (eval (emptyOrder (.str "10"))) = [.str "10", .float (.ofCode true 0)].map .ok := rfl
  have number : [Value.object [("var", .str "total")], .object [("var", .str "parcels")]].map
      (eval (emptyOrder (.int 10))) = [.int 10, .float (.ofCode true 0)].map .ok := rfl
  obtain ⟨null, -⟩ := arithmetic_precedence _ rfl operation rfl missing
  obtain ⟨-, unfit, -⟩ := arithmetic_precedence _ rfl operation rfl text
  obtain ⟨-, -, fit⟩ := arithmetic_precedence _ rfl operation rfl number
  obtain ⟨divided, -⟩ := fit [.int 10, .float (.ofCode true 0)] rfl
  refine ⟨null.mpr List.mem_cons_self, ?_, ?_⟩
  · exact (unfit (by simp) .str).mpr ⟨.str "10", ⟨[], _, rfl, nofun, rfl⟩, rfl⟩
  · refine (divided ?_).mpr ⟨.inl rfl, _, rfl, rfl⟩
    simp only [List.forall_mem_cons]
    exact ⟨Number.nearest?_ne_none (by decide), nofun, nofun⟩

end Rule

end TriggerFlow
