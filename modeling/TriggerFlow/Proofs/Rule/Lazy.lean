import Mathlib.Algebra.Group.Even
import Mathlib.Algebra.Ring.Parity
import TriggerFlow.Proofs.Rule.Soundness

/-! # Laws of the lazy operators

A conjunction, a disjunction and a conditional go through their operands until one settles the result:
by its value or by a fault (`Settled`, `SettledChoice`).  What comes behind it does not matter
(`firstWhere_of_settled`, `choose_of_settled`), and operands that settle nothing leave the result to
what comes behind them (`firstWhere_of_open`, `choose_of_open`).  Hence the operands may be regrouped,
and exactly those that settle the result make the rest irrelevant: `lazy_operators_regroup`.

A conjunction and a disjunction are settled by opposite values, so a negation turns one into the other,
operand by operand and faults included: `negation_exchanges`. -/

namespace TriggerFlow

/-- Whether a value settles a conjunction or a disjunction. -/
def Operator.settles (op : Operator) (v : Value) : Bool :=
  match op with
  | .conjunction => !v.truthy
  | _ => v.truthy

namespace Rule

open Outcome

/-- The operation of a symbol on a list of operands. -/
def operationOf (symbol : String) (operands : List Value) : Value :=
  .object [(symbol, .list operands)]

/-- The first operands settle a conjunction or a disjunction: one of them settles it by its value or
raises a fault, and those before it do neither. -/
inductive Settled (settles : Value → Bool) : List Outcome → Prop
  | value {v : Value} {rest : List Outcome} : settles v = true → Settled settles (.ok v :: rest)
  | fault {e : Fault} {rest : List Outcome} : Settled settles (.error e :: rest)
  | later {v : Value} {rest : List Outcome} : settles v = false → Settled settles rest →
      Settled settles (.ok v :: rest)

/-- The first operands settle a conditional: one of the conditions is true or raises a fault, and the
conditions before it are false. -/
inductive SettledChoice : List Outcome → Prop
  | chosen {c : Value} {outcome : Outcome} {rest : List Outcome} : c.truthy = true →
      SettledChoice (.ok c :: outcome :: rest)
  | fault {e : Fault} {rest : List Outcome} : SettledChoice (.error e :: rest)
  | later {c : Value} {outcome : Outcome} {rest : List Outcome} : c.truthy = false →
      SettledChoice rest → SettledChoice (.ok c :: outcome :: rest)

variable {context : Value} {op : Operator} {settles : Value → Bool} {outcomes others : List Outcome}

/-! ### Conjunctions and disjunctions -/

theorem firstWhere_cons (outcome : Outcome) (h : others ≠ []) :
    firstWhere settles (outcome :: others) =
      outcome >>= fun v => if settles v then pure v else firstWhere settles others := by
  cases others with
  | nil => exact absurd rfl h
  | cons next rest => rfl

/-- The operands behind some others count only if none of these settles the result. -/
theorem firstWhere_append (h : outcomes ≠ []) (h' : others ≠ []) :
    firstWhere settles (outcomes ++ others) =
      firstWhere settles outcomes >>= fun v =>
        if settles v then pure v else firstWhere settles others := by
  induction outcomes with
  | nil => exact absurd rfl h
  | cons outcome rest ih =>
      by_cases hr : rest = []
      · subst hr
        exact firstWhere_cons outcome h'
      · rw [List.cons_append, firstWhere_cons outcome (List.append_ne_nil_of_left_ne_nil hr _),
          firstWhere_cons outcome hr, ih hr, bind_assoc]
        refine bind_congr fun v => ?_
        cases hv : settles v with
        | true => simp [hv]
        | false => rfl

theorem firstWhere_of_settled (h : Settled settles outcomes) (others : List Outcome) :
    firstWhere settles (outcomes ++ others) = firstWhere settles outcomes := by
  induction h with
  | @value v rest hv =>
      have alone (rest : List Outcome) : firstWhere settles (.ok v :: rest) = .ok v := by
        by_cases hr : rest = []
        · rw [hr, firstWhere]
        · rw [firstWhere_cons _ hr]
          exact if_pos hv
      rw [List.cons_append, alone, alone]
  | @fault e rest =>
      have alone (rest : List Outcome) : firstWhere settles (.error e :: rest) = .error e := by
        cases rest <;> rfl
      rw [List.cons_append, alone, alone]
  | @later v rest hv hs ih =>
      have hr : rest ≠ [] := by
        rintro rfl
        cases hs
      rw [List.cons_append, firstWhere_cons _ (List.append_ne_nil_of_left_ne_nil hr _),
        firstWhere_cons _ hr, ih]

/-- Operands that settle nothing leave the result to those behind them. -/
theorem firstWhere_of_open (h : ¬ Settled settles outcomes) (h' : others ≠ []) :
    firstWhere settles (outcomes ++ others) = firstWhere settles others := by
  induction outcomes with
  | nil => rfl
  | cons outcome rest ih =>
      cases outcome with
      | error e => exact absurd .fault h
      | ok v =>
          cases hv : settles v with
          | true => exact absurd (.value hv) h
          | false =>
              rw [List.cons_append, firstWhere_cons _ (List.append_ne_nil_of_right_ne_nil _ h'),
                ih fun hs => h (.later hv hs)]
              exact if_neg (by simp [hv])

/-- A change of all values commutes with the choice if it keeps what settles it. -/
theorem firstWhere_map {settles' : Value → Bool} (change : Value → Value)
    (keeps : ∀ v, settles' (change v) = settles v) (h : outcomes ≠ []) :
    (firstWhere settles outcomes).map change =
      firstWhere settles' (outcomes.map (Except.map change)) := by
  induction outcomes with
  | nil => exact absurd rfl h
  | cons outcome rest ih =>
      by_cases hr : rest = []
      · subst hr
        rfl
      · rw [List.map_cons, firstWhere_cons outcome hr, firstWhere_cons _ (by simpa using hr), ← ih hr]
        cases outcome with
        | error e => rfl
        | ok v =>
            change Except.map change (if settles v then _ else _) =
              if settles' (change v) then _ else _
            rw [keeps]
            split <;> rfl

/-! ### Conditionals -/

theorem choose_append (h : Even outcomes.length) (others : List Outcome) :
    choose (outcomes ++ others) = choose (outcomes ++ [choose others]) := by
  induction outcomes using choose.induct with
  | case1 => rfl
  | case2 otherwise => exact (Nat.not_even_one h).elim
  | case3 condition outcome rest ih =>
      have even : Even rest.length := by simpa [Nat.even_add_one] using h
      change (do if (← condition).truthy then outcome else choose (rest ++ others)) =
        (do if (← condition).truthy then outcome else choose (rest ++ [choose others]))
      rw [ih even]

theorem choose_of_settled (h : SettledChoice outcomes) (others : List Outcome) :
    choose (outcomes ++ others) = choose outcomes := by
  induction h with
  | @chosen c outcome rest hc =>
      have alone (rest : List Outcome) : choose (.ok c :: outcome :: rest) = outcome := if_pos hc
      rw [List.cons_append, List.cons_append, alone, alone]
  | @fault e rest =>
      have alone (rest : List Outcome) : choose (.error e :: rest) = .error e := by
        cases rest <;> rfl
      rw [List.cons_append, alone, alone]
  | @later c outcome rest hc _ ih =>
      have next (rest : List Outcome) : choose (.ok c :: outcome :: rest) = choose rest :=
        if_neg (by simp [hc])
      rw [List.cons_append, List.cons_append, next, next, ih]

/-- Conditions that are false, with their values, leave the result to what comes behind them. -/
theorem choose_of_open (h : ¬ SettledChoice outcomes) (even : Even outcomes.length)
    (others : List Outcome) : choose (outcomes ++ others) = choose others := by
  induction outcomes using choose.induct with
  | case1 => rfl
  | case2 otherwise => exact (Nat.not_even_one even).elim
  | case3 condition outcome rest ih =>
      cases condition with
      | error e => exact absurd .fault h
      | ok c =>
          cases hc : c.truthy with
          | true => exact absurd (.chosen hc) h
          | false =>
              have even : Even rest.length := by simpa [Nat.even_add_one] using even
              have next : choose (.ok c :: outcome :: (rest ++ others)) = choose (rest ++ others) :=
                if_neg (by simp [hc])
              rw [List.cons_append, List.cons_append, next, ih (fun hs => h (.later hc hs)) even]

/-! ### Operations -/

theorem eval_operationOf (context : Value) (symbol : String) (operands : List Value) :
    eval context (operationOf symbol operands) =
      operate context symbol (operands.map (eval context)) :=
  eval_operation context rfl

theorem operate_connective (h : op = .conjunction ∨ op = .disjunction) (hn : outcomes ≠ []) :
    operate context op.symbol outcomes = firstWhere op.settles outcomes := by
  have count : (Arity.mk 1 none).admits outcomes.length = true :=
    Arity.admits_unbounded_iff.mpr (List.length_pos_iff.mpr hn)
  rcases h with rfl | rfl
  · exact operate_symbol count
  · exact operate_symbol count

theorem operate_conditional (h : op = .conditional ∨ op = .ternary) (outcomes : List Outcome) :
    operate context op.symbol outcomes = choose outcomes := by
  have count : (Arity.mk 0 none).admits outcomes.length = true :=
    Arity.admits_unbounded_iff.mpr (Nat.zero_le _)
  rcases h with rfl | rfl
  · exact operate_symbol count
  · exact operate_symbol count

theorem eval_connective (h : op = .conjunction ∨ op = .disjunction) {operands : List Value}
    (hn : operands ≠ []) (context : Value) :
    eval context (operationOf op.symbol operands) =
      firstWhere op.settles (operands.map (eval context)) := by
  rw [eval_operationOf, operate_connective h (by simpa using hn)]

theorem eval_conditional (h : op = .conditional ∨ op = .ternary) (operands : List Value)
    (context : Value) :
    eval context (operationOf op.symbol operands) = choose (operands.map (eval context)) := by
  rw [eval_operationOf, operate_conditional h]

/-! ### Regrouping -/

theorem eval_connective_append (h : op = .conjunction ∨ op = .disjunction) {xs ys : List Value}
    (hx : xs ≠ []) (hy : ys ≠ []) (context : Value) :
    eval context (operationOf op.symbol (xs ++ ys)) =
      eval context (operationOf op.symbol [operationOf op.symbol xs, operationOf op.symbol ys]) := by
  have grouped : [operationOf op.symbol xs, operationOf op.symbol ys].map (eval context) =
      [firstWhere op.settles (xs.map (eval context)), firstWhere op.settles (ys.map (eval context))] := by
    rw [List.map_cons, List.map_singleton, eval_connective h hx, eval_connective h hy]
  rw [eval_connective h (List.append_ne_nil_of_left_ne_nil hx ys),
    eval_connective h (List.cons_ne_nil _ _), grouped, List.map_append,
    firstWhere_append (by simpa using hx) (by simpa using hy),
    firstWhere_cons _ (List.cons_ne_nil _ _), firstWhere]

theorem eval_conditional_append (h : op = .conditional ∨ op = .ternary) {xs : List Value}
    (even : Even xs.length) (ys : List Value) (context : Value) :
    eval context (operationOf op.symbol (xs ++ ys)) =
      eval context (operationOf op.symbol (xs ++ [operationOf op.symbol ys])) := by
  rw [eval_conditional h, eval_conditional h, List.map_append, List.map_append, List.map_singleton,
    eval_conditional h, choose_append (by simpa using even)]

/-! ### Operands that settle the result -/

theorem settled_iff (h : op = .conjunction ∨ op = .disjunction) (context : Value) (xs : List Value) :
    Settled op.settles (xs.map (eval context)) ↔ ∀ ys zs,
      eval context (operationOf op.symbol (xs ++ ys)) =
        eval context (operationOf op.symbol (xs ++ zs)) := by
  constructor
  · intro hs ys zs
    have hx : xs ≠ [] := by
      rintro rfl
      cases hs
    rw [eval_connective h (List.append_ne_nil_of_left_ne_nil hx ys),
      eval_connective h (List.append_ne_nil_of_left_ne_nil hx zs), List.map_append, List.map_append,
      firstWhere_of_settled hs, firstWhere_of_settled hs]
  · intro same
    by_contra hs
    have alone (b : Bool) : eval context (operationOf op.symbol (xs ++ [.bool b])) = .ok (.bool b) := by
      rw [eval_connective h (by simp), List.map_append, firstWhere_of_open hs (by simp)]
      rfl
    have contrary := same [.bool true] [.bool false]
    rw [alone, alone] at contrary
    cases contrary

theorem settledChoice_iff (h : op = .conditional ∨ op = .ternary) (context : Value)
    {xs : List Value} (even : Even xs.length) :
    SettledChoice (xs.map (eval context)) ↔ ∀ ys zs,
      eval context (operationOf op.symbol (xs ++ ys)) =
        eval context (operationOf op.symbol (xs ++ zs)) := by
  constructor
  · intro hs ys zs
    rw [eval_conditional h, eval_conditional h, List.map_append, List.map_append,
      choose_of_settled hs, choose_of_settled hs]
  · intro same
    by_contra hs
    have alone (b : Bool) : eval context (operationOf op.symbol (xs ++ [.bool b])) = .ok (.bool b) := by
      rw [eval_conditional h, List.map_append, choose_of_open hs (by simpa using even)]
      rfl
    have contrary := same [.bool true] [.bool false]
    rw [alone, alone] at contrary
    cases contrary

/-- **Lazy operators may be regrouped, and evaluate just the operands that they need.**  The operands
of a conjunction or a disjunction may be split into two nonempty groups, and whatever follows whole
pairs of conditions and values may stand in a conditional of its own, faults included.  The result does
not depend on what follows some operands, however ill-formed, if and only if these operands settle
it. -/
theorem lazy_operators_regroup (context : Value) :
    (∀ op : Operator, op = .conjunction ∨ op = .disjunction → ∀ xs ys, xs ≠ [] → ys ≠ [] →
      eval context (operationOf op.symbol (xs ++ ys)) =
        eval context
          (operationOf op.symbol [operationOf op.symbol xs, operationOf op.symbol ys])) ∧
    (∀ op : Operator, op = .conditional ∨ op = .ternary → ∀ xs ys, Even xs.length →
      eval context (operationOf op.symbol (xs ++ ys)) =
        eval context (operationOf op.symbol (xs ++ [operationOf op.symbol ys]))) ∧
    (∀ op : Operator, op = .conjunction ∨ op = .disjunction → ∀ xs,
      Settled op.settles (xs.map (eval context)) ↔ ∀ ys zs,
        eval context (operationOf op.symbol (xs ++ ys)) =
          eval context (operationOf op.symbol (xs ++ zs))) ∧
    ∀ op : Operator, op = .conditional ∨ op = .ternary → ∀ xs, Even xs.length →
      (SettledChoice (xs.map (eval context)) ↔ ∀ ys zs,
        eval context (operationOf op.symbol (xs ++ ys)) =
          eval context (operationOf op.symbol (xs ++ zs))) :=
  ⟨fun _ h _ _ hx hy => eval_connective_append h hx hy context,
    fun _ h _ ys even => eval_conditional_append h even ys context,
    fun _ h xs => settled_iff h context xs,
    fun _ h _ even => settledChoice_iff h context even⟩

/-- An order that is paid and on which nothing is due. -/
def paidOrder : Value := .object [("due", .int 0), ("paid", .bool true)]

/-- Operands that no evaluation may meet. -/
def malformedOperands : List Value := [.object [("divide", .int 1)], .object [("+", .str "a")]]

theorem lazy_operators_regroup_paidOrder :
    eval paidOrder (operationOf "or" ([.object [("var", .str "due")], .object [("var", .str "paid")]] ++
        malformedOperands)) = .ok (.bool true) ∧
      eval paidOrder (operationOf "or" [
        operationOf "or" [.object [("var", .str "due")], .object [("var", .str "paid")]],
        operationOf "or" malformedOperands]) = .ok (.bool true) ∧
      eval paidOrder (operationOf "if" ([.object [("var", .str "due")], .str "open",
        .object [("var", .str "paid")], .str "closed"] ++ malformedOperands)) = .ok (.str "closed") ∧
      eval paidOrder (operationOf "if" ([.object [("var", .str "due")], .str "open",
        .object [("var", .str "paid")], .str "closed"] ++ [operationOf "if" malformedOperands])) =
          .ok (.str "closed") := by
  obtain ⟨grouped, nested, settled, chosen⟩ := lazy_operators_regroup paidOrder
  have either := (settled .disjunction (.inr rfl)
    [.object [("var", .str "due")], .object [("var", .str "paid")]]).mp
      (.later rfl (.value rfl)) malformedOperands []
  have choice := (chosen .conditional (.inl rfl) [.object [("var", .str "due")], .str "open",
    .object [("var", .str "paid")], .str "closed"] (by decide)).mp
      (.later rfl (.chosen rfl)) malformedOperands []
  refine ⟨either, ?_, choice, ?_⟩
  · exact (grouped .disjunction (.inr rfl) _ _ (by simp) (by simp [malformedOperands])).symm.trans
      either
  · exact (nested .conditional (.inl rfl) _ _ (by decide)).symm.trans choice

/-! ### Negation -/

/-- The negation of a tree. -/
def negate (tree : Value) : Value := operationOf "!" [tree]

/-- Both give the same truth value or raise the same fault. -/
def SameTruth (x y : Outcome) : Prop :=
  (∃ b, x = .ok (.bool b) ∧ y = .ok (.bool b)) ∨ ∃ fault, x = .error fault ∧ y = .error fault

theorem SameTruth.eq {x y : Outcome} (h : SameTruth x y) : x = y := by
  rcases h with ⟨b, rfl, rfl⟩ | ⟨fault, rfl, rfl⟩ <;> rfl

/-- A negation gives the opposite of the truth of its operand. -/
theorem eval_negate (context tree : Value) :
    eval context (negate tree) = (eval context tree).map fun v => .bool !v.truthy := by
  rw [negate, eval_operationOf, List.map_singleton]
  cases eval context tree <;> rfl

theorem eval_negate_cases (context tree : Value) :
    (∃ b, eval context (negate tree) = .ok (.bool b)) ∨
      ∃ fault, eval context (negate tree) = .error fault := by
  rw [eval_negate]
  cases eval context tree with
  | ok v => exact .inl ⟨_, rfl⟩
  | error fault => exact .inr ⟨fault, rfl⟩

/-- The negation of a choice is the choice among the negations, if what settles the one is the negation
of what settles the other. -/
theorem eval_negate_connective {dual : Operator} (h : op = .conjunction ∨ op = .disjunction)
    (h' : dual = .conjunction ∨ dual = .disjunction)
    (opposed : ∀ v : Value, dual.settles (.bool !v.truthy) = op.settles v) {xs : List Value}
    (hx : xs ≠ []) (context : Value) :
    SameTruth (eval context (negate (operationOf op.symbol xs)))
      (eval context (operationOf dual.symbol (xs.map negate))) := by
  have each : (xs.map negate).map (eval context) =
      (xs.map (eval context)).map (Except.map fun v => .bool !v.truthy) := by
    rw [List.map_map, List.map_map]
    exact List.map_congr_left fun x _ => eval_negate context x
  have same : eval context (operationOf dual.symbol (xs.map negate)) =
      eval context (negate (operationOf op.symbol xs)) := by
    rw [eval_connective h' (by simpa using hx), each, eval_negate, eval_connective h hx,
      firstWhere_map _ opposed (by simpa using hx)]
  rw [same]
  exact (eval_negate_cases context _).imp (fun ⟨b, hb⟩ => ⟨b, hb, hb⟩) fun ⟨e, he⟩ => ⟨e, he, he⟩

/-- **De Morgan's laws.**  The negation of a conjunction is the disjunction of the negations, and the
negation of a disjunction the conjunction of the negations: both sides give the same truth value or
raise the same fault. -/
theorem negation_exchanges (context : Value) (xs : List Value) (h : xs ≠ []) :
    SameTruth (eval context (negate (operationOf "and" xs)))
        (eval context (operationOf "or" (xs.map negate))) ∧
      SameTruth (eval context (negate (operationOf "or" xs)))
        (eval context (operationOf "and" (xs.map negate))) := by
  constructor
  · exact eval_negate_connective (.inl rfl) (.inr rfl) (fun v => rfl) h context
  · refine eval_negate_connective (.inr rfl) (.inl rfl) (fun v => ?_) h context
    exact Bool.not_not v.truthy

/-- An empty list counts as false, and a text cannot be added. -/
def uncertainOperands : List Value := [.list [], .object [("+", .str "a")]]

theorem negation_exchanges_paidOrder :
    uncertainOperands ≠ [] ∧
      eval paidOrder (negate (operationOf "and" uncertainOperands)) = .ok (.bool true) ∧
      eval paidOrder (operationOf "or" (uncertainOperands.map negate)) = .ok (.bool true) ∧
      eval paidOrder (negate (operationOf "or" uncertainOperands)) =
        .error (.logic (.operandKind .sum .str)) ∧
      eval paidOrder (operationOf "and" (uncertainOperands.map negate)) =
        .error (.logic (.operandKind .sum .str)) := by
  have nonempty : uncertainOperands ≠ [] := List.cons_ne_nil _ _
  obtain ⟨settled, faulty⟩ := negation_exchanges paidOrder uncertainOperands nonempty
  exact ⟨nonempty, rfl, settled.eq.symm, rfl, faulty.eq.symm⟩

end Rule

end TriggerFlow
