import TriggerFlow.Proofs.Rule.Soundness

/-! # Evaluation step by step

`evalWithin` takes the steps of an evaluation one after another, so the first thing that goes too deep
ends it.  It needs exactly as many steps as `reach` counts: with fewer it is exhausted, and with that
many it gives the outcome of the tree (`evalWithin_suits`).  Hence `evaluate` is the evaluation within
the steps that there are levels for (`evaluate_eq_evalWithin`). -/

namespace TriggerFlow.Rule

variable {α β : Type} {context : Value} {n needed : Nat}

/-! ### Enough steps and too few -/

/-- With at least the steps it needs an operation is as free as without a limit; with fewer it is
exhausted. -/
structure Suits (n needed : Nat) (free within : Except Fault α) : Prop where
  enough : needed ≤ n → within = free
  tooFew : n < needed → ∃ during, within = exhausted during

namespace Suits

theorem of_eq {x : Except Fault α} (h : needed ≤ n) : Suits n needed x x :=
  ⟨fun _ => rfl, fun few => absurd few (Nat.not_lt.mpr h)⟩

/-- A second operation follows only where the first one has a value. -/
theorem bind {x y : Except Fault α} {f g : α → Except Fault β} {total : Nat}
    (first : Suits n needed x y) (failed : ∀ fault, x = .error fault → total = needed)
    (next : ∀ a, x = .ok a → ∃ more, total = max needed more ∧ Suits n more (f a) (g a)) :
    Suits n total (x >>= f) (y >>= g) := by
  cases x with
  | error fault =>
      rw [failed fault rfl]
      refine ⟨fun enough => ?_, fun few => ?_⟩
      · rw [first.enough enough]
        rfl
      · obtain ⟨during, rfl⟩ := first.tooFew few
        exact ⟨during, rfl⟩
  | ok a =>
      obtain ⟨more, rfl, second⟩ := next a rfl
      refine ⟨fun enough => ?_, fun few => ?_⟩
      · rw [first.enough (Nat.le_trans (Nat.le_max_left _ _) enough)]
        exact second.enough (Nat.le_trans (Nat.le_max_right _ _) enough)
      · by_cases here : n < needed
        · obtain ⟨during, rfl⟩ := first.tooFew here
          exact ⟨during, rfl⟩
        · rw [first.enough (Nat.not_lt.mp here)]
          exact second.tooFew (by omega)

theorem map {x y : Except Fault α} (h : Suits n needed x y) (f : α → β) :
    Suits n needed (x.map f) (y.map f) where
  enough few := by rw [h.enough few]
  tooFew few := by
    obtain ⟨during, rfl⟩ := h.tooFew few
    exact ⟨during, rfl⟩

/-- One step more on both sides. -/
theorem stepDown {free : Outcome} {within : Nat → Outcome}
    (h : ∀ n, Suits n needed free (within n)) : Suits n (needed + 1) free (stepDown n within) := by
  cases n with
  | zero => exact ⟨fun enough => absurd enough (by omega), fun _ => ⟨.evaluation, rfl⟩⟩
  | succ n =>
      exact ⟨fun enough => (h n).enough (by omega), fun few => (h n).tooFew (by omega)⟩

end Suits

theorem copyWithin_suits (n : Nat) (v : Value) : Suits n v.nesting (.ok v) (copyWithin n v) where
  enough enough := if_neg (Nat.not_lt.mpr enough)
  tooFew few := ⟨.copying, if_pos few⟩

/-! ### Operands -/

variable {free within : Value → Outcome} {steps : Value → Nat}

theorem collect_suits {vs : List Value} (h : ∀ v ∈ vs, Suits n (steps v) (free v) (within v)) :
    Suits n (reachAll (vs.map free) (vs.map steps)) (collect (vs.map free))
      (collect (vs.map within)) := by
  induction vs with
  | nil => exact .of_eq (Nat.zero_le n)
  | cons v rest ih =>
      refine (h v List.mem_cons_self).bind ?_ ?_
      · intro fault hf
        simp [reachAll, hf]
      · intro a ha
        refine ⟨reachAll (rest.map free) (rest.map steps), by simp [reachAll, ha], ?_⟩
        exact (ih fun w hw => h w (List.mem_cons_of_mem _ hw)).bind (fun _ _ => rfl) fun vs _ =>
          ⟨0, by simp, .of_eq (Nat.zero_le n)⟩

theorem firstWhere_suits {vs : List Value} (settles : Value → Bool)
    (h : ∀ v ∈ vs, Suits n (steps v) (free v) (within v)) :
    Suits n (reachWhere settles (vs.map free) (vs.map steps)) (firstWhere settles (vs.map free))
      (firstWhere settles (vs.map within)) := by
  induction vs with
  | nil => exact .of_eq (Nat.zero_le n)
  | cons v rest ih =>
      have first := h v List.mem_cons_self
      have others := ih fun w hw => h w (List.mem_cons_of_mem _ hw)
      cases rest with
      | nil =>
          have alone : reachWhere settles [free v] [steps v] = steps v := by
            cases hv : free v <;> simp [reachWhere]
          simpa [alone, firstWhere] using first
      | cons w rest =>
          refine first.bind ?_ ?_
          · intro fault hf
            simp [reachWhere, hf]
          · intro a ha
            cases hs : settles a with
            | true => exact ⟨0, by simp [reachWhere, ha, hs], .of_eq (Nat.zero_le n)⟩
            | false => exact ⟨_, by simp only [List.map_cons, reachWhere, ha, hs]; rfl, others⟩

theorem choose_suits (vs : List Value)
    (h : ∀ v ∈ vs, Suits n (steps v) (free v) (within v)) :
    Suits n (reachChoice (vs.map free) (vs.map steps)) (choose (vs.map free))
      (choose (vs.map within)) := by
  match vs with
  | [] => exact .of_eq (Nat.zero_le n)
  | [v] =>
      have alone : reachChoice [free v] [steps v] = steps v := by
        cases hv : free v <;> simp [reachChoice]
      simpa [alone, choose] using h v List.mem_cons_self
  | v :: w :: rest =>
      have condition := h v List.mem_cons_self
      have chosen := h w (List.mem_cons_of_mem _ List.mem_cons_self)
      have others := choose_suits rest fun u hu =>
        h u (List.mem_cons_of_mem _ (List.mem_cons_of_mem _ hu))
      refine condition.bind ?_ ?_
      · intro fault hf
        simp [reachChoice, hf]
      · intro c hc
        cases ht : c.truthy with
        | true => exact ⟨steps w, by simp [reachChoice, hc, ht], chosen⟩
        | false => exact ⟨_, by simp only [List.map_cons, reachChoice, hc, ht]; rfl, others⟩

/-! ### Operations -/

theorem operateWithin_of_error {symbol : String} {outcomes : List Outcome} {fault : LogicFault}
    (h : admitted symbol outcomes.length = .error fault) :
    operateWithin context symbol n outcomes = .error (.logic fault) := by
  rw [operateWithin, operate, h]
  rfl

/-- Only what a variable gives is copied. -/
theorem operateWithin_of_ok {symbol : String} {outcomes : List Outcome} {op : Operator}
    (h : admitted symbol outcomes.length = .ok op) :
    operateWithin context symbol n outcomes =
      if op = .variable then op.apply context outcomes >>= copyWithin n
      else op.apply context outcomes := by
  have named := ofSymbol?_eq_some (admitted_eq_ok.mp h).1
  have same : (symbol == Operator.variable.symbol) = decide (op = .variable) := by
    rw [← named]
    cases op <;> rfl
  rw [operateWithin, operate, h, same]
  by_cases hv : op = .variable
  · simp only [hv, decide_true, if_true]
  · simp only [hv, decide_false, if_false]
    cases op.apply context outcomes <;> rfl

theorem apply_suits {op : Operator} {vs : List Value} (hl : op.isLazy = false)
    (h : ∀ v ∈ vs, Suits n (steps v) (free v) (within v)) :
    Suits n (reachAll (vs.map free) (vs.map steps)) (op.apply context (vs.map free))
      (op.apply context (vs.map within)) := by
  rw [op.apply_of_strict hl, op.apply_of_strict hl]
  exact (collect_suits h).bind (fun _ _ => rfl) fun vs _ => ⟨0, by simp, .of_eq (Nat.zero_le n)⟩

/-- A copy needs steps besides those of what is copied. -/
theorem Suits.copied {x y : Outcome} {total : Nat} (h : Suits n needed x y)
    (failed : ∀ fault, x = .error fault → total = needed)
    (copied : ∀ v, x = .ok v → total = max needed v.nesting) :
    Suits n total x (y >>= copyWithin n) := by
  have unchanged : (x >>= Except.ok) = x := by cases x <;> rfl
  rw [← unchanged]
  exact h.bind failed fun v hv => ⟨v.nesting, copied v hv, copyWithin_suits n v⟩

/-- An operation needs a step for itself besides those of its operands and of a copy. -/
theorem operation_suits (symbol : String) (vs : List Value) {within : Nat → Value → Outcome}
    (h : ∀ n, ∀ v ∈ vs, Suits n (steps v) (free v) (within n v)) :
    Suits n (reachOperation Value.nesting context symbol (vs.map free) (vs.map steps))
      (operate context symbol (vs.map free))
      (stepDown n fun n => operateWithin context symbol n (vs.map (within n))) := by
  rcases ha : admitted symbol vs.length with fault | op
  · have free_eq : operate context symbol (vs.map free) = .error (.logic fault) := by
      rw [operate, List.length_map, ha]
    have one : reachOperation Value.nesting context symbol (vs.map free) (vs.map steps) = 1 := by
      rw [reachOperation, List.length_map, ha]
    rw [free_eq, one]
    refine .stepDown fun n => ?_
    rw [operateWithin_of_error (by rw [List.length_map, ha])]
    exact .of_eq (Nat.zero_le n)
  · have free_eq : operate context symbol (vs.map free) = op.apply context (vs.map free) := by
      rw [operate, List.length_map, ha]
    have within_eq : ∀ n, operateWithin context symbol n (vs.map (within n)) = _ := fun n =>
      operateWithin_of_ok (by rw [List.length_map, ha])
    simp only [within_eq, free_eq, reachOperation, List.length_map, ha]
    cases op with
    | conjunction | disjunction => exact .stepDown fun n => firstWhere_suits _ (h n)
    | conditional | ternary => exact .stepDown fun n => choose_suits vs (h n)
    | «variable» =>
        have operands n : Suits n _ (Operator.variable.apply context (vs.map free))
            (Operator.variable.apply context (vs.map (within n))) := apply_suits rfl (h n)
        cases hv : Operator.variable.apply context (vs.map free) with
        | error fault =>
            rw [hv] at operands
            refine .stepDown fun n => (operands n).copied (fun _ _ => rfl) fun _ h => ?_
            cases h
        | ok v =>
            rw [hv] at operands
            refine .stepDown fun n => (operands n).copied (fun _ h => ?_) fun _ h => ?_
            · cases h
            · cases h
              rfl
    | _ => exact .stepDown fun n => apply_suits rfl (h n)

/-! ### Trees -/

theorem reachEach_eq_map (copied : Value → Nat) (vs : List Value) :
    reachEach copied context vs = vs.map (reach copied context) := by
  induction vs with
  | nil => rfl
  | cons v rest ih => rw [reachEach, ih, List.map_cons]

theorem evalEachWithin_eq_map (vs : List Value) :
    evalEachWithin context n vs = vs.map (evalWithin context n) := by
  induction vs with
  | nil => rfl
  | cons v rest ih => rw [evalEachWithin, ih, List.map_cons]

theorem evalWithin_list (items : List Value) :
    evalWithin context n (.list items) =
      stepDown n fun n => (collect (items.map (evalWithin context n))).map .list := by
  rw [evalWithin]
  simp only [evalEachWithin_eq_map]

theorem evalWithin_operation {tree : Value} {symbol : String} {operands : List Value}
    (h : operation? tree = some (symbol, operands)) :
    evalWithin context n tree =
      stepDown n fun n => operateWithin context symbol n (operands.map (evalWithin context n)) := by
  obtain ⟨v, rfl, rfl⟩ := operation?_eq_some.mp h
  cases v with
  | list items =>
      rw [evalWithin]
      simp only [evalEachWithin_eq_map, operandsOf]
  | _ => simp [evalWithin, operandsOf]

theorem evalWithin_literal {tree : Value} (h : isLiteral tree = true) :
    evalWithin context n tree = copyWithin n tree := by
  unfold isLiteral at h
  split at h
  · cases h
  · cases h
  · rw [evalWithin] <;> simp_all

theorem reach_list (copied : Value → Nat) (items : List Value) :
    reach copied context (.list items) =
      reachAll (items.map (eval context)) (items.map (reach copied context)) + 1 := by
  rw [reach, evalEach_eq_map, reachEach_eq_map]

theorem reach_operation (copied : Value → Nat) {tree : Value} {symbol : String}
    {operands : List Value} (h : operation? tree = some (symbol, operands)) :
    reach copied context tree =
      reachOperation copied context symbol (operands.map (eval context))
        (operands.map (reach copied context)) := by
  obtain ⟨v, rfl, rfl⟩ := operation?_eq_some.mp h
  cases v with
  | list items => rw [reach, evalEach_eq_map, reachEach_eq_map, operandsOf]
  | _ => simp [reach, operandsOf]

theorem reach_literal (copied : Value → Nat) {tree : Value} (h : isLiteral tree = true) :
    reach copied context tree = copied tree := by
  unfold isLiteral at h
  split at h
  · cases h
  · cases h
  · rw [reach] <;> simp_all

/-- **An evaluation needs the steps that `reach` counts.** -/
theorem evalWithin_suits (tree : Value) :
    Suits n (reach Value.nesting context tree) (eval context tree) (evalWithin context n tree) := by
  induction tree using tree_induction generalizing n with
  | list items ih =>
      rw [reach_list, eval_list, evalWithin_list]
      exact .stepDown fun n => (collect_suits fun item hi => ih item hi).map Value.list
  | operation tree symbol operands ht ih =>
      rw [reach_operation _ ht, eval_operation context ht, evalWithin_operation ht]
      exact operation_suits symbol operands fun n operand ho => ih operand ho
  | literal tree hl =>
      rw [reach_literal _ hl, eval_literal context hl, evalWithin_literal hl]
      exact copyWithin_suits n tree

/-! ### The steps that there are levels for -/

section

variable [Levels]

theorem evaluate_of_near {tree : Value}
    (near : isTooFar (reach Value.nesting (contextOf context) tree) = false) :
    evaluate tree context = eval (contextOf context) tree := by
  rw [evaluate_eq, near, if_neg Bool.false_ne_true]

theorem stepLimit_enough : 12 ≤ stepLimit := by
  have := Levels.enough_evaluation
  rw [stepLimit]
  omega

theorem stepLimit_eq : stepLimit = stepLimit - 1 + 1 := by
  have := stepLimit_enough
  omega

theorem isTooFar_iff {steps : Nat} : isTooFar steps = true ↔ stepLimit < steps := by
  rw [isTooFar, stepLimit, decide_eq_true_iff]
  omega

theorem evaluate_eq_evalWithin (tree context : Value) :
    evaluate tree context = evalWithin (contextOf context) stepLimit tree := by
  have suits : Suits stepLimit _ (eval (contextOf context) tree) _ := evalWithin_suits tree
  rw [evaluate_eq]
  split
  · rename_i far
    obtain ⟨during, hd⟩ := suits.tooFew (isTooFar_iff.mp far)
    rw [descentOf, hd]
    rfl
  · rename_i near
    exact (suits.enough (Nat.not_lt.mp fun far => near (isTooFar_iff.mpr far))).symm

end

end TriggerFlow.Rule
