import TriggerFlow.Proofs.Rule.Depth
import TriggerFlow.Proofs.Rule.Reach
import TriggerFlow.Proofs.Value.Reread

/-! # Replacing a part of a tree

The outcome of a tree depends on the outcome of each of its parts, not on how the part is written.  A
surrounding of a part is a tree with a hole in one of its lists (`Surrounding`).  Filled with two
trees of the same outcome it has the same outcome (`eval_fill_both`); within the level limit it may
also be that one of the two goes too deep (`evaluate_fill`).  A tree of depth zero is its own outcome,
so the value of a part may stand for the part.  All this is `fill_congr`. -/

namespace TriggerFlow.Rule

open Outcome

/-! ### Surroundings -/

/-- A tree with a hole that is an item of a list: of the operands of an operation or of a list
literal. -/
inductive Surrounding
  /-- A list with the hole between two lists of items. -/
  | item (before after : List Value)
  /-- A list that has the hole somewhere in one of its items. -/
  | among (before : List Value) (inner : Surrounding) (after : List Value)
  /-- An operation that has the hole in its operands, or somewhere in its single operand. -/
  | operation (symbol : String) (inner : Surrounding)

/-- The surrounding with a tree in place of the hole. -/
def Surrounding.fill : Surrounding → Value → Value
  | .item before after, t => .list (before ++ t :: after)
  | .among before inner after, t => .list (before ++ inner.fill t :: after)
  | .operation symbol inner, t => .object [(symbol, inner.fill t)]

variable {α β : Type} {c t t₁ t₂ v : Value} {n m limit : Nat}

theorem operation?_object (symbol : String) (v : Value) :
    operation? (.object [(symbol, v)]) = some (symbol, operandsOf v) := rfl

/-! ### Without a limit -/

theorem map_eval_congr (h : eval c t₁ = eval c t₂) (before after : List Value) :
    (before ++ t₁ :: after).map (eval c) = (before ++ t₂ :: after).map (eval c) := by
  rw [List.map_append, List.map_append, List.map_cons, List.map_cons, h]

theorem eval_list_congr {us vs : List Value} (h : us.map (eval c) = vs.map (eval c)) :
    eval c (.list us) = eval c (.list vs) := by
  rw [eval_list, eval_list, h]

/-- The operands are the items of a list and not its outcome, so the induction is on both. -/
theorem eval_fill_both (h : eval c t₁ = eval c t₂) (s : Surrounding) :
    eval c (s.fill t₁) = eval c (s.fill t₂) ∧
      (operandsOf (s.fill t₁)).map (eval c) = (operandsOf (s.fill t₂)).map (eval c) := by
  induction s with
  | item before after =>
      have items := map_eval_congr h before after
      exact ⟨eval_list_congr items, items⟩
  | among before inner after ih =>
      have items := map_eval_congr ih.1 before after
      exact ⟨eval_list_congr items, items⟩
  | operation symbol inner ih =>
      have same : eval c (.object [(symbol, inner.fill t₁)]) =
          eval c (.object [(symbol, inner.fill t₂)]) := by
        rw [eval_operation c (operation?_object _ _), eval_operation c (operation?_object _ _), ih.2]
      exact ⟨same, congrArg ([·]) same⟩

/-! ### Outcomes up to the limit -/

/-- The same, or one of the two has gone too deep. -/
def AlikeUnlessDeep (x y : Except Fault α) : Prop :=
  x = y ∨ (∃ during, x = exhausted during) ∨ ∃ during, y = exhausted during

namespace AlikeUnlessDeep

theorem refl (x : Except Fault α) : AlikeUnlessDeep x x := .inl rfl

theorem symm {x y : Except Fault α} (h : AlikeUnlessDeep x y) : AlikeUnlessDeep y x :=
  h.imp Eq.symm Or.symm

theorem bind {x y : Except Fault α} {f g : α → Except Fault β} (h : AlikeUnlessDeep x y)
    (next : ∀ a, x = .ok a → AlikeUnlessDeep (f a) (g a)) :
    AlikeUnlessDeep (x >>= f) (y >>= g) := by
  rcases h with rfl | ⟨during, rfl⟩ | ⟨during, rfl⟩
  · cases x with
    | error fault => exact .inl rfl
    | ok a => exact next a rfl
  · exact .inr (.inl ⟨during, rfl⟩)
  · exact .inr (.inr ⟨during, rfl⟩)

theorem map {x y : Except Fault α} (h : AlikeUnlessDeep x y) (f : α → β) :
    AlikeUnlessDeep (x.map f) (y.map f) := by
  rcases h with rfl | ⟨during, rfl⟩ | ⟨during, rfl⟩
  · exact .inl rfl
  · exact .inr (.inl ⟨during, rfl⟩)
  · exact .inr (.inr ⟨during, rfl⟩)

theorem stepDown {f g : Nat → Outcome} (h : ∀ m < n, AlikeUnlessDeep (f m) (g m)) :
    AlikeUnlessDeep (stepDown n f) (stepDown n g) := by
  cases n with
  | zero => exact .refl _
  | succ n => exact h n n.lt_succ_self

end AlikeUnlessDeep

/-! ### Operations up to the limit -/

variable {xs ys : List Outcome}

theorem collect_alike (h : List.Forall₂ AlikeUnlessDeep xs ys) :
    AlikeUnlessDeep (collect xs) (collect ys) := by
  induction h with
  | nil => exact .refl _
  | cons head tail ih => exact head.bind fun v _ => ih.bind fun vs _ => .refl _

theorem firstWhere_alike (settles : Value → Bool) (h : List.Forall₂ AlikeUnlessDeep xs ys) :
    AlikeUnlessDeep (firstWhere settles xs) (firstWhere settles ys) := by
  induction h with
  | nil => exact .refl _
  | cons head tail ih =>
      cases tail with
      | nil => exact head
      | cons next rest =>
          refine head.bind fun v _ => ?_
          split
          · exact .refl _
          · exact ih

theorem choose_alike (h : List.Forall₂ AlikeUnlessDeep xs ys) :
    AlikeUnlessDeep (choose xs) (choose ys) := by
  induction xs using choose.induct generalizing ys with
  | case1 =>
      cases h
      exact .refl _
  | case2 otherwise =>
      cases h with
      | cons head tail =>
          cases tail
          exact head
  | case3 condition chosen rest ih =>
      obtain _ | ⟨head, _ | ⟨next, others⟩⟩ := h
      refine head.bind fun v _ => ?_
      split
      · exact next
      · exact ih others

/-- An operation makes nothing of its operands but what their outcomes tell. -/
theorem apply_alike (op : Operator) (h : List.Forall₂ AlikeUnlessDeep xs ys) :
    AlikeUnlessDeep (op.apply c xs) (op.apply c ys) := by
  cases hl : op.isLazy with
  | true =>
      cases op <;> cases hl
      · exact firstWhere_alike _ h
      · exact firstWhere_alike _ h
      · exact choose_alike h
      · exact choose_alike h
  | false =>
      rw [op.apply_of_strict hl, op.apply_of_strict hl]
      exact (collect_alike h).bind fun _ _ => .refl _

theorem operateWithin_alike (symbol : String) (h : List.Forall₂ AlikeUnlessDeep xs ys) :
    AlikeUnlessDeep (operateWithin c symbol n xs) (operateWithin c symbol n ys) := by
  refine AlikeUnlessDeep.bind ?_ fun v _ => .refl _
  rw [operate, operate, h.length_eq]
  cases admitted symbol ys.length with
  | error fault => exact .refl _
  | ok op => exact apply_alike op h

/-! ### Trees up to the limit -/

theorem map_alike (h : AlikeUnlessDeep (evalWithin c n t₁) (evalWithin c n t₂))
    (before after : List Value) :
    List.Forall₂ AlikeUnlessDeep ((before ++ t₁ :: after).map (evalWithin c n))
      ((before ++ t₂ :: after).map (evalWithin c n)) := by
  have same (vs : List Value) : List.Forall₂ AlikeUnlessDeep (vs.map (evalWithin c n))
      (vs.map (evalWithin c n)) := List.forall₂_same.mpr fun _ _ => .refl _
  rw [List.map_append, List.map_append, List.map_cons, List.map_cons]
  exact List.rel_append (same before) (.cons h (same after))

theorem evalWithin_list_alike {us vs : List Value}
    (h : ∀ m < n, List.Forall₂ AlikeUnlessDeep (us.map (evalWithin c m)) (vs.map (evalWithin c m))) :
    AlikeUnlessDeep (evalWithin c n (.list us)) (evalWithin c n (.list vs)) := by
  rw [evalWithin_list, evalWithin_list]
  exact .stepDown fun m hm => (collect_alike (h m hm)).map Value.list

theorem evalWithin_fill_both
    (h : ∀ n ≤ limit, AlikeUnlessDeep (evalWithin c n t₁) (evalWithin c n t₂)) (s : Surrounding) :
    ∀ n ≤ limit, AlikeUnlessDeep (evalWithin c n (s.fill t₁)) (evalWithin c n (s.fill t₂)) ∧
      List.Forall₂ AlikeUnlessDeep ((operandsOf (s.fill t₁)).map (evalWithin c n))
        ((operandsOf (s.fill t₂)).map (evalWithin c n)) := by
  induction s with
  | item before after =>
      have items n (hn : n ≤ limit) := map_alike (h n hn) before after
      exact fun n hn => ⟨evalWithin_list_alike fun m hm => items m (by omega), items n hn⟩
  | among before inner after ih =>
      have items n (hn : n ≤ limit) := map_alike (ih n hn).1 before after
      exact fun n hn => ⟨evalWithin_list_alike fun m hm => items m (by omega), items n hn⟩
  | operation symbol inner ih =>
      intro n hn
      have same : AlikeUnlessDeep (evalWithin c n (.object [(symbol, inner.fill t₁)]))
          (evalWithin c n (.object [(symbol, inner.fill t₂)])) := by
        rw [evalWithin_operation (operation?_object _ _),
          evalWithin_operation (operation?_object _ _)]
        exact .stepDown fun m hm => operateWithin_alike symbol (ih m (by omega)).2
      exact ⟨same, .cons same .nil⟩

/-- With fewer steps a tree has the same outcome or goes too deep. -/
theorem evalWithin_of_le (hn : n ≤ m) :
    evalWithin c n t = evalWithin c m t ∨ ∃ during, evalWithin c n t = exhausted during := by
  rcases Nat.lt_or_ge n (reach Value.nesting c t) with few | enough
  · exact .inr ((evalWithin_suits t).tooFew few)
  · left
    rw [(evalWithin_suits t).enough enough, (evalWithin_suits t).enough (Nat.le_trans enough hn)]

theorem alike_of_limit (same : AlikeUnlessDeep (evalWithin c limit t₁) (evalWithin c limit t₂))
    (hn : n ≤ limit) : AlikeUnlessDeep (evalWithin c n t₁) (evalWithin c n t₂) := by
  rcases evalWithin_of_le (t := t₁) hn with h₁ | deep
  · rcases evalWithin_of_le (t := t₂) hn with h₂ | deep
    · rwa [h₁, h₂]
    · exact .inr (.inr deep)
  · exact .inr (.inl deep)

/-- Within the limit to the levels, surroundings respect outcomes as far as they get. -/
theorem evaluate_fill [Levels] (same : AlikeUnlessDeep (evaluate t₁ c) (evaluate t₂ c)) (s : Surrounding) :
    AlikeUnlessDeep (evaluate (s.fill t₁) c) (evaluate (s.fill t₂) c) := by
  simp only [evaluate_eq_evalWithin] at same ⊢
  exact (evalWithin_fill_both (fun n => alike_of_limit same) s stepLimit (Nat.le_refl _)).1

/-! ### Trees without operations -/

theorem depth_le_deepest {vs : List Value} (h : v ∈ vs) : depth v ≤ deepest vs := by
  induction vs with
  | nil => cases h
  | cons w rest ih =>
      rw [deepest]
      rcases List.mem_cons.mp h with rfl | h
      · exact Nat.le_max_left _ _
      · exact Nat.le_trans (ih h) (Nat.le_max_right _ _)

theorem depth_pos_of_operation {symbol : String} {operands : List Value}
    (h : operation? v = some (symbol, operands)) : 0 < depth v := by
  have deeper : 0 + depth v = 0 + 1 + deepest (children v) := by
    rw [around_add_depth, inside, h]
    rfl
  omega

theorem eval_of_depth_eq_zero (h : depth v = 0) (c : Value) : eval c v = .ok v := by
  induction v using tree_induction with
  | list items ih =>
      have each : items.map (eval c) = items.map .ok := List.map_congr_left fun item hi =>
        ih item hi (Nat.le_zero.mp (Nat.le_trans (depth_le_deepest hi) (Nat.le_of_eq h)))
      rw [eval_list, collect_eq_ok.mpr each]
      rfl
  | operation v symbol operands hv _ => exact absurd h (Nat.ne_of_gt (depth_pos_of_operation hv))
  | literal v hl => exact eval_literal c hl

theorem evaluate_of_depth_eq_zero [Levels] (h : depth v = 0) (c : Value) :
    AlikeUnlessDeep (evaluate v c) (.ok v) := by
  rw [evaluate_eq_evalWithin, ← eval_of_depth_eq_zero h (contextOf c)]
  rcases Nat.lt_or_ge stepLimit (reach Value.nesting (contextOf c) v) with few | enough
  · exact .inr (.inl ((evalWithin_suits v).tooFew few))
  · exact .inl ((evalWithin_suits v).enough enough)

/-! ### Replacement -/

/-- **A part of a tree can be replaced by another one of the same outcome.**  The outcome is meant with
the not-a-numbers of which it consists.  This holds in every surrounding, with the level limit as long
as neither tree goes too deep, and without one.  A tree of depth zero is its own outcome; hence a part
can be replaced by its value if that has depth zero. -/
theorem fill_congr [Levels] :
    (∀ c t₁ t₂ (s : Surrounding), evaluate t₁ c = evaluate t₂ c →
      AlikeUnlessDeep (evaluate (s.fill t₁) c) (evaluate (s.fill t₂) c)) ∧
    (∀ c t₁ t₂ (s : Surrounding), eval c t₁ = eval c t₂ →
      eval c (s.fill t₁) = eval c (s.fill t₂)) ∧
    (∀ v, measureDepth v none = 0 →
      (∀ c, AlikeUnlessDeep (evaluate v c) (.ok v) ∧ eval c v = .ok v) ∧
      (∀ c t (s : Surrounding), evaluate t c = .ok v →
        AlikeUnlessDeep (evaluate (s.fill t) c) (evaluate (s.fill v) c)) ∧
      ∀ c t (s : Surrounding), eval c t = .ok v → eval c (s.fill t) = eval c (s.fill v)) := by
  refine ⟨fun c t₁ t₂ s same => evaluate_fill (.inl same) s,
    fun c t₁ t₂ s same => (eval_fill_both same s).1, fun v hv => ?_⟩
  rw [measureDepth_eq, capped] at hv
  refine ⟨fun c => ⟨evaluate_of_depth_eq_zero hv c, eval_of_depth_eq_zero hv c⟩, ?_, ?_⟩
  · intro c t s folds
    refine evaluate_fill ?_ s
    rw [folds]
    exact (evaluate_of_depth_eq_zero hv c).symm
  · intro c t s folds
    exact (eval_fill_both (folds.trans (eval_of_depth_eq_zero hv c).symm) s).1

/-- Orders of the team in the north are flagged; the name of the team is the hole. -/
def flagNorth : Surrounding :=
  .operation "if" (.among [] (.operation "==" (.item [] [.str "north"]))
    [.object [("action", .str "FLAG_FOR_REVIEW"), ("config", .object [])], .null])

/-- An order of that team. -/
def northOrder : Value := .object [("team", .str "north")]

theorem fill_congr_flagNorth :
    flagNorth.fill (.object [("var", .str "team")]) =
        .object [("if", .list [.object [("==", .list [.object [("var", .str "team")], .str "north"])],
          .object [("action", .str "FLAG_FOR_REVIEW"), ("config", .object [])], .null])] ∧
      evaluate (flagNorth.fill (.object [("var", .str "team")])) northOrder =
        evaluate (flagNorth.fill (.str "north")) northOrder := by
  have folds : evaluate (.object [("var", .str "team")]) northOrder = .ok (.str "north") := by
    rw [evaluate_eq, if_neg (by decide +kernel)]
    rfl
  have depthless : measureDepth (.str "north") none = 0 := by rw [measureDepth_eq]; rfl
  obtain ⟨-, -, folding⟩ := fill_congr
  refine ⟨rfl, ?_⟩
  rcases (folding _ depthless).2.1 _ _ flagNorth folds with same | deep | deep
  · exact same
  all_goals
    obtain ⟨during, deep⟩ := deep
    rw [evaluate_eq, if_neg (by decide +kernel)] at deep
    cases deep


/-- An order without a known weight. -/
def unweighedOrder : Value :=
  .object [("weights", .list [.float (.nan (some 0))]), ("most", .float (.infinite false))]

/-- The weights of the order. -/
def readWeights : Value := .object [("var", .str "weights")]

/-- A list of one weight that is made anew. -/
def madeWeights : Value :=
  .list [.object [("-", .list [.object [("var", .str "most")], .object [("var", .str "most")]])]]

/-- What is compared with the weights of the order. -/
def againstWeights : Surrounding := .operation "==" (.item [readWeights] [])

/-- Two trees may have outcomes that look the same and yet not be exchanged for each other: a list is
equal to one with which it shares its not-a-numbers, and to none with others. -/
theorem madeWeights_not_exchanged :
    (evaluate readWeights unweighedOrder).map Value.reread =
        (evaluate madeWeights unweighedOrder).map Value.reread ∧
      evaluate (againstWeights.fill readWeights) unweighedOrder = .ok (.bool true) ∧
      evaluate (againstWeights.fill madeWeights) unweighedOrder = .ok (.bool false) := by
  have outcome {tree v : Value} (near : isTooFar (reach Value.nesting unweighedOrder tree) = false)
      (h : eval unweighedOrder tree = .ok v) : evaluate tree unweighedOrder = .ok v :=
    (@evaluate_of_near unweighedOrder _ tree near).trans h
  have read : eval unweighedOrder readWeights = .ok (.list [.float (.nan (some 0))]) := rfl
  have made : eval unweighedOrder madeWeights = .ok (.list [.float (.nan none)]) := rfl
  have comparison (tree : Value) :
      operation? (againstWeights.fill tree) = some ("==", [readWeights, tree]) := rfl
  have compared (tree : Value) : eval unweighedOrder (againstWeights.fill tree) =
      operate unweighedOrder "==" [eval unweighedOrder readWeights, eval unweighedOrder tree] :=
    eval_operation unweighedOrder (comparison tree)
  refine ⟨?_, outcome (by decide +kernel) ?_, outcome (by decide +kernel) ?_⟩
  · rw [outcome (by decide +kernel) read, outcome (by decide +kernel) made]
    rfl
  · rw [compared, read]
    rfl
  · rw [compared, read, made]
    rfl

end TriggerFlow.Rule
