import TriggerFlow.Action
import TriggerFlow.Proofs.Rule.Provenance

/-! # Actions of checked trees

A value names an unknown action if its `action` is a nonempty text that is none of the vocabulary.
Only such a value is a fault when it is read as an action (`Action.ofResult?_eq_error`), and a tree
passes the check of actions if and only if none of its literals is such a value (`checkActions_eq_ok`).
What is read as an action has a type of the vocabulary (`Action.ofResult?_eq_action`), and the result
that decides on it is read as the same action again (`Action.ofResult?_toResult`).
An object that comes of an evaluation was a literal of the tree or a part of the context, so a checked
tree cannot invent an action: `checked_result_is_read`. -/

namespace TriggerFlow

open Value

/-! ### The vocabulary -/

theorem ActionType.mem_all (a : ActionType) : a ∈ all := by
  cases a <;> decide

theorem ActionType.ofName?_eq_none {name : String} :
    ofName? name = none ↔ ∀ a : ActionType, a.name ≠ name := by
  rw [ofName?, List.find?_eq_none]
  constructor
  · intro h a heq
    exact h a a.mem_all (beq_iff_eq.mpr heq)
  · intro h a _ heq
    exact h a (beq_iff_eq.mp heq)

/-- The `action` of the value is a nonempty text that names no type of action. -/
def Value.NamesUnknownAction (v : Value) : Prop :=
  ∃ name, v.get "action" = .str name ∧ name ≠ "" ∧ ∀ a : ActionType, a.name ≠ name

/-! ### Reading results -/

theorem Action.ofResult?_eq_error {v : Value} {fault : LogicFault} :
    ofResult? v = .error fault ↔
      ∃ name, v.get "action" = .str name ∧ name ≠ "" ∧ (∀ a : ActionType, a.name ≠ name) ∧
        fault = .unknownAction name := by
  constructor
  · intro h
    unfold ofResult? at h
    split at h
    · split at h
      · cases h
      · rename_i name hne hname
        split at h
        · rename_i hu
          cases h
          rw [Option.isNone_iff_eq_none] at hu
          exact ⟨name, hname, hne, ActionType.ofName?_eq_none.mp hu, rfl⟩
        · split at h
          · cases h
          · split at h <;> cases h
      · cases h
    · cases h
  · rintro ⟨name, hname, hne, hu, rfl⟩
    cases v with
    | object entries =>
        simp [ofResult?, hname, ActionType.ofName?_eq_none.mpr hu]
    | _ => cases hname

/-- A result that names no unknown action is read as an action or as none. -/
theorem Action.ofResult?_of_known {v : Value} (h : ¬ v.NamesUnknownAction) :
    ∃ action?, ofResult? v = .ok action? := by
  cases hread : ofResult? v with
  | ok action? => exact ⟨action?, rfl⟩
  | error fault =>
      obtain ⟨name, hn, hne, hu, -⟩ := ofResult?_eq_error.mp hread
      exact (h ⟨name, hn, hne, hu⟩).elim

/-- A result that is read as an action is an object, the action is in the vocabulary, and its config is
the one of the object unless it is empty. -/
theorem Action.ofResult?_eq_action {v : Value} {action : Action}
    (h : ofResult? v = .ok (some action)) :
    (∃ kind : ActionType, action.type = kind.name) ∧
      ∃ entries, v = .object entries ∧
        (action.config = [] ∨ ("config", .object action.config) ∈ entries) := by
  unfold ofResult? at h
  split at h
  · rename_i entries
    split at h
    · cases h
    · rename_i name _ _
      split at h
      · cases h
      · rename_i known
        have kind : ∃ kind : ActionType, name = kind.name := by
          by_contra unknown
          refine known (Option.isNone_iff_eq_none.mpr (ActionType.ofName?_eq_none.mpr ?_))
          exact fun a heq => unknown ⟨a, heq.symm⟩
        split at h
        · rename_i config hconfig
          cases h
          have held := get_eq_null_or_mem entries "config"
          rw [show Entries.get entries "config" = .object config from hconfig] at held
          exact ⟨kind, entries, rfl, .inr (held.resolve_left nofun)⟩
        · split at h
          · cases h
          · cases h
            exact ⟨kind, entries, rfl, .inl rfl⟩
    · cases h
  · cases h

namespace Rule

/-! ### Checked trees -/

theorem actionFault?_eq_none {node : Value} :
    actionFault? node = none ↔ (operation? node = none → ¬ node.NamesUnknownAction) := by
  cases ho : operation? node with
  | some operation => simp [actionFault?, ho]
  | none =>
      simp only [forall_const]
      cases node with
      | object entries =>
          have held : (Value.object entries).get "action" = Entries.get entries "action" := rfl
          cases ha : Entries.get entries "action" with
          | str name =>
              simp [actionFault?, ho, NamesUnknownAction, held, ha, ActionType.ofName?_eq_none,
                Option.isSome_iff_ne_none]
          | _ => simp [actionFault?, ho, NamesUnknownAction, held, ha]
      | _ => simp [actionFault?, ho, NamesUnknownAction, Value.get]

theorem actionFault?_eq_some {node : Value} {fault : LogicFault} :
    actionFault? node = some fault ↔
      operation? node = none ∧ ∃ name, node.get "action" = .str name ∧ name ≠ "" ∧
        (∀ a : ActionType, a.name ≠ name) ∧ fault = .unknownAction name := by
  constructor
  · intro h
    unfold actionFault? at h
    split at h
    · rename_i entries literal
      split at h
      · rename_i name held
        split at h <;> cases h
        rename_i passed
        simp only [Bool.or_eq_true, beq_iff_eq, not_or, Bool.not_eq_true, Option.isSome_eq_false_iff,
          Option.isNone_iff_eq_none] at passed
        exact ⟨literal, name, held, passed.1, ActionType.ofName?_eq_none.mp passed.2, rfl⟩
      · cases h
    · cases h
  · rintro ⟨literal, name, held, nonempty, unknown, rfl⟩
    cases node with
    | object entries =>
        change Entries.get entries "action" = .str name at held
        simp [actionFault?, literal, held, nonempty, ActionType.ofName?_eq_none.mpr unknown]
    | _ => cases held

/-- A tree passes the check of actions if and only if no literal of it names an unknown action. -/
theorem checkActions_eq_ok {tree : Value} :
    checkActions tree = .ok () ↔
      ∀ node, Occurs node tree → operation? node = none → ¬ node.NamesUnknownAction := by
  rw [checkActions, checkNodes_eq_ok]
  exact forall_congr' fun node => imp_congr_right fun _ => actionFault?_eq_none

/-! ### Results of checked trees -/

/-- **A checked tree invents no action.**  An object that comes of an evaluation is a literal object
that the check of actions has visited, or a part of the context.  So a tree that passes the check, in
a context of which no part names an unknown action, has no result that cannot be read as an action or
as none. -/
theorem checked_result_is_read [Levels] :
    (∀ tree context entries,
      eval (contextOf context) tree = .ok (.object entries) ∨
          evaluate tree context = .ok (.object entries) →
        (.object entries ∈ walk [tree] ∧ operation? (.object entries) = none) ∨
          Part (.object entries) (contextOf context)) ∧
    (∀ tree context v, checkActions tree = .ok () →
      (∀ part, Part part context → ¬ part.NamesUnknownAction) →
      eval (contextOf context) tree = .ok v ∨ evaluate tree context = .ok v →
        ∃ action?, Action.ofResult? v = .ok action?) := by
  have stated : ∀ {tree context v},
      eval (contextOf context) tree = .ok v ∨ evaluate tree context = .ok v →
        eval (contextOf context) tree = .ok v := fun h => h.elim id evaluate_eq_ok
  constructor
  · intro tree context entries h
    refine (eval_object (stated h)).imp_left fun found => ⟨?_, found.2⟩
    exact mem_walk.mpr ⟨tree, List.mem_cons_self, found.1⟩
  · intro tree context v checked known h
    apply Action.ofResult?_of_known
    rintro ⟨name, hname, hu⟩
    cases v with
    | object entries =>
        rcases eval_object (stated h) with ⟨found, literal⟩ | part
        · exact checkActions_eq_ok.mp checked _ found literal ⟨name, hname, hu⟩
        · refine known _ ?_ ⟨name, hname, hu⟩
          cases context with
          | null =>
              cases part with
              | whole => cases hname
              | entry he _ => cases he
          | _ => exact part
    | _ => cases hname

/-- Follows the decision of an officer, if there is one; without one an order is looked at. -/
def deferringRule : Value :=
  .object [("if", .list [
    .object [("var", .str "reviewed")],
    .object [("var", .list [
      .str "decision", .object [("action", .str "FLAG_FOR_REVIEW"), ("config", .null)]])],
    .object [("action", .str "AUTO_APPROVE"), ("config", .object [])]])]

/-- The decision of an officer. -/
def decision : Value :=
  .object [("action", .str "FREEZE_ORDER"), ("config", .object [("days", .int 2)])]

/-- An event with that decision. -/
def decidedEvent : Value := .object [("reviewed", .bool true), ("decision", decision)]

theorem checked_result_is_read_deferringRule :
    evaluate deferringRule decidedEvent = .ok decision ∧ decision ∉ walk [deferringRule] ∧
      Part decision decidedEvent ∧
      ∃ action?, Action.ofResult? decision = .ok action? := by
  have checked : checkActions deferringRule = .ok () := by
    simp only [checkActions, checkNodes, deferringRule, walk, children, operandsOf,
      List.reverse_cons, List.reverse_nil, List.nil_append, List.cons_append]
    rfl
  have known : ∀ part, Part part decidedEvent → ¬ part.NamesUnknownAction := by
    intro part hp
    simp (disch := decide) only [decidedEvent, decision, part_object_iff, part_atom_iff,
      List.mem_cons, List.not_mem_nil, or_false, exists_eq_or_imp, exists_eq_left] at hp
    rintro ⟨name, hname, -, hu⟩
    rcases hp with rfl | rfl | rfl | rfl | rfl | rfl <;> cases hname
    exact hu .freezeOrder rfl
  have decides : evaluate deferringRule decidedEvent = .ok decision := by
    rw [evaluate_eq, if_neg (by decide +kernel)]
    rfl
  have elsewhere : decision ∉ walk [deferringRule] := by
    simp [deferringRule, decision, walk, children, operandsOf]
  obtain ⟨origin, readable⟩ := checked_result_is_read
  have found := origin deferringRule decidedEvent _ (.inr decides)
  exact ⟨decides, elsewhere, found.resolve_left fun visited => elsewhere visited.1,
    readable _ _ _ checked known (.inr decides)⟩

end Rule

end TriggerFlow
