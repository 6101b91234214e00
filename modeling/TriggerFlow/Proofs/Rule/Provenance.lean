import TriggerFlow.Proofs.Rule.Operation
import TriggerFlow.Proofs.Rule.Tree
import TriggerFlow.Proofs.Value.Parts

/-! # Where results come from

Evaluation makes truth values, numbers and lists, but no objects: an object that comes of an evaluation
was a literal of the tree or a part of the context (`eval_object`).  Thus it can be encoded if both of
them can (`evaluate_encodable`). -/

namespace TriggerFlow

open Outcome Value

namespace Rule

variable {context : Value} {entries : Entries}

/-! ### Paths -/

theorem descend_part {segment : String} {v w : Value} (h : descend segment v = .ok w) :
    w = .null ∨ Part w v := by
  cases v with
  | object inner =>
      cases h
      exact get_eq_null_or_part (.object inner) segment
  | list items =>
      rw [descend] at h
      split at h
      · obtain ⟨index, -, h⟩ := bind_eq_ok.mp h
        cases h
        rw [List.getD_eq_getElem?_getD]
        rcases hitem : items[index]? with _ | item
        · exact .inl rfl
        · exact .inr (.item (List.mem_of_getElem? hitem) .whole)
      · cases h
        exact .inl rfl
  | _ =>
      cases h
      exact .inl rfl

/-- A path leads to a part, if anywhere. -/
theorem resolve_part {path : List String} {v w : Value} (h : resolve v path = .ok w) :
    w = .null ∨ Part w v := by
  induction path generalizing v with
  | nil =>
      cases h
      exact .inr .whole
  | cons segment rest ih =>
      obtain ⟨next, hnext, h⟩ := bind_eq_ok.mp h
      split at h
      · cases h
        exact .inl rfl
      · rename_i hnull
        rcases descend_part hnext with rfl | hpart
        · exact (hnull rfl).elim
        · exact (ih h).imp_right fun hp => hp.trans hpart

theorem readPath_object {fallback : Value} {path : String}
    (h : readPath context fallback path = .ok (.object entries)) :
    .object entries = fallback ∨ Part (.object entries) context := by
  unfold readPath at h
  rcases hfound : resolve context (segments path) with cause | v
  · rw [hfound] at h
    cases h
  · rw [hfound] at h
    replace h := Except.ok.inj h
    split at h
    · exact .inl h.symm
    · rw [h] at hfound
      exact .inr ((resolve_part hfound).resolve_left nofun)

theorem variableAt_object {path fallback : Value}
    (h : variableAt context path fallback = .ok (.object entries)) :
    .object entries = fallback ∨ Part (.object entries) context := by
  cases path with
  | null =>
      cases h
      exact .inr .whole
  | str path =>
      rw [variableAt_str] at h
      split at h
      · cases h
        exact .inr .whole
      · exact readPath_object h
  | int n =>
      rw [variableAt_int] at h
      split at h
      · cases h
      · exact readPath_object h
  | _ => cases h

/-! ### Operations -/

theorem decided_ne_object {answer : Except Breakdown Bool} :
    decided answer ≠ .ok (.object entries) := by
  cases answer <;> simp [decided]

theorem arithmetic_ne_object {op : Operator} {vs : List Value} :
    arithmetic op vs ≠ .ok (.object entries) := by
  intro h
  unfold arithmetic at h
  split at h
  · cases h
  · obtain ⟨ns, -, h⟩ := bind_eq_ok.mp h
    obtain ⟨xs, -, h⟩ := bind_eq_ok.mp h
    obtain ⟨x, -, h⟩ := bind_eq_ok.mp h
    cases h

/-- An operator that needs all its operands gives an object only as one of them or from the
context. -/
theorem compute_object {op : Operator} {vs : List Value}
    (h : compute op context vs = .ok (.object entries)) :
    .object entries ∈ vs ∨ Part (.object entries) context := by
  unfold compute at h
  split at h
  case h_1 | h_2 => exact .inr ((variableAt_object h).resolve_left nofun)
  case h_3 path fallback =>
    refine (variableAt_object h).imp_left fun heq => ?_
    rw [heq]
    exact List.mem_cons_of_mem _ List.mem_cons_self
  all_goals try exact absurd h decided_ne_object
  case h_14 | h_15 => cases h
  case h_18 =>
    split at h
    · exact absurd h arithmetic_ne_object
    · cases h

end Rule

theorem Operator.apply_object {op : Operator} {context : Value} {entries : Entries}
    {outcomes : List Outcome} (h : op.apply context outcomes = .ok (.object entries)) :
    .ok (.object entries) ∈ outcomes ∨ Part (.object entries) context := by
  cases hl : op.isLazy with
  | true =>
      left
      have chosen := op.apply_of_lazy hl context outcomes
      rw [h] at chosen
      exact chosen.resolve_left nofun
  | false =>
      rw [op.apply_of_strict hl] at h
      obtain ⟨vs, hvs, h⟩ := bind_eq_ok.mp h
      rw [Rule.collect_eq_ok] at hvs
      refine (Rule.compute_object h).imp_left fun hmem => ?_
      rw [hvs]
      exact List.mem_map_of_mem hmem

namespace Rule

variable {context : Value} {entries : Entries}

/-! ### Trees -/

theorem part_of_child {child tree part : Value} (hc : child ∈ children tree)
    (h : Part part child) : Part part tree := by
  rcases node_cases tree with ⟨items, rfl⟩ | ⟨symbol, operands, ht⟩ | hl
  · exact .item hc h
  · obtain ⟨v, rfl, rfl⟩ := operation?_eq_some.mp ht
    refine .entry List.mem_cons_self ?_
    cases v with
    | list items => exact .item hc h
    | null | bool | int | float | str | object =>
        cases List.mem_singleton.mp hc
        exact h
  · rw [children_literal hl] at hc
    cases hc

/-- A node of a tree is a part of it. -/
theorem Occurs.part {node tree : Value} (h : Occurs node tree) : Part node tree := by
  induction h with
  | here => exact .whole
  | inside hc _ ih => exact part_of_child hc ih

/-- **Evaluation makes no objects.**  Each one is a literal of the tree or a part of the context. -/
theorem eval_object {tree : Value} (h : eval context tree = .ok (.object entries)) :
    (Occurs (.object entries) tree ∧ operation? (.object entries) = none) ∨
      Part (.object entries) context := by
  induction tree using tree_induction with
  | list items ih =>
      rw [eval_list, map_eq_ok] at h
      obtain ⟨vs, -, h⟩ := h
      cases h
  | operation tree symbol operands ht ih =>
      rw [eval_operation context ht, operate] at h
      split at h
      · rcases Operator.apply_object h with hmem | hpart
        · obtain ⟨operand, ho, hv⟩ := List.mem_map.mp hmem
          exact (ih operand ho hv).imp_left fun found => ⟨found.1.operand ht ho, found.2⟩
        · exact .inr hpart
      · cases h
  | literal tree hl =>
      rw [eval_literal context hl] at h
      cases h
      exact .inl ⟨.here, operation?_literal hl⟩

theorem evaluate_eq_ok [Levels] {tree context v : Value} (h : evaluate tree context = .ok v) :
    eval (contextOf context) tree = .ok v := by
  rcases evaluate_cases context tree with heq | ⟨descent, heq⟩
  · exact heq ▸ h
  · rw [heq] at h
    cases h

/-- An object that comes of a tree and a context which can be encoded can be encoded. -/
theorem evaluate_encodable [Levels] {tree : Value} {given : Entries} (htree : tree.Encodable)
    (hcontext : (Value.object given).Encodable)
    (h : evaluate tree (.object given) = .ok (.object entries)) :
    (Value.object entries).Encodable := by
  rcases eval_object (evaluate_eq_ok h) with ⟨found, -⟩ | hpart
  · exact found.part.encodable htree
  · exact hpart.encodable hcontext

end Rule

end TriggerFlow
