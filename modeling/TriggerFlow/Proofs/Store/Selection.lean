import Mathlib.Data.List.Perm.Subperm

/-! # The first items of a rank

A query filters the rows of a table, sorts what is left and cuts it off.  If the rank is a total preorder,
what it gives is the first items of those that pass (`selects_take`): as many as there are and the cut
allows, in their rank, none of them more often than in the table, and none left out that goes before. -/

namespace TriggerFlow.Store

variable {α β : Type} {p : α → Bool} {le : α → α → Bool} {n : Nat} {items selected : List α}

/-- The first `n` of the items that pass, in their rank. -/
structure Selects (p : α → Bool) (le : α → α → Bool) (n : Nat) (items selected : List α) : Prop where
  passes : ∀ x ∈ selected, x ∈ items ∧ p x = true
  length : selected.length = min n (items.countP p)
  ranked : selected.Pairwise fun x y => le x y = true
  first : ∀ x ∈ items, p x = true → x ∉ selected → ∀ y ∈ selected, le y x = true
  within : selected.Subperm items

/-- A key of the items is one of the selected items too. -/
theorem Selects.nodup_map (h : Selects p le n items selected) {key : α → β}
    (distinct : (items.map key).Nodup) : (selected.map key).Nodup := by
  obtain ⟨order, perm, sub⟩ := h.within
  exact (perm.map key).nodup_iff.mp (distinct.sublist (sub.map key))

theorem selects_take (trans : ∀ x y z, le x y = true → le y z = true → le x z = true)
    (total : ∀ x y, (le x y || le y x) = true) (items : List α) (n : Nat) :
    Selects p le n items (((items.filter p).mergeSort le).take n) := by
  have perm : ((items.filter p).mergeSort le).Perm (items.filter p) := List.mergeSort_perm _ _
  have mem : ∀ x, x ∈ (items.filter p).mergeSort le ↔ x ∈ items ∧ p x = true := fun x =>
    perm.mem_iff.trans List.mem_filter
  have ranked := List.pairwise_mergeSort trans total (items.filter p)
  have parts := List.take_append_drop n ((items.filter p).mergeSort le)
  refine ⟨fun x hx => (mem x).mp (List.mem_of_mem_take hx), ?_,
    ranked.sublist (List.take_sublist n _), ?_, ?_⟩
  · rw [List.length_take, perm.length_eq, List.countP_eq_length_filter]
  · intro x hx hp left y hy
    have later : x ∈ ((items.filter p).mergeSort le).drop n := by
      have all := (mem x).mpr ⟨hx, hp⟩
      rw [← parts] at all
      exact (List.mem_append.mp all).resolve_left left
    rw [← parts] at ranked
    exact (List.pairwise_append.mp ranked).2.2 y hy x later
  · exact ((List.take_sublist n _).subperm.trans perm.subperm).trans List.filter_sublist.subperm

end TriggerFlow.Store
