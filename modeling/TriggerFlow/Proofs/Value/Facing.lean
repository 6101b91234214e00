import Mathlib.Data.List.Perm.Subperm
import TriggerFlow.Proofs.Value.KeyOrder
import TriggerFlow.Proofs.Value.Limits

/-! # What stands in the same place

Two lists hold items at the same index, two objects values under the same key (`Facing`).  Two
containers are the same if they have the same shape and what they hold is alike pair by pair
(`same_iff_facing`).  Comparing such a pair takes fewer levels than comparing containers that are the
same (`Facing.tooDeep`). -/

namespace TriggerFlow.Value

/-- What two containers hold at the same place. -/
inductive Facing (v w : Value) : Value → Value → Prop
  | items {xs ys : List Value} {i : Nat} : xs[i]? = some v → ys[i]? = some w →
      Facing v w (.list xs) (.list ys)
  | entries {es fs : Entries} {key : String} : es.lookup key = some v → fs.lookup key = some w →
      Facing v w (.object es) (.object fs)

/-- Two lists of the same length, or two objects with the same keys. -/
inductive SameShape : Value → Value → Prop
  | lists {xs ys : List Value} : xs.length = ys.length → SameShape (.list xs) (.list ys)
  | objects {es fs : Entries} : (∀ key, key ∈ es.map Prod.fst ↔ key ∈ fs.map Prod.fst) →
      SameShape (.object es) (.object fs)

variable {v w a b : Value} {xs ys : List Value} {es fs : Entries} {key : String}

/-- Two lists have the same shape and face each other with related items exactly if these are related
in order. -/
theorem forall₂_iff_facing {related : Value → Value → Prop} :
    List.Forall₂ related xs ys ↔
      SameShape (.list xs) (.list ys) ∧
        ∀ v w, Facing v w (.list xs) (.list ys) → related v w := by
  rw [List.forall₂_iff_get]
  constructor
  · rintro ⟨length, items⟩
    refine ⟨.lists length, ?_⟩
    rintro v w (⟨hv, hw⟩ | _)
    obtain ⟨hx, rfl⟩ := List.getElem?_eq_some_iff.mp hv
    obtain ⟨hy, rfl⟩ := List.getElem?_eq_some_iff.mp hw
    exact items _ hx hy
  · rintro ⟨⟨length⟩, facing⟩
    exact ⟨length, fun i hx hy =>
      facing _ _ (.items (List.getElem?_eq_getElem hx) (List.getElem?_eq_getElem hy))⟩

/-! ### What faces each other is a part -/

theorem Facing.part (h : Facing v w a b) : Part v a ∧ Part w b := by
  cases h with
  | items hv hw =>
      exact ⟨.item (List.mem_of_getElem? hv) .whole, .item (List.mem_of_getElem? hw) .whole⟩
  | entries hv hw => exact ⟨.entry (mem_of_lookup hv) .whole, .entry (mem_of_lookup hw) .whole⟩

theorem Facing.nesting_lt (h : Facing v w a b) : v.nesting < a.nesting ∧ w.nesting < b.nesting := by
  cases h with
  | items hv hw =>
      exact ⟨nesting_item (List.mem_of_getElem? hv), nesting_item (List.mem_of_getElem? hw)⟩
  | entries hv hw => exact ⟨nesting_entry (mem_of_lookup hv), nesting_entry (mem_of_lookup hw)⟩

/-! ### Sameness -/

theorem sameItems_iff : sameItems xs ys = true ↔ List.Forall₂ (fun v w => v.alike w = true) xs ys := by
  induction xs generalizing ys with
  | nil => cases ys <;> simp [sameItems]
  | cons x xs ih =>
      cases ys with
      | nil => simp [sameItems]
      | cons y ys =>
          rw [sameItems, Bool.and_eq_true, ih, List.forall₂_cons]
          rfl

/-- As many keys, each of which the other object has, are the same keys. -/
theorem sameKeys_iff (keys : (es.map Prod.fst).Nodup) (keys' : (fs.map Prod.fst).Nodup) :
    (∀ key, key ∈ es.map Prod.fst ↔ key ∈ fs.map Prod.fst) ↔
      es.length = fs.length ∧ ∀ key ∈ es.map Prod.fst, key ∈ fs.map Prod.fst := by
  rw [← List.perm_ext_iff_of_nodup keys keys']
  constructor
  · intro h
    exact ⟨by simpa using h.length_eq, fun key => h.mem_iff.mp⟩
  · rintro ⟨length, subset⟩
    exact (List.subperm_of_subset keys subset).perm_of_length_le (by simp [length])

theorem same_object_iff (keys : (es.map Prod.fst).Nodup) (keys' : (fs.map Prod.fst).Nodup) :
    (Value.object es).same (.object fs) = true ↔
      SameShape (.object es) (.object fs) ∧
        ∀ v w, Facing v w (.object es) (.object fs) → v.alike w = true := by
  rw [same, Bool.and_eq_true, beq_iff_eq, sameEntries_eq_true]
  constructor
  · rintro ⟨length, found⟩
    refine ⟨.objects ((sameKeys_iff keys keys').mpr ⟨length, ?_⟩), ?_⟩
    · intro key hkey
      obtain ⟨e, he, rfl⟩ := List.mem_map.mp hkey
      obtain ⟨w, hw, -⟩ := found e he
      exact List.mem_map.mpr ⟨_, mem_of_lookup hw, rfl⟩
    · rintro v w (_ | ⟨hv, hw⟩)
      obtain ⟨w', hw', alike⟩ := found _ (mem_of_lookup hv)
      rw [hw] at hw'
      cases hw'
      exact alike
  · rintro ⟨⟨_⟩ | ⟨same_keys⟩, facing⟩
    obtain ⟨length, subset⟩ := (sameKeys_iff keys keys').mp same_keys
    refine ⟨length, fun e he => ?_⟩
    obtain ⟨f, hf, hkey⟩ := List.mem_map.mp (subset _ (List.mem_map_of_mem he))
    have hw : fs.lookup e.1 = some f.2 := (lookup_eq_some_iff keys').mpr (hkey ▸ hf)
    exact ⟨f.2, hw, facing _ _ (.entries ((lookup_eq_some_iff keys).mpr he) hw)⟩

/-- Containers are the same if they have the same shape and hold what is alike, pair by pair. -/
theorem same_iff_facing (first : a.WellKeyed) (second : b.WellKeyed)
    (container : a.kind = .list ∨ a.kind = .object) :
    a.same b = true ↔ SameShape a b ∧ ∀ v w, Facing v w a b → v.alike w = true := by
  have other (h : a.same b = false) (shape : ¬ SameShape a b) :
      a.same b = true ↔ SameShape a b ∧ ∀ v w, Facing v w a b → v.alike w = true := by
    simp [h, shape]
  cases a with
  | list xs =>
      cases b with
      | list ys =>
          rw [same, sameItems_iff, forall₂_iff_facing]
      | _ => exact other rfl (by rintro ⟨⟩)
  | object es =>
      cases b with
      | object fs =>
          rw [same_object_iff first.keys second.keys]
      | _ => exact other rfl (by rintro ⟨⟩)
  | _ => rcases container with h | h <;> cases h

/-! ### Levels -/

theorem comparedDepth_item {i : Nat} (same : sameItems xs ys = true) (hv : xs[i]? = some v)
    (hw : ys[i]? = some w) : comparedDepth v w ≤ comparedItems xs ys := by
  induction xs generalizing ys i with
  | nil => cases hv
  | cons x xs ih =>
      cases ys with
      | nil => cases hw
      | cons y ys =>
          obtain ⟨head, tail⟩ : x.alike y = true ∧ sameItems xs ys = true :=
            Bool.and_eq_true_iff.mp same
          rw [comparedItems, if_pos head]
          cases i with
          | zero =>
              cases hv
              cases hw
              exact Nat.le_max_left _ _
          | succ i => exact Nat.le_trans (ih tail hv hw) (Nat.le_max_right _ _)

theorem comparedEntries_cons {x y : Value} (found : fs.lookup key = some y)
    (alike : x.alike y = true) :
    comparedEntries ((key, x) :: es) fs = max (comparedDepth x y) (comparedEntries es fs) := by
  simp only [comparedEntries, found, alike, if_true]

theorem comparedDepth_entry (same : sameEntries es fs = true) (hv : es.lookup key = some v)
    (hw : fs.lookup key = some w) : comparedDepth v w ≤ comparedEntries es fs := by
  induction es with
  | nil => cases hv
  | cons e rest ih =>
      obtain ⟨k, x⟩ := e
      obtain ⟨head, tail⟩ := Bool.and_eq_true_iff.mp same
      cases found : fs.lookup k with
      | none =>
          rw [found] at head
          cases head
      | some y =>
          rw [found] at head
          rw [List.lookup_cons] at hv
          rw [comparedEntries_cons found head]
          cases hkey : key == k with
          | true =>
              obtain rfl := beq_iff_eq.mp hkey
              rw [hkey] at hv
              rw [hw] at found
              cases hv
              cases found
              exact Nat.le_max_left _ _
          | false =>
              rw [hkey] at hv
              exact Nat.le_trans (ih tail hv) (Nat.le_max_right _ _)

theorem Facing.comparedDepth_lt (h : Facing v w a b) (alike : a.same b = true) :
    comparedDepth v w < comparedDepth a b := by
  cases h with
  | items hv hw =>
      rw [same] at alike
      have length := (sameItems_iff.mp alike).length_eq
      rw [comparedDepth, if_pos (beq_iff_eq.mpr length)]
      exact Nat.lt_succ_of_le (comparedDepth_item alike hv hw)
  | entries hv hw =>
      rw [same, Bool.and_eq_true] at alike
      rw [comparedDepth, if_pos alike.1]
      exact Nat.lt_succ_of_le (comparedDepth_entry alike.2 hv hw)

/-- Where the levels suffice for containers that are the same, they do for what these hold. -/
theorem Facing.tooDeep [Levels] (h : Facing v w a b) (alike : a.same b = true)
    (deep : ComparesTooDeep v w) : ComparesTooDeep a b :=
  ⟨Nat.lt_trans deep.1 h.nesting_lt.1, Nat.lt_trans deep.2.1 h.nesting_lt.2,
    Nat.lt_trans deep.2.2 (h.comparedDepth_lt alike)⟩

end TriggerFlow.Value
