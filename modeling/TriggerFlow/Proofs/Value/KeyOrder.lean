import Mathlib.Data.List.Forall2
import TriggerFlow.Proofs.Value.Parts

/-! # The order of keys

An object lists its entries in some order, which is none of its data.  Two values are reordered if
they are the same but for the order of the entries in their objects, at any depth, each object having
each of its keys once (`Reordered`).  Everything that looks at a value without listing its entries
sees no difference: its kind, its number, its truth, its nesting, its entry under a key
(`Reordered.get`), and its equality with another value (`Reordered.same_eq`). -/

namespace TriggerFlow.Value

mutual

/-- The same value with the entries of its objects in another order.  Every object has each of its
keys once. -/
inductive Reordered : Value → Value → Prop
  | atom {v : Value} : v.nesting = 0 → Reordered v v
  | list {xs ys : List Value} : List.Forall₂ Reordered xs ys → Reordered (.list xs) (.list ys)
  | object {xs ys zs : Entries} : (xs.map Prod.fst).Nodup → List.Forall₂ ReorderedEntry xs ys →
      ys.Perm zs → Reordered (.object xs) (.object zs)

/-- The same key with the same value in another order. -/
inductive ReorderedEntry : String × Value → String × Value → Prop
  | entry {key : String} {v w : Value} : Reordered v w → ReorderedEntry (key, v) (key, w)

end

variable {v w a b : Value} {xs ys zs : Entries} {items others : List Value} {key : String}

/-- Related values under the same key. -/
def UnderSameKey (related : Value → Value → Prop) (e f : String × Value) : Prop :=
  e.1 = f.1 ∧ related e.2 f.2

/-- Induction on two reordered values, from their items and entries to the whole. -/
@[elab_as_elim]
theorem reordered_induction {motive : Value → Value → Prop}
    (atom : ∀ v, v.nesting = 0 → motive v v)
    (list : ∀ xs ys, List.Forall₂ Reordered xs ys → List.Forall₂ motive xs ys →
      motive (.list xs) (.list ys))
    (object : ∀ xs ys zs : Entries, (xs.map Prod.fst).Nodup →
      List.Forall₂ (UnderSameKey Reordered) xs ys → List.Forall₂ (UnderSameKey motive) xs ys →
      ys.Perm zs → motive (.object xs) (.object zs))
    (h : v.Reordered w) : motive v w := by
  have entries_eq {xs ys : Entries} (entries : List.Forall₂ ReorderedEntry xs ys) :
      List.Forall₂ (UnderSameKey Reordered) xs ys :=
    entries.imp fun _ _ h => by
      cases h with
      | entry h => exact ⟨rfl, h⟩
  exact @Reordered.rec (fun v w _ => motive v w) (fun e f _ => UnderSameKey motive e f)
    (fun xs ys _ => List.Forall₂ motive xs ys)
    (fun xs ys _ => List.Forall₂ (UnderSameKey motive) xs ys)
    (fun h => atom _ h) (fun items ih => list _ _ items ih)
    (fun keys entries order ih => object _ _ _ keys (entries_eq entries) ih order)
    (fun _ ih => ⟨rfl, ih⟩) .nil (fun _ _ head tail => .cons head tail)
    .nil (fun _ _ head tail => .cons head tail) v w h

/-- A value in which no object has a key twice is a reordering of itself. -/
theorem WellKeyed.reordered {v : Value} (h : v.WellKeyed) : v.Reordered v :=
  match v with
  | .null | .bool _ | .int _ | .float _ | .str _ => .atom rfl
  | .list items => .list (List.forall₂_same.mpr fun _ hi => (h.item hi).reordered)
  | .object entries =>
      .object h.keys (List.forall₂_same.mpr fun _ he => .entry (h.entry he).reordered) (.refl _)
termination_by v.nesting
decreasing_by
  · exact nesting_item hi
  · exact nesting_entry he

/-- The entries of such an object may come in any order. -/
theorem WellKeyed.reordered_perm (h : (Value.object xs).WellKeyed) (order : xs.Perm ys) :
    (Value.object xs).Reordered (.object ys) :=
  .object h.keys (List.forall₂_same.mpr fun _ he => .entry (h.entry he).reordered) order

/-! ### What the order does not change -/

theorem Reordered.kind_eq (h : v.Reordered w) : v.kind = w.kind := by
  cases h <;> rfl

theorem Reordered.isNull_eq (h : v.Reordered w) : v.isNull = w.isNull := by
  cases h <;> rfl

theorem Reordered.number?_eq (h : v.Reordered w) : v.number? = w.number? := by
  cases h <;> rfl

theorem Reordered.truthy_eq (h : v.Reordered w) : v.truthy = w.truthy := by
  cases h with
  | atom => rfl
  | list items => cases items <;> rfl
  | object _ entries order =>
      rw [truthy, truthy]
      cases entries with
      | nil => rw [order.nil_eq]
      | cons => rw [order.symm.isEmpty_eq]; rfl

theorem nestingItems_eq (h : List.Forall₂ (fun v w => nesting v = nesting w) items others) :
    nestingItems items = nestingItems others := by
  induction h with
  | nil => rfl
  | cons head _ ih => rw [nestingItems, nestingItems, head, ih]

theorem nestingEntries_eq (h : List.Forall₂ (UnderSameKey fun v w => nesting v = nesting w) xs ys) :
    nestingEntries xs = nestingEntries ys := by
  induction h with
  | nil => rfl
  | cons head _ ih => rw [nestingEntries, nestingEntries, head.2, ih]

theorem nestingEntries_perm (h : xs.Perm ys) : nestingEntries xs = nestingEntries ys := by
  induction h with
  | nil => rfl
  | cons e _ ih => rw [nestingEntries, nestingEntries, ih]
  | swap e f rest =>
      simp only [nestingEntries]
      omega
  | trans _ _ ih ih' => exact ih.trans ih'

theorem Reordered.nesting_eq (h : v.Reordered w) : v.nesting = w.nesting := by
  refine reordered_induction ?_ ?_ ?_ h
  · intro v _
    rfl
  · intro items others _ ih
    rw [nesting, nesting, nestingItems_eq ih]
  · intro xs ys zs _ _ ih order
    rw [nesting, nesting, nestingEntries_eq ih, nestingEntries_perm order]

/-! ### Looking up -/

theorem lookup_perm (keys : (xs.map Prod.fst).Nodup) (order : xs.Perm ys) :
    xs.lookup key = ys.lookup key := by
  ext v
  rw [lookup_eq_some_iff keys, lookup_eq_some_iff ((order.map Prod.fst).nodup_iff.mp keys),
    order.mem_iff]

theorem keys_eq {related : Value → Value → Prop} (h : List.Forall₂ (UnderSameKey related) xs ys) :
    xs.map Prod.fst = ys.map Prod.fst := by
  induction h with
  | nil => rfl
  | cons head _ ih => rw [List.map_cons, List.map_cons, head.1, ih]

theorem lookup_rel {related : Value → Value → Prop}
    (h : List.Forall₂ (UnderSameKey related) xs ys) :
    Option.Rel related (xs.lookup key) (ys.lookup key) := by
  induction h with
  | nil => exact .none
  | @cons e f _ _ head _ ih =>
      obtain ⟨k, v⟩ := e
      obtain ⟨l, w⟩ := f
      obtain ⟨rfl, head⟩ := head
      rw [List.lookup_cons, List.lookup_cons]
      cases key == k with
      | true => exact .some head
      | false => exact ih

/-- The entries of reordered objects under a key are reordered, if there are any. -/
theorem lookup_reordered {related : Value → Value → Prop} (keys : (xs.map Prod.fst).Nodup)
    (entries : List.Forall₂ (UnderSameKey related) xs ys) (order : ys.Perm zs) (key : String) :
    Option.Rel related (xs.lookup key) (zs.lookup key) := by
  rw [← lookup_perm (keys_eq entries ▸ keys) order]
  exact lookup_rel entries

theorem Reordered.entries (h : (Value.object xs).Reordered (.object zs)) :
    (xs.map Prod.fst).Nodup ∧
      ∃ ys : Entries, List.Forall₂ (UnderSameKey Reordered) xs ys ∧ ys.Perm zs := by
  cases h with
  | atom h => cases h
  | @object _ ys _ keys entries order =>
      exact ⟨keys, ys, entries.imp fun _ _ h => by cases h with | entry h => exact ⟨rfl, h⟩, order⟩

theorem Reordered.get (h : (Value.object xs).Reordered (.object zs)) (key : String) :
    (Entries.get xs key).Reordered (Entries.get zs key) := by
  obtain ⟨keys, ys, entries, order⟩ := h.entries
  have found := lookup_reordered keys entries order key
  unfold Entries.get
  generalize xs.lookup key = x, zs.lookup key = z at found ⊢
  cases found with
  | none => exact .atom rfl
  | some h => exact h

/-! ### Equality -/

theorem sameItems_eq (h : List.Forall₂ (fun v w => ∀ a b, a.Reordered b → v.alike a = w.alike b)
    items others) {us vs : List Value} (given : List.Forall₂ Reordered us vs) :
    sameItems items us = sameItems others vs := by
  induction h generalizing us vs with
  | nil => cases given <;> rfl
  | cons head _ ih =>
      cases given with
      | nil => rfl
      | cons first rest =>
          rw [sameItems, sameItems, ih rest]
          exact congrArg (· && _) (head _ _ first)

theorem sameEntries_eq
    (h : List.Forall₂ (UnderSameKey fun v w => ∀ a b, a.Reordered b → v.alike a = w.alike b) xs ys)
    {us vs : Entries} (given : ∀ key, Option.Rel Reordered (us.lookup key) (vs.lookup key)) :
    sameEntries xs us = sameEntries ys vs := by
  induction h with
  | nil => rfl
  | @cons e f _ _ head _ ih =>
      obtain ⟨k, v⟩ := e
      obtain ⟨l, w⟩ := f
      obtain ⟨rfl, head⟩ := head
      have found := given k
      rw [sameEntries, sameEntries, ih]
      generalize us.lookup k = x, vs.lookup k = y at found ⊢
      cases found with
      | none => rfl
      | some found => exact congrArg (· && _) (head _ _ found)

theorem sameEntries_eq_true :
    sameEntries xs ys = true ↔ ∀ e ∈ xs, ∃ y, ys.lookup e.1 = some y ∧ e.2.alike y = true := by
  induction xs with
  | nil => simp [sameEntries]
  | cons e rest ih =>
      obtain ⟨k, x⟩ := e
      rw [sameEntries, Bool.and_eq_true, ih, List.forall_mem_cons]
      cases ys.lookup k <;> simp [alike]

theorem sameEntries_perm (h : xs.Perm ys) : sameEntries xs zs = sameEntries ys zs := by
  rw [Bool.eq_iff_iff, sameEntries_eq_true, sameEntries_eq_true]
  simp only [h.mem_iff]

/-- An atom is like no list and no object. -/
theorem alike_of_atom (atom : v.nesting = 0) (container : w.nesting ≠ 0) : v.alike w = false := by
  cases v with
  | list | object => cases atom
  | float x =>
      cases w with
      | list | object => rcases x with (_ | _) | _ | _ <;> rfl
      | _ => exact absurd rfl container
  | _ =>
      cases w with
      | list | object => rfl
      | _ => exact absurd rfl container

theorem Reordered.alike_eq (h : v.Reordered w) : ∀ a b, a.Reordered b → v.alike a = w.alike b := by
  refine reordered_induction ?_ ?_ ?_ h
  · intro v hv a b hab
    cases hab with
    | atom => rfl
    | list | object =>
        rw [alike_of_atom hv (by simp [nesting]), alike_of_atom hv (by simp [nesting])]
  · intro items others _ ih a b hab
    cases hab with
    | @atom a ha => cases a <;> first | rfl | cases ha
    | list given => exact sameItems_eq ih given
    | object => rfl
  · intro xs ys zs keys _ ih order a b hab
    cases hab with
    | @atom a ha => cases a <;> first | rfl | cases ha
    | list => rfl
    | @object us vs ws keys' entries' order' =>
        obtain ⟨-, vs, given, order'⟩ := Reordered.entries (.object keys' entries' order')
        change (_ && _) = (_ && _)
        rw [ih.length_eq, order.length_eq, given.length_eq, order'.length_eq,
          sameEntries_eq ih (lookup_reordered keys' given order'), sameEntries_perm order]

/-- Equality compares the data of two values, on whichever side their order is changed. -/
theorem Reordered.same_eq (h : v.Reordered w) (h' : a.Reordered b) : v.same a = w.same b := by
  cases h with
  | atom hv =>
      cases h' with
      | atom => rfl
      | list | object => cases v <;> first | rfl | cases hv
  | list items => exact Reordered.alike_eq (.list items) a b h'
  | object keys entries order => exact Reordered.alike_eq (.object keys entries order) a b h'

end TriggerFlow.Value
