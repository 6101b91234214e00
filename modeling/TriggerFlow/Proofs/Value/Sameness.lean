import TriggerFlow.Proofs.Number.Order
import TriggerFlow.Proofs.Value.Facing

/-! # Sameness is an equivalence

Where no object has a key twice, two values are the same if each is the same as the other
(`same_symm`), and what is the same as the same is the same (`same_trans`); so it is with what is
alike.  A value in which nothing is not-a-number is the same as itself (`same_self`).  Values that are
the same nest as deeply (`nesting_eq_of_same`), and comparing them goes all the way down
(`tooDeep_iff_of_same`). -/

namespace TriggerFlow.Value

variable {u v w a b c : Value} {xs : List Value} {es : Entries} {key : String} {m n : Number}

theorem NaNFree.quantity (h : NaNFree v) (hm : v.quantity? = some m) : m.isNaN = false := by
  cases v with
  | float x =>
      cases hm
      exact h x .whole
  | bool | int =>
      cases hm
      rfl
  | _ => cases hm

/-! ### Shapes -/

theorem atom_or_container (v : Value) : v.nesting = 0 ∨ v.kind = .list ∨ v.kind = .object := by
  cases v <;> simp [nesting, kind]

theorem SameShape.refl (container : a.kind = .list ∨ a.kind = .object) : SameShape a a := by
  cases a with
  | list xs => exact .lists rfl
  | object es => exact .objects fun _ => Iff.rfl
  | _ => rcases container with h | h <;> cases h

theorem SameShape.symm (h : SameShape a b) : SameShape b a := by
  cases h with
  | lists length => exact .lists length.symm
  | objects keys => exact .objects fun key => (keys key).symm

theorem SameShape.trans (first : SameShape a b) (second : SameShape b c) : SameShape a c := by
  cases first with
  | lists length =>
      cases second with
      | lists length' => exact .lists (length.trans length')
  | objects keys =>
      cases second with
      | objects keys' => exact .objects fun key => (keys key).trans (keys' key)

theorem SameShape.container (h : SameShape a b) : a.kind = .list ∨ a.kind = .object := by
  cases h with
  | lists => exact .inl rfl
  | objects => exact .inr rfl

theorem Facing.symm (h : Facing v w a b) : Facing w v b a := by
  cases h with
  | items hv hw => exact .items hw hv
  | entries hv hw => exact .entries hw hv

theorem Facing.eq (h : Facing v w a a) : v = w := by
  cases h with
  | items hv hw => exact Option.some.inj (hv.symm.trans hw)
  | entries hv hw => exact Option.some.inj (hv.symm.trans hw)

theorem exists_lookup (h : key ∈ es.map Prod.fst) : ∃ v, es.lookup key = some v := by
  cases found : es.lookup key with
  | some v => exact ⟨v, rfl⟩
  | none =>
      obtain ⟨e, he, rfl⟩ := List.mem_map.mp h
      exact absurd (List.lookup_eq_none_iff.mp found e he) (by simp)

/-- Between two values that face each other stands one in each container of the same shape. -/
theorem Facing.between (h : Facing v w a c) (shape : SameShape a b) :
    ∃ u, Facing v u a b ∧ Facing u w b c := by
  cases h with
  | @items xs zs i hv hw =>
      cases shape with
      | @lists _ ys length =>
          obtain ⟨inside, -⟩ := List.getElem?_eq_some_iff.mp hv
          have hu := List.getElem?_eq_getElem (length ▸ inside)
          exact ⟨_, .items hv hu, .items hu hw⟩
  | @entries es gs key hv hw =>
      cases shape with
      | objects keys =>
          obtain ⟨u, hu⟩ := exists_lookup ((keys key).mp (List.mem_map_of_mem (mem_of_lookup hv)))
          exact ⟨u, .entries hv hu, .entries hu hw⟩

/-! ### Equivalence -/

theorem nesting_of_quantity (h : v.quantity? = some m) : v.nesting = 0 := by
  cases v <;> cases h <;> rfl

/-- An atom is the same as itself, or as a number if it is one or counts as one. -/
theorem same_atom_iff (atom : v.nesting = 0) :
    v.same w = true ↔ v = w ∧ v.quantity? = none ∨
      ∃ m n, v.quantity? = some m ∧ w.quantity? = some n ∧ m.same n = true := by
  cases v with
  | list | object => cases atom
  | null | str => cases w <;> simp [same, quantity?]
  | bool | int | float =>
      simp only [same, sameNumber]
      cases w <;> simp [quantity?]

theorem same_self {v : Value} (well_keyed : v.WellKeyed) (number : NaNFree v) : v.same v = true := by
  rcases atom_or_container v with atom | container
  · rw [same_atom_iff atom]
    cases hm : v.quantity? with
    | none => exact .inl ⟨rfl, rfl⟩
    | some m => exact .inr ⟨m, m, rfl, rfl, Number.same_self (number.quantity hm)⟩
  · rw [same_iff_facing well_keyed well_keyed container]
    refine ⟨.refl container, fun u w facing => ?_⟩
    obtain rfl := facing.eq
    exact alike_iff.mpr
      (.inr (same_self (well_keyed.part facing.part.1) (number.part facing.part.1)))
termination_by v.nesting
decreasing_by exact facing.nesting_lt.1

theorem identical_swap (v w : Value) : v.identical w = w.identical v := by
  rw [Bool.eq_iff_iff, identical_iff, identical_iff]
  exact exists_congr fun _ => and_comm

/-- What is identical to something is the same as nothing. -/
theorem same_of_identical (h : u.identical v = true) : v.same w = false := by
  obtain ⟨m, -, rfl⟩ := identical_iff.mp h
  cases w <;> rfl

theorem identical_trans (first : u.identical v = true) (second : v.identical w = true) :
    u.identical w = true := by
  obtain ⟨m, rfl, rfl⟩ := identical_iff.mp first
  obtain ⟨n, h, rfl⟩ := identical_iff.mp second
  cases h
  exact first

theorem same_symm {v w : Value} (first : v.WellKeyed) (second : w.WellKeyed) (alike : v.same w = true) :
    w.same v = true := by
  rcases atom_or_container v with atom | container
  · rcases (same_atom_iff atom).mp alike with ⟨rfl, -⟩ | ⟨m, n, hm, hn, same⟩
    · exact alike
    · rw [same_atom_iff (nesting_of_quantity hn)]
      exact .inr ⟨n, m, hn, hm, Number.same_swap m n ▸ same⟩
  · obtain ⟨shape, facing⟩ := (same_iff_facing first second container).mp alike
    rw [same_iff_facing second first shape.symm.container]
    refine ⟨shape.symm, fun x y face => ?_⟩
    have back := face.symm
    rcases alike_iff.mp (facing y x back) with one | same
    · exact alike_iff.mpr (.inl (identical_swap y x ▸ one))
    · exact alike_iff.mpr
        (.inr (same_symm (first.part back.part.1) (second.part back.part.2) same))
termination_by v.nesting
decreasing_by exact back.nesting_lt.1

theorem same_trans {u v w : Value} (first : u.WellKeyed) (second : v.WellKeyed)
    (third : w.WellKeyed) (alike : u.same v = true) (alike' : v.same w = true) : u.same w = true := by
  rcases atom_or_container u with atom | container
  · rcases (same_atom_iff atom).mp alike with ⟨rfl, -⟩ | ⟨k, m, hk, hm, same⟩
    · exact alike'
    · rcases (same_atom_iff (nesting_of_quantity hm)).mp alike' with
        ⟨-, none⟩ | ⟨m', n, hm', hn, same'⟩
      · rw [hm] at none
        cases none
      · rw [hm] at hm'
        cases hm'
        exact (same_atom_iff atom).mpr (.inr ⟨k, n, hk, hn, Number.same_trans same same'⟩)
  · obtain ⟨shape, facing⟩ := (same_iff_facing first second container).mp alike
    obtain ⟨shape', facing'⟩ :=
      (same_iff_facing second third shape.symm.container).mp alike'
    rw [same_iff_facing first third container]
    refine ⟨shape.trans shape', fun x z face => ?_⟩
    obtain ⟨y, face₁, face₂⟩ := face.between shape
    have second_alike := facing' y z face₂
    rcases alike_iff.mp (facing x y face₁) with one | same
    · rw [Value.alike, same_of_identical one, Bool.or_false] at second_alike
      exact alike_iff.mpr (.inl (identical_trans one second_alike))
    · rcases alike_iff.mp second_alike with one' | same'
      · rw [identical_swap] at one'
        have back := same_symm (first.part face₁.part.1) (second.part face₁.part.2) same
        rw [same_of_identical one'] at back
        cases back
      · exact alike_iff.mpr (.inr (same_trans (first.part face₁.part.1)
          (second.part face₁.part.2) (third.part face₂.part.2) same same'))
termination_by u.nesting
decreasing_by exact face₁.nesting_lt.1

/-! ### Levels -/

mutual

theorem comparedDepth_of_alike (a b : Value) (h : a.alike b = true) :
    a.comparedDepth b = a.nesting := by
  rcases alike_iff.mp h with one | same
  · obtain ⟨m, rfl, rfl⟩ := identical_iff.mp one
    rfl
  · exact comparedDepth_of_same a b same

/-- Comparing values that are the same goes down into all of the first. -/
theorem comparedDepth_of_same : (a b : Value) → a.same b = true → a.comparedDepth b = a.nesting
  | .list xs, .list ys, alike => by
    rw [same] at alike
    rw [comparedDepth, if_pos (beq_iff_eq.mpr (sameItems_iff.mp alike).length_eq), nesting,
      comparedItems_of_same xs ys alike]
  | .object es, .object fs, alike => by
    rw [same, Bool.and_eq_true] at alike
    rw [comparedDepth, if_pos alike.1, nesting, comparedEntries_of_same es fs alike.2]
  | .list _, .null, alike | .list _, .bool _, alike | .list _, .int _, alike
  | .list _, .float _, alike | .list _, .str _, alike | .list _, .object _, alike
  | .object _, .null, alike | .object _, .bool _, alike | .object _, .int _, alike
  | .object _, .float _, alike | .object _, .str _, alike | .object _, .list _, alike => by
    cases alike
  | .null, _, _ | .bool _, _, _ | .int _, _, _ | .float _, _, _ | .str _, _, _ => by
    simp [comparedDepth, nesting]

theorem comparedItems_of_same : (xs ys : List Value) → sameItems xs ys = true →
    comparedItems xs ys = nestingItems xs
  | [], [], _ => rfl
  | x :: xs, y :: ys, alike => by
    obtain ⟨head, tail⟩ : x.alike y = true ∧ sameItems xs ys = true :=
      Bool.and_eq_true_iff.mp alike
    rw [comparedItems, if_pos head, nestingItems, comparedDepth_of_alike x y head,
      comparedItems_of_same xs ys tail]

theorem comparedEntries_of_same : (es fs : Entries) → sameEntries es fs = true →
    comparedEntries es fs = nestingEntries es
  | [], _, _ => by simp [comparedEntries, nestingEntries]
  | (key, x) :: es, fs, alike => by
    obtain ⟨head, tail⟩ := Bool.and_eq_true_iff.mp alike
    cases found : fs.lookup key with
    | none =>
        rw [found] at head
        cases head
    | some y =>
        rw [found] at head
        rw [comparedEntries_cons found head, nestingEntries, comparedDepth_of_alike x y head,
          comparedEntries_of_same es fs tail]

end

mutual

/-- No comparison goes down further than into all of the second value. -/
theorem comparedDepth_le : (a b : Value) → a.comparedDepth b ≤ b.nesting
  | .list xs, .list ys => by
    have := comparedItems_le xs ys
    rw [comparedDepth, nesting]
    split <;> omega
  | .object es, .object fs => by
    have := comparedEntries_le es fs
    rw [comparedDepth, nesting]
    split <;> omega
  | .list _, .null | .list _, .bool _ | .list _, .int _ | .list _, .float _ | .list _, .str _
  | .list _, .object _ | .object _, .null | .object _, .bool _ | .object _, .int _
  | .object _, .float _ | .object _, .str _ | .object _, .list _
  | .null, _ | .bool _, _ | .int _, _ | .float _, _ | .str _, _ => by
    simp [comparedDepth]

theorem comparedItems_le : (xs ys : List Value) → comparedItems xs ys ≤ nestingItems ys
  | [], _ | _ :: _, [] => by simp [comparedItems]
  | x :: xs, y :: ys => by
    have := comparedDepth_le x y
    have := comparedItems_le xs ys
    rw [comparedItems, nestingItems]
    split <;> omega

theorem comparedEntries_le : (es fs : Entries) → comparedEntries es fs ≤ nestingEntries fs
  | [], _ => by simp [comparedEntries]
  | (key, x) :: es, fs => by
    rw [comparedEntries]
    cases found : fs.lookup key with
    | none => exact Nat.zero_le _
    | some y =>
        have := comparedDepth_le x y
        have := comparedEntries_le es fs
        have inside := nesting_entry (mem_of_lookup found)
        rw [nesting] at inside
        dsimp only
        split <;> omega

end

theorem nesting_eq_of_same (first : a.WellKeyed) (second : b.WellKeyed) (alike : a.same b = true) :
    a.nesting = b.nesting := by
  refine Nat.le_antisymm ?_ ?_
  · rw [← comparedDepth_of_same a b alike]
    exact comparedDepth_le a b
  · rw [← comparedDepth_of_same b a (same_symm first second alike)]
    exact comparedDepth_le b a

/-- Values that are the same can be compared exactly if they do not nest too deeply. -/
theorem tooDeep_iff_of_same [Levels] (first : a.WellKeyed) (second : b.WellKeyed)
    (alike : a.same b = true) : ComparesTooDeep a b ↔ Levels.comparison < a.nesting := by
  rw [ComparesTooDeep, comparedDepth_of_same a b alike, ← nesting_eq_of_same first second alike,
    and_self, and_self]

end TriggerFlow.Value
