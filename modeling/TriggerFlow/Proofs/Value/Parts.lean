import TriggerFlow.Value.Nesting

/-! # Parts of a value

A part of a value is the value itself or a part of one of its items or entries.  It nests no more
deeply than the whole and holds no integer that the whole does not (`Part.encodable`), so that a value
which can be encoded has parts which can be encoded and written (`textWithin_of_encodable`).  An
object has each of its keys once; a value is well keyed if that holds of all objects in it
(`WellKeyed`).  What is met first that keeps a value from being written is an obstacle, and there is
none within the limits (`obstacle?_eq_none`). -/

namespace TriggerFlow

namespace Value

/-- What is found on the way down into a value. -/
inductive Part (part : Value) : Value → Prop
  | whole : Part part part
  | item {v : Value} {items : List Value} : v ∈ items → Part part v → Part part (.list items)
  | entry {key : String} {v : Value} {entries : Entries} :
      (key, v) ∈ entries → Part part v → Part part (.object entries)

/-- The parts of an object are the object and the parts of its entries. -/
theorem part_object_iff {part : Value} {entries : Entries} :
    Part part (.object entries) ↔ part = .object entries ∨ ∃ e ∈ entries, Part part e.2 := by
  constructor
  · intro h
    cases h with
    | whole => exact .inl rfl
    | entry he h => exact .inr ⟨_, he, h⟩
  · rintro (rfl | ⟨e, he, h⟩)
    · exact .whole
    · exact .entry he h

/-- A value that nests no container has no part but itself. -/
theorem part_atom_iff {part v : Value} (h : v.nesting = 0) : Part part v ↔ part = v := by
  constructor
  · intro hp
    cases hp with
    | whole => rfl
    | item | entry => cases h
  · rintro rfl
    exact .whole

/-! ### Items and entries -/

theorem nestingItems_le_iff {items : List Value} {n : Nat} :
    nestingItems items ≤ n ↔ ∀ v ∈ items, v.nesting ≤ n := by
  induction items with
  | nil => simp [nestingItems]
  | cons v rest ih => rw [nestingItems, Nat.max_le, ih, List.forall_mem_cons]

theorem nestingEntries_le_iff {entries : Entries} {n : Nat} :
    nestingEntries entries ≤ n ↔ ∀ e ∈ entries, e.2.nesting ≤ n := by
  induction entries with
  | nil => simp [nestingEntries]
  | cons e rest ih => rw [nestingEntries, Nat.max_le, ih, List.forall_mem_cons]

theorem nesting_item {v : Value} {items : List Value} (h : v ∈ items) :
    v.nesting < (Value.list items).nesting := by
  rw [nesting]
  exact Nat.lt_succ_of_le (nestingItems_le_iff.mp (Nat.le_refl _) v h)

theorem nesting_entry {key : String} {v : Value} {entries : Entries} (h : (key, v) ∈ entries) :
    v.nesting < (Value.object entries).nesting := by
  rw [nesting]
  exact Nat.lt_succ_of_le (nestingEntries_le_iff.mp (Nat.le_refl _) _ h)

theorem anyLongInteger_eq_false {digits : Nat} {items : List Value} :
    anyLongInteger digits items = false ↔ ∀ v ∈ items, v.hasLongInteger digits = false := by
  induction items with
  | nil => simp [anyLongInteger]
  | cons v rest ih => rw [anyLongInteger, Bool.or_eq_false_iff, ih, List.forall_mem_cons]

theorem anyLongIntegerAt_eq_false {digits : Nat} {entries : Entries} :
    anyLongIntegerAt digits entries = false ↔ ∀ e ∈ entries, e.2.hasLongInteger digits = false := by
  induction entries with
  | nil => simp [anyLongIntegerAt]
  | cons e rest ih => rw [anyLongIntegerAt, Bool.or_eq_false_iff, ih, List.forall_mem_cons]

theorem Part.trans {part v whole : Value} (hp : Part part v) (hw : Part v whole) :
    Part part whole := by
  induction hw with
  | whole => exact hp
  | item hv _ ih => exact .item hv ih
  | entry hv _ ih => exact .entry hv ih

/-! ### Looking up -/

theorem get_of_missing {entries : Entries} {key : String} (h : entries.lookup key = none) :
    entries.get key = .null := by
  rw [Entries.get, h]
  rfl

theorem get_of_lookup {entries : Entries} {key : String} {v : Value}
    (h : entries.lookup key = some v) : entries.get key = v := by
  rw [Entries.get, h]
  rfl

section Lookup

variable {κ ν : Type} [BEq κ] [LawfulBEq κ] {entries : List (κ × ν)} {key : κ} {v : ν}

theorem mem_of_lookup (h : entries.lookup key = some v) : (key, v) ∈ entries := by
  obtain ⟨before, after, rfl, -⟩ := List.lookup_eq_some_iff.mp h
  exact List.mem_append_right _ List.mem_cons_self

theorem lookup_eq_some_iff (keys : (entries.map Prod.fst).Nodup) :
    entries.lookup key = some v ↔ (key, v) ∈ entries := by
  refine ⟨mem_of_lookup, fun h => ?_⟩
  obtain ⟨before, after, rfl⟩ := List.append_of_mem h
  refine List.lookup_eq_some_iff.mpr ⟨before, after, rfl, fun e he => ?_⟩
  rw [List.map_append, List.map_cons, List.nodup_append] at keys
  exact bne_iff_ne.mpr (keys.2.2 _ (List.mem_map_of_mem he) _ List.mem_cons_self).symm

end Lookup

theorem get_eq_null_or_mem (entries : Entries) (key : String) :
    entries.get key = .null ∨ (key, entries.get key) ∈ entries := by
  unfold Entries.get
  rcases h : entries.lookup key with _ | v
  · exact .inl rfl
  · exact .inr (mem_of_lookup h)

/-- What is looked up is null or a part. -/
theorem get_eq_null_or_part (v : Value) (key : String) : v.get key = .null ∨ Part (v.get key) v := by
  cases v with
  | object entries => exact (get_eq_null_or_mem entries key).imp_right fun h => .entry h .whole
  | _ => exact .inl rfl

/-! ### Keys -/

/-- Every object in the value has each of its keys once. -/
def WellKeyed (v : Value) : Prop :=
  ∀ entries : Entries, Part (.object entries) v → (entries.map Prod.fst).Nodup

theorem WellKeyed.part {part v : Value} (h : v.WellKeyed) (hp : Part part v) : part.WellKeyed :=
  fun entries he => h entries (he.trans hp)

theorem WellKeyed.item {v : Value} {items : List Value} (h : (Value.list items).WellKeyed)
    (hv : v ∈ items) : v.WellKeyed :=
  h.part (.item hv .whole)

theorem WellKeyed.entry {key : String} {v : Value} {entries : Entries}
    (h : (Value.object entries).WellKeyed) (hv : (key, v) ∈ entries) : v.WellKeyed :=
  h.part (.entry hv .whole)

theorem WellKeyed.keys {entries : Entries} (h : (Value.object entries).WellKeyed) :
    (entries.map Prod.fst).Nodup :=
  h entries .whole

theorem wellKeyed_object {entries : Entries} (hkeys : (entries.map Prod.fst).Nodup)
    (h : ∀ e ∈ entries, e.2.WellKeyed) : (Value.object entries).WellKeyed := by
  intro inner hp
  cases hp with
  | whole => exact hkeys
  | entry hv hp => exact h _ hv inner hp

theorem wellKeyed_list {items : List Value} (h : ∀ v ∈ items, v.WellKeyed) :
    (Value.list items).WellKeyed := by
  intro inner hp
  cases hp with
  | item hv hp => exact h _ hv inner hp

/-- Everything but lists and objects has no parts of its own. -/
theorem wellKeyed_of_nesting_zero {v : Value} (h : v.nesting = 0) : v.WellKeyed := by
  intro inner hp
  cases hp with
  | whole => cases h
  | item hv hp =>
      rw [nesting] at h
      omega
  | entry hv hp =>
      rw [nesting] at h
      omega

/-! ### Not-a-numbers -/

/-- Nothing in the value is not-a-number. -/
def NaNFree (v : Value) : Prop := ∀ x : Binary64, Part (.float x) v → x.isNaN = false

theorem NaNFree.part {v whole : Value} (h : NaNFree whole) (part : Part v whole) : NaNFree v :=
  fun x hx => h x (hx.trans part)

theorem naNFree_atom {v : Value} (h : v.nesting = 0) (number : ∀ x, v = .float x → x.isNaN = false) :
    NaNFree v :=
  fun x part => number x ((part_atom_iff h).mp part).symm

@[simp] theorem naNFree_null : NaNFree .null := naNFree_atom rfl nofun
@[simp] theorem naNFree_bool (b : Bool) : NaNFree (.bool b) := naNFree_atom rfl nofun
@[simp] theorem naNFree_int (n : Int) : NaNFree (.int n) := naNFree_atom rfl nofun
@[simp] theorem naNFree_str (s : String) : NaNFree (.str s) := naNFree_atom rfl nofun

@[simp] theorem naNFree_float {x : Binary64} : NaNFree (.float x) ↔ x.isNaN = false :=
  ⟨fun h => h x .whole, fun h => naNFree_atom rfl fun _ same => float.inj same ▸ h⟩

@[simp] theorem naNFree_list {items : List Value} : NaNFree (.list items) ↔ ∀ v ∈ items, NaNFree v := by
  refine ⟨fun h v hv => h.part (.item hv .whole), fun h x part => ?_⟩
  cases part with
  | item hv part => exact h _ hv x part

@[simp] theorem naNFree_object {entries : Entries} :
    NaNFree (.object entries) ↔ ∀ e ∈ entries, NaNFree e.2 := by
  refine ⟨fun h e he => h.part (.entry he .whole), fun h x part => ?_⟩
  cases part with
  | entry he part => exact h _ he x part

/-! ### One and the same object -/

theorem identical_iff {v w : Value} :
    v.identical w = true ↔ ∃ m, v = .float (.nan (some m)) ∧ w = .float (.nan (some m)) := by
  constructor
  · intro h
    unfold identical at h
    split at h
    · obtain rfl := beq_iff_eq.mp h
      exact ⟨_, rfl, rfl⟩
    · cases h
  · rintro ⟨m, rfl, rfl⟩
    exact beq_self_eq_true m

theorem alike_iff {v w : Value} :
    v.alike w = true ↔ v.identical w = true ∨ v.same w = true := by
  rw [alike, Bool.or_eq_true]

theorem nesting_of_identical {v w : Value} (h : v.identical w = true) :
    v.nesting = 0 ∧ w.nesting = 0 := by
  obtain ⟨m, rfl, rfl⟩ := identical_iff.mp h
  exact ⟨rfl, rfl⟩

/-- Outside of lists and objects only not-a-numbers can be identical. -/
theorem alike_eq_same {v : Value} (w : Value) (h : ∀ x, v = .float x → x.isNaN = false) :
    v.alike w = v.same w := by
  rw [alike, Bool.or_eq_right_iff_imp]
  intro identical
  obtain ⟨m, rfl, rfl⟩ := identical_iff.mp identical
  cases h _ rfl

/-! ### Lists in lists -/

/-- An empty list within so many lists. -/
def nested : Nat → Value
  | 0 => .list []
  | n + 1 => .list [nested n]

theorem nesting_nested (n : Nat) : (nested n).nesting = n + 1 := by
  induction n with
  | zero => rfl
  | succ n ih => rw [nested, nesting, nestingItems, ih, nestingItems, Nat.max_zero]

end Value

namespace Entries

theorem insert_of_notMem {key : String} {entries : Entries} (h : key ∉ entries.map Prod.fst)
    (v : Value) : insert key v entries = entries ++ [(key, v)] := by
  induction entries with
  | nil => rfl
  | cons e rest ih =>
      obtain ⟨k, w⟩ := e
      rw [List.map_cons, List.mem_cons, not_or] at h
      have hne : (k == key) = false := beq_eq_false_iff_ne.mpr fun heq => h.1 heq.symm
      rw [insert, if_neg (by rw [hne]; decide), ih h.2]
      rfl

theorem foldl_insert {done entries : Entries} (h : ((done ++ entries).map Prod.fst).Nodup) :
    entries.foldl (fun done e => insert e.1 e.2 done) done = done ++ entries := by
  induction entries generalizing done with
  | nil => exact (List.append_nil _).symm
  | cons e rest ih =>
      have hnew : e.1 ∉ done.map Prod.fst := by
        rw [List.map_append, List.map_cons, List.nodup_append] at h
        intro hmem
        exact h.2.2 e.1 hmem e.1 List.mem_cons_self rfl
      rw [List.foldl_cons, insert_of_notMem hnew, ih (by rw [List.append_assoc]; exact h),
        List.append_assoc]
      rfl

/-- Entries with different keys all stand. -/
theorem ofList_of_nodup {entries : Entries} (h : (entries.map Prod.fst).Nodup) :
    ofList entries = entries :=
  foldl_insert h

theorem mem_of_insert {key : String} {v : Value} {entries : Entries} {e : String × Value}
    (h : e ∈ insert key v entries) : e = (key, v) ∨ e ∈ entries := by
  induction entries with
  | nil => exact .inl (List.mem_singleton.mp h)
  | cons head rest ih =>
      rw [insert] at h
      split at h
      · exact (List.mem_cons.mp h).imp_right (List.mem_cons_of_mem _)
      · rcases List.mem_cons.mp h with rfl | h
        · exact .inr List.mem_cons_self
        · exact (ih h).imp_right (List.mem_cons_of_mem _)

theorem nodup_insert {entries : Entries} (h : (entries.map Prod.fst).Nodup) (key : String)
    (v : Value) : ((insert key v entries).map Prod.fst).Nodup := by
  induction entries with
  | nil => exact List.pairwise_singleton _ key
  | cons head rest ih =>
      obtain ⟨k, w⟩ := head
      rw [List.map_cons, List.nodup_cons] at h
      rw [insert]
      split
      · rename_i same
        rw [beq_iff_eq] at same
        subst same
        exact List.nodup_cons.mpr h
      · rename_i differs
        refine List.nodup_cons.mpr ⟨fun found => ?_, ih h.2⟩
        obtain ⟨e, he, hk⟩ := List.mem_map.mp found
        rcases mem_of_insert he with rfl | he
        · exact differs (beq_iff_eq.mpr hk.symm)
        · exact h.1 (hk ▸ List.mem_map_of_mem he)

/-- Every key stands once. -/
theorem nodup_ofList (entries : Entries) : ((ofList entries).map Prod.fst).Nodup :=
  List.foldlRecOn (motive := fun done : Entries => (done.map Prod.fst).Nodup) entries _
    List.nodup_nil fun _ h e _ => nodup_insert h e.1 e.2

theorem mem_of_ofList {entries : Entries} : ∀ e ∈ ofList entries, e ∈ entries := by
  refine List.foldlRecOn (motive := fun done : Entries => ∀ e ∈ done, e ∈ entries) entries _ nofun ?_
  intro done h new hnew e he
  rcases mem_of_insert he with rfl | he
  · exact hnew
  · exact h e he

end Entries

namespace Value

/-! ### Obstacles -/

variable {during : Descent}

mutual

/-- There is no obstacle to a value that nests within the levels and holds no integer that is too
long. -/
theorem obstacle?_eq_none : {levels : Nat} → (v : Value) →
    (v.obstacle? during levels = none ↔
      v.nesting ≤ levels ∧ v.hasLongInteger Breakdown.digitLimit = false)
  | _, .null | _, .bool _ | _, .float _ | _, .str _ => by
    simp [obstacle?, nesting, hasLongInteger]
  | _, .int n => by
    by_cases long : 10 ^ Breakdown.digitLimit ≤ n.natAbs <;>
      simp [obstacle?, nesting, hasLongInteger, long]
  | 0, .list items | 0, .object entries => by simp [obstacle?, nesting]
  | levels + 1, .list items => by
    simp [obstacle?, nesting, hasLongInteger, obstacleAmong?_eq_none items]
  | levels + 1, .object entries => by
    simp [obstacle?, nesting, hasLongInteger, obstacleUnder?_eq_none entries]

theorem obstacleAmong?_eq_none : {levels : Nat} → (items : List Value) →
    (obstacleAmong? during levels items = none ↔
      nestingItems items ≤ levels ∧ anyLongInteger Breakdown.digitLimit items = false)
  | _, [] => by simp [obstacleAmong?, nestingItems, anyLongInteger]
  | _, v :: rest => by
    rw [obstacleAmong?, Option.or_eq_none_iff, obstacle?_eq_none v, obstacleAmong?_eq_none rest,
      nestingItems, anyLongInteger, Nat.max_le, Bool.or_eq_false_iff]
    exact and_and_and_comm

theorem obstacleUnder?_eq_none : {levels : Nat} → (entries : List (String × Value)) →
    (obstacleUnder? during levels entries = none ↔
      nestingEntries entries ≤ levels ∧ anyLongIntegerAt Breakdown.digitLimit entries = false)
  | _, [] => by simp [obstacleUnder?, nestingEntries, anyLongIntegerAt]
  | _, (_, v) :: rest => by
    rw [obstacleUnder?, Option.or_eq_none_iff, obstacle?_eq_none v, obstacleUnder?_eq_none rest,
      nestingEntries, anyLongIntegerAt, Nat.max_le, Bool.or_eq_false_iff]
    exact and_and_and_comm

end

/-! ### Encoding -/

variable [Levels]

/-- The value nests and holds integers within the limits of an encoding. -/
structure Encodable (v : Value) : Prop where
  nesting_le : v.nesting ≤ Levels.encoding
  no_long_integer : v.hasLongInteger Breakdown.digitLimit = false

theorem encodable_iff {v : Value} : v.Encodable ↔ v.obstacle? .encoding Levels.encoding = none := by
  rw [obstacle?_eq_none]
  exact ⟨fun h => ⟨h.nesting_le, h.no_long_integer⟩, fun h => ⟨h.1, h.2⟩⟩

theorem checkEncoding_eq_ok {v : Value} : v.checkEncoding = .ok () ↔ v.Encodable := by
  rw [encodable_iff, checkEncoding]
  split <;> simp_all

theorem Encodable.item {v : Value} {items : List Value} (h : (Value.list items).Encodable)
    (hv : v ∈ items) : v.Encodable where
  nesting_le := Nat.le_of_lt (Nat.lt_of_lt_of_le (nesting_item hv) h.nesting_le)
  no_long_integer := anyLongInteger_eq_false.mp h.no_long_integer v hv

theorem Encodable.entry {key : String} {v : Value} {entries : Entries}
    (h : (Value.object entries).Encodable) (hv : (key, v) ∈ entries) : v.Encodable where
  nesting_le := Nat.le_of_lt (Nat.lt_of_lt_of_le (nesting_entry hv) h.nesting_le)
  no_long_integer := anyLongIntegerAt_eq_false.mp h.no_long_integer _ hv

theorem Encodable.of_subset {entries others : Entries} (h : (Value.object entries).Encodable)
    (inside : ∀ e ∈ others, e ∈ entries) : (Value.object others).Encodable where
  nesting_le := by
    have deep := h.nesting_le
    rw [nesting] at deep ⊢
    have each := nestingEntries_le_iff.mp (Nat.le_refl (nestingEntries entries))
    have below := nestingEntries_le_iff.mpr fun e he => each e (inside e he)
    exact Nat.le_trans (Nat.succ_le_succ below) deep
  no_long_integer :=
    anyLongIntegerAt_eq_false.mpr fun e he =>
      anyLongIntegerAt_eq_false.mp h.no_long_integer e (inside e he)

theorem Part.encodable {part v : Value} (hp : Part part v) (h : v.Encodable) : part.Encodable := by
  induction hp with
  | whole => exact h
  | item hv _ ih => exact ih (h.item hv)
  | entry hv _ ih => exact ih (h.entry hv)

theorem Encodable.get {v : Value} (h : v.Encodable) (key : String) : (v.get key).Encodable := by
  rcases get_eq_null_or_part v key with hnull | hpart
  · rw [hnull]
    exact ⟨Nat.zero_le _, rfl⟩
  · exact hpart.encodable h

/-! ### Writing -/

/-- What can be encoded can be written. -/
theorem written_of_encodable {v : Value} (h : v.Encodable) (write : Value → String) :
    v.written write = .ok (write v) := by
  have shallow := Nat.le_trans h.nesting_le Levels.encoding_le
  rw [written, (obstacle?_eq_none v).mpr ⟨shallow, h.no_long_integer⟩]

theorem textWithin_of_encodable {v : Value} (h : v.Encodable) : v.textWithin = .ok v.text :=
  written_of_encodable h text

end Value

end TriggerFlow
