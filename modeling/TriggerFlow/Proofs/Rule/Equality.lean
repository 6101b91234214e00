import TriggerFlow.Proofs.Number.Exact
import TriggerFlow.Proofs.Number.Range
import TriggerFlow.Proofs.Value.Facing
import TriggerFlow.Rule.Reach

/-! # Equality part by part

A rule compares two numbers as floating-point numbers and finds values of different kinds unequal
(`equal_iff`).  What two lists or objects hold, however, is compared by exact value, where true is one
and false is zero, and one and the same not-a-number is alike (`equal_container`).  So the equality of
two containers is not that of their parts in four cases: a truth value faces the number that it counts
as (`CountsAs`), a not-a-number faces itself, two numbers that differ are rounded to one
(`RoundsTogether`), or the containers nest too deeply to be compared.  `equal_by_parts` is what holds
of all containers.  Where no truth value, no not-a-number and no integer beyond `2 ^ 53` occurs,
equality does go part by part (`equal_iff_partsEqual`). -/

namespace TriggerFlow.Rule

open Value

/-- Every object in the value has each of its keys once, and every integer has a nearest
floating-point number. -/
structure Comparable (v : Value) : Prop where
  well_keyed : v.WellKeyed
  in_range : ∀ n : Int, Part (.int n) v → (Number.int n).nearest? ≠ none

/-- A truth value and the number that it counts as. -/
def CountsAs (v w : Value) : Prop :=
  v.same w = true ∧
    (v.kind = .bool ∧ w.number?.isSome = true ∨ v.number?.isSome = true ∧ w.kind = .bool)

/-- Two numbers that differ, but not as floating-point numbers. -/
def RoundsTogether (v w : Value) : Prop :=
  v.same w = false ∧ ∃ m n x y, v.number? = some m ∧ w.number? = some n ∧
    m.nearest? = some x ∧ n.nearest? = some y ∧ x.eq y = true

/-- The parts of two containers are equal: these have the same shape, and what faces each other is
equal. -/
def PartsEqual [Levels] (a b : Value) : Prop :=
  SameShape a b ∧ ∀ v w, Facing v w a b → equal v w = .ok true

variable {v w a b : Value}

theorem Comparable.part (h : Comparable a) (part : Part v a) : Comparable v where
  well_keyed := h.well_keyed.part part
  in_range := fun n hn => h.in_range n (hn.trans part)

theorem Comparable.nearest {m : Number} (h : Comparable v) (hm : v.number? = some m) :
    ∃ x, m.nearest? = some x := by
  cases v with
  | int n =>
      cases hm
      exact Option.ne_none_iff_exists'.mp (h.in_range n .whole)
  | float x =>
      cases hm
      exact ⟨x, rfl⟩
  | _ => cases hm

theorem comparable_of_small (well_keyed : v.WellKeyed)
    (small : ∀ n : Int, Part (.int n) v → n.natAbs ≤ 2 ^ 64) : Comparable v where
  well_keyed := well_keyed
  in_range := fun n part => Number.nearest?_ne_none (small n part)

theorem comparable_atom (h : v.nesting = 0) (small : ∀ n : Int, v = .int n → n.natAbs ≤ 2 ^ 64) :
    Comparable v :=
  comparable_of_small (wellKeyed_of_nesting_zero h) fun n part =>
    small n ((part_atom_iff h).mp part).symm

theorem comparable_list {items : List Value} (h : ∀ v ∈ items, Comparable v) :
    Comparable (.list items) where
  well_keyed := wellKeyed_list fun v hv => (h v hv).well_keyed
  in_range := fun n part => by
    cases part with
    | item hv part => exact (h _ hv).in_range n part

theorem comparable_object {entries : Entries} (keys : (entries.map Prod.fst).Nodup)
    (h : ∀ e ∈ entries, Comparable e.2) : Comparable (.object entries) where
  well_keyed := wellKeyed_object keys fun e he => (h e he).well_keyed
  in_range := fun n part => by
    cases part with
    | entry he part => exact (h _ he).in_range n part

/-! ### Two values -/

theorem equal_eq_true [Levels] :
    equal v w = .ok true ↔ ¬ ComparesTooDeep v w ∧ valuesEqual v w = .ok true := by
  rw [equal]
  by_cases deep : ComparesTooDeep v w
  · rw [sameWithin_of_tooDeep deep]
    exact ⟨nofun, fun h => absurd deep h.1⟩
  · rw [sameWithin_of_shallow deep]
    exact (and_iff_right deep).symm

theorem valuesEqual_numbers {m n : Number} {x y : Binary64} (hm : v.number? = some m)
    (hn : w.number? = some n) (hx : m.nearest? = some x) (hy : n.nearest? = some y) :
    valuesEqual v w = .ok (x.eq y) := by
  simp [valuesEqual, hm, hn, toBinary64, hx, hy, bind, Except.bind, pure, Except.pure]

theorem valuesEqual_of_not_numbers (h : v.number? = none ∨ w.number? = none) :
    valuesEqual v w = .ok (v.kind == w.kind && v.same w) := by
  rw [valuesEqual]
  split
  · simp_all
  · rfl

theorem same_numbers {m n : Number} (hm : v.number? = some m) (hn : w.number? = some n) :
    v.same w = m.same n := by
  cases v <;> cases hm <;> cases w <;> cases hn <;> rfl

/-- The same data have the same kind, but for numbers and truth values that count as numbers. -/
theorem kind_eq_iff_not_countsAs (h : v.number? = none ∨ w.number? = none) (alike : v.same w = true) :
    v.kind = w.kind ↔ ¬ CountsAs v w := by
  rw [CountsAs, alike]
  cases v <;> cases w <;>
    first | exact absurd alike Bool.false_ne_true | simp [Value.kind, Value.number?] at h ⊢

/-- Two values are equal if they are the same and none is a truth value that counts as the other, or
if they are numbers that are rounded to the same. -/
theorem equal_iff [Levels] (first : Comparable v) (second : Comparable w) :
    equal v w = .ok true ↔
      ¬ ComparesTooDeep v w ∧ (v.same w = true ∧ ¬ CountsAs v w ∨ RoundsTogether v w) := by
  rw [equal_eq_true]
  refine and_congr_right fun _ => ?_
  by_cases numbers : v.number? = none ∨ w.number? = none
  · have apart : ¬ RoundsTogether v w := by
      rintro ⟨-, m, n, x, y, hm, hn, -⟩
      simp [hm, hn] at numbers
    rw [valuesEqual_of_not_numbers numbers, or_iff_left apart, Except.ok.injEq, Bool.and_eq_true,
      beq_iff_eq, and_comm]
    exact and_congr_right (kind_eq_iff_not_countsAs numbers)
  · obtain ⟨hv, hw⟩ := not_or.mp numbers
    obtain ⟨m, hm⟩ := Option.ne_none_iff_exists'.mp hv
    obtain ⟨n, hn⟩ := Option.ne_none_iff_exists'.mp hw
    obtain ⟨x, hx⟩ := first.nearest hm
    obtain ⟨y, hy⟩ := second.nearest hn
    have apart : ¬ CountsAs v w := by
      rintro ⟨-, ⟨truth, -⟩ | ⟨-, truth⟩⟩
      · cases v <;> cases truth
        cases hm
      · cases w <;> cases truth
        cases hn
    rw [valuesEqual_numbers hm hn hx hy, Except.ok.injEq]
    cases alike : v.same w with
    | true =>
        rw [Number.eq_of_same (same_numbers hm hn ▸ alike) hx hy]
        simp [apart]
    | false => simp [RoundsTogether, alike, hm, hn, hx, hy]

/-! ### One and the same not-a-number -/

theorem not_same_of_identical (h : v.identical w = true) : v.same w = false := by
  obtain ⟨m, rfl, rfl⟩ := identical_iff.mp h
  rfl

theorem not_identical_of_same (h : v.same w = true) : v.identical w = false := by
  by_contra identical
  rw [not_same_of_identical (Bool.not_eq_false _ ▸ identical)] at h
  cases h

theorem not_roundsTogether_of_identical (h : v.identical w = true) : ¬ RoundsTogether v w := by
  obtain ⟨m, rfl, rfl⟩ := identical_iff.mp h
  rintro ⟨-, _, _, _, _, ⟨⟩, ⟨⟩, ⟨⟩, ⟨⟩, equal⟩
  cases equal

/-! ### Two containers -/

/-- What faces each other in two containers is compared as any two values are. -/
theorem equal_facing [Levels] (first : Comparable a) (second : Comparable b) (facing : Facing v w a b) :
    equal v w = .ok true ↔
      ¬ ComparesTooDeep v w ∧ (v.same w = true ∧ ¬ CountsAs v w ∨ RoundsTogether v w) :=
  equal_iff (first.part facing.part.1) (second.part facing.part.2)

/-- Containers are equal if they are not too deep, have the same shape and hold the same data. -/
theorem equal_wellKeyed [Levels] (first : a.WellKeyed) (second : b.WellKeyed)
    (container : a.kind = .list ∨ a.kind = .object) :
    equal a b = .ok true ↔
      ¬ ComparesTooDeep a b ∧ SameShape a b ∧ ∀ v w, Facing v w a b → v.alike w = true := by
  have atom : a.number? = none := by
    cases a <;> first | rfl | rcases container with h | h <;> cases h
  rw [equal_eq_true, valuesEqual_of_not_numbers (.inl atom), Except.ok.injEq, Bool.and_eq_true,
    beq_iff_eq, same_iff_facing first second container]
  refine and_congr_right fun _ => and_iff_right_of_imp ?_
  rintro ⟨shape, -⟩
  cases shape <;> rfl

theorem equal_container [Levels] (first : Comparable a) (second : Comparable b)
    (container : a.kind = .list ∨ a.kind = .object) :
    equal a b = .ok true ↔
      ¬ ComparesTooDeep a b ∧ SameShape a b ∧ ∀ v w, Facing v w a b → v.alike w = true :=
  equal_wellKeyed first.well_keyed second.well_keyed container

/-- Of equal containers the parts are equal unless one is a truth value that counts as the other, or
both are one and the same not-a-number. -/
theorem partsEqual_iff [Levels] (first : Comparable a) (second : Comparable b)
    (container : a.kind = .list ∨ a.kind = .object) (whole : equal a b = .ok true) :
    PartsEqual a b ↔ ∀ v w, Facing v w a b → ¬ CountsAs v w ∧ v.identical w = false := by
  obtain ⟨shallow, shape, alike⟩ := (equal_container first second container).mp whole
  have all_alike : a.same b = true :=
    (same_iff_facing first.well_keyed second.well_keyed container).mpr ⟨shape, alike⟩
  rw [PartsEqual, and_iff_right shape]
  refine forall₃_congr fun v w facing => ?_
  -- the levels that suffice for the containers suffice for what faces each other in them
  have shallow : ¬ ComparesTooDeep v w := fun deep => shallow (facing.tooDeep all_alike deep)
  rw [equal_facing first second facing, and_iff_right shallow]
  rcases alike_iff.mp (alike v w facing) with identical | same
  · rw [identical]
    refine iff_of_false ?_ nofun
    rintro (⟨same, -⟩ | rounded)
    · exact Bool.false_ne_true ((not_same_of_identical identical).symm.trans same)
    · exact not_roundsTogether_of_identical identical rounded
  · have apart : ¬ RoundsTogether v w := fun h => by simp [RoundsTogether, same] at h
    rw [or_iff_left apart, and_iff_right same, not_identical_of_same same, and_iff_left rfl]

/-- Containers whose parts are equal are equal unless they are too deep or two numbers that differ
are rounded to one. -/
theorem equal_iff_of_partsEqual [Levels] (first : Comparable a) (second : Comparable b)
    (container : a.kind = .list ∨ a.kind = .object) (parts : PartsEqual a b) :
    equal a b = .ok true ↔
      ¬ ComparesTooDeep a b ∧ ∀ v w, Facing v w a b → ¬ RoundsTogether v w := by
  rw [equal_container first second container, and_iff_right parts.1]
  refine and_congr_right fun _ => forall₃_congr fun v w facing => ?_
  obtain ⟨-, reason⟩ := (equal_facing first second facing).mp (parts.2 v w facing)
  constructor
  · intro alike rounded
    rcases alike_iff.mp alike with identical | same
    · exact not_roundsTogether_of_identical identical rounded
    · simp [RoundsTogether, same] at rounded
  · intro apart
    exact alike_iff.mpr (.inr (reason.resolve_right apart).1)

/-- **Equality part by part.**  Two lists or two objects are equal if they nest within the levels, have
the same shape, and what faces each other in them is the same by exact value, where true is one and
false is zero, or one and the same not-a-number.  Faced by each other alone the parts are compared
differently: a truth value is not equal to the number that it counts as, no not-a-number is equal to
anything, and numbers are equal if they are rounded to the same.  So the parts of equal containers are
all equal exactly if no truth value faces the number that it counts as and no not-a-number itself.
Containers whose parts are all equal are themselves equal exactly if they nest within the levels and no
two numbers that differ are rounded to one. -/
theorem equal_by_parts [Levels] (a b : Value) (first : Comparable a) (second : Comparable b)
    (container : a.kind = .list ∨ a.kind = .object) :
    (equal a b = .ok true ↔
      ¬ ComparesTooDeep a b ∧ SameShape a b ∧ ∀ v w, Facing v w a b → v.alike w = true) ∧
    (∀ v w, Facing v w a b →
      (equal v w = .ok true ↔
        ¬ ComparesTooDeep v w ∧ (v.same w = true ∧ ¬ CountsAs v w ∨ RoundsTogether v w))) ∧
    (equal a b = .ok true →
      (PartsEqual a b ↔ ∀ v w, Facing v w a b → ¬ CountsAs v w ∧ v.identical w = false)) ∧
    (PartsEqual a b →
      (equal a b = .ok true ↔
        ¬ ComparesTooDeep a b ∧ ∀ v w, Facing v w a b → ¬ RoundsTogether v w)) := by
  exact ⟨equal_container first second container, fun _ _ => equal_facing first second,
    partsEqual_iff first second container, equal_iff_of_partsEqual first second container⟩

/-- An order that says whether it is paid. -/
def flaggedOrder : Value :=
  .object [("paid", .bool true), ("weights", .list [.int 2])]

/-- The order with its flag counted and its weight measured. -/
def countedOrder : Value :=
  .object [("weights", .list [.float (.ofInt 2)]), ("paid", .int 1)]

theorem equal_by_parts_countedOrder :
    Comparable flaggedOrder ∧ Comparable countedOrder ∧ flaggedOrder.kind = .object ∧
      equal flaggedOrder countedOrder = .ok true ∧ ¬ PartsEqual flaggedOrder countedOrder := by
  have truth : Comparable (.bool true) := comparable_atom rfl nofun
  have one : Comparable (.int 1) := comparable_atom rfl (by rintro _ ⟨⟩; decide)
  have two : Comparable (.int 2) := comparable_atom rfl (by rintro _ ⟨⟩; decide)
  have measured : Comparable (.float (.ofInt 2)) := comparable_atom rfl nofun
  have first : Comparable flaggedOrder :=
    comparable_object (by decide) (List.forall_mem_cons.mpr
      ⟨truth, List.forall_mem_singleton.mpr (comparable_list (List.forall_mem_singleton.mpr two))⟩)
  have second : Comparable countedOrder :=
    comparable_object (by decide) (List.forall_mem_cons.mpr
      ⟨comparable_list (List.forall_mem_singleton.mpr measured), List.forall_mem_singleton.mpr one⟩)
  obtain ⟨-, -, parts, -⟩ := equal_by_parts flaggedOrder countedOrder first second (.inr rfl)
  have whole : equal flaggedOrder countedOrder = .ok true := by decide +kernel
  have facing : Facing (.bool true) (.int 1) flaggedOrder countedOrder :=
    @Facing.entries _ _ _ _ "paid" rfl rfl
  refine ⟨first, second, rfl, whole, fun equal_parts => ?_⟩
  exact ((parts whole).mp equal_parts _ _ facing).1 ⟨rfl, .inl ⟨rfl, rfl⟩⟩

/-- A truth value in a list equals the number that it counts as, and an integer beyond `2 ^ 53` differs
from one that is rounded to the same, against the comparison of the items themselves. -/
theorem equal_not_by_items :
    (∀ v ∈ [.list [.bool true], .list [.int 1], .list [.int (2 ^ 53)], .list [.int (2 ^ 53 + 1)]],
      Comparable v) ∧
    (equal (.list [.bool true]) (.list [.int 1]) = .ok true ∧
      ¬ PartsEqual (.list [.bool true]) (.list [.int 1])) ∧
    equal (.list [.int (2 ^ 53)]) (.list [.int (2 ^ 53 + 1)]) = .ok false ∧
      PartsEqual (.list [.int (2 ^ 53)]) (.list [.int (2 ^ 53 + 1)]) := by
  have single {n : Int} (small : n.natAbs ≤ 2 ^ 64) : Comparable (.list [.int n]) :=
    comparable_list (List.forall_mem_singleton.mpr
      (comparable_atom rfl (by rintro _ ⟨⟩; exact small)))
  have truth : Comparable (.list [.bool true]) :=
    comparable_list (List.forall_mem_singleton.mpr (comparable_atom rfl nofun))
  refine ⟨?_, ⟨by decide, ?_⟩, by decide +kernel, ?_⟩
  · simp only [List.forall_mem_cons]
    exact ⟨truth, single (by decide), single (by decide), single (by decide), nofun⟩
  · rintro ⟨-, items⟩
    exact absurd (items (.bool true) (.int 1) (@Facing.items _ _ _ _ 0 rfl rfl)) (by decide)
  · have rounded : equal (.int (2 ^ 53)) (.int (2 ^ 53 + 1)) = .ok true := by decide +kernel
    exact forall₂_iff_facing.mp (.cons rounded .nil)

/-! ### Data that are compared part by part -/

/-- No truth value in the value, no not-a-number, no integer beyond `2 ^ 53`, and no key twice in one
object. -/
structure Plain (v : Value) : Prop where
  well_keyed : v.WellKeyed
  number : NaNFree v
  no_truth : ∀ b : Bool, ¬ Part (.bool b) v
  exact_integers : ∀ n : Int, Part (.int n) v → n.natAbs ≤ 2 ^ 53

theorem Plain.comparable (h : Plain v) : Comparable v :=
  comparable_of_small h.well_keyed fun n part =>
    Nat.le_trans (h.exact_integers n part) (by decide)

theorem Plain.kind_ne (h : Plain a) (part : Part v a) : v.kind ≠ .bool := by
  intro truth
  cases v <;> cases truth
  exact h.no_truth _ part

theorem Plain.exact {m : Number} (h : Plain a) (part : Part v a) (hm : v.number? = some m) :
    m.Exact := by
  rintro n rfl
  cases v <;> cases hm
  exact h.exact_integers n part

/-- Within the levels, plain lists and objects are equal if and only if their parts are. -/
theorem equal_iff_partsEqual [Levels] (first : Plain a) (second : Plain b)
    (container : a.kind = .list ∨ a.kind = .object) (shallow : ¬ ComparesTooDeep a b) :
    equal a b = .ok true ↔ PartsEqual a b := by
  constructor
  · intro whole
    rw [partsEqual_iff first.comparable second.comparable container whole]
    refine fun v w facing => ⟨?_, ?_⟩
    · rintro ⟨-, ⟨truth, -⟩ | ⟨-, truth⟩⟩
      · exact first.kind_ne facing.part.1 truth
      · exact second.kind_ne facing.part.2 truth
    · by_contra identical
      obtain ⟨m, rfl, -⟩ := identical_iff.mp (Bool.not_eq_false _ ▸ identical)
      cases first.number _ facing.part.1
  · intro parts
    rw [equal_iff_of_partsEqual first.comparable second.comparable container parts]
    refine ⟨shallow, ?_⟩
    rintro v w facing ⟨differ, m, n, x, y, hm, hn, hx, hy, rounded⟩
    have alike := Number.same_of_eq (first.exact facing.part.1 hm) (second.exact facing.part.2 hn)
      hx hy rounded
    rw [same_numbers hm hn, alike] at differ
    cases differ

end TriggerFlow.Rule
