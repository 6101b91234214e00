import TriggerFlow.Proofs.Rule.Equality
import TriggerFlow.Proofs.Rule.Variable
import TriggerFlow.Proofs.Value.Sameness

/-! # Equality is an equivalence

Two numbers are compared by the places of the floating-point numbers that they are rounded to
(`place?`), two other values by their kinds and exact data.  Both are equivalences, and no number is
equal to anything else (`valuesEqual_iff`).  What equality adds is the limit on levels.  It is met by
values which are equal exactly if one of them nests too deeply, so that equality is reflexive up to the
limit, and symmetric and transitive throughout (`equal_equivalence`). -/

namespace TriggerFlow.Rule

open Value

/-- Every object in the value has each of its keys once, nothing in it is not-a-number, and the value
itself is no integer without a nearest floating-point number. -/
structure Equatable (v : Value) : Prop where
  well_keyed : v.WellKeyed
  number : NaNFree v
  in_range : ∀ n : Int, v = .int n → (Number.int n).nearest? ≠ none

/-- The place, in the order of floating-point numbers, of the number that the value is rounded to. -/
def place? (v : Value) : Option Int :=
  v.number?.bind fun m => m.nearest?.bind Binary64.rank?

variable {a b c v w : Value} {p q : Int}

theorem equatable_atom (h : v.nesting = 0) (number : ∀ x, v = .float x → x.isNaN = false)
    (small : ∀ n : Int, v = .int n → n.natAbs ≤ 2 ^ 64) : Equatable v where
  well_keyed := wellKeyed_of_nesting_zero h
  number := naNFree_atom h number
  in_range := fun n hn => Number.nearest?_ne_none (small n hn)

theorem equatable_list {items : List Value} (h : ∀ v ∈ items, Equatable v) :
    Equatable (.list items) where
  well_keyed := wellKeyed_list fun v hv => (h v hv).well_keyed
  number := naNFree_list.mpr fun v hv => (h v hv).number
  in_range := nofun

theorem equatable_object {entries : Entries} (keys : (entries.map Prod.fst).Nodup)
    (h : ∀ e ∈ entries, Equatable e.2) : Equatable (.object entries) where
  well_keyed := wellKeyed_object keys fun e he => (h e he).well_keyed
  number := naNFree_object.mpr fun e he => (h e he).number
  in_range := nofun

/-! ### Places -/

theorem place?_eq_some : place? v = some p ↔
    ∃ m x, v.number? = some m ∧ m.nearest? = some x ∧ x.rank? = some p := by
  simp [place?, Option.bind_eq_some_iff]

theorem valuesEqual_places (hp : place? v = some p) (hq : place? w = some q) :
    valuesEqual v w = .ok (decide (p = q)) := by
  obtain ⟨m, x, hm, hx, hp⟩ := place?_eq_some.mp hp
  obtain ⟨n, y, hn, hy, hq⟩ := place?_eq_some.mp hq
  rw [valuesEqual_numbers hm hn hx hy, Binary64.eq_of_rank hp hq]

theorem Equatable.nearest {m : Number} (h : Equatable v) (hm : v.number? = some m) :
    ∃ x, m.nearest? = some x ∧ x.isNaN = false := by
  cases v with
  | int n =>
      cases hm
      obtain ⟨x, hx⟩ := Option.ne_none_iff_exists'.mp (h.in_range n rfl)
      exact ⟨x, hx, Number.isNaN_nearest hx⟩
  | float x =>
      cases hm
      exact ⟨x, rfl, h.number x .whole⟩
  | _ => cases hm

/-- A number among such values has a place. -/
theorem Equatable.exists_place (h : Equatable v) (number : v.number? ≠ none) :
    ∃ p, place? v = some p := by
  obtain ⟨m, hm⟩ := Option.ne_none_iff_exists'.mp number
  obtain ⟨x, hx, ordered⟩ := h.nearest hm
  obtain ⟨p, hp⟩ := Binary64.exists_rank ordered
  exact ⟨p, place?_eq_some.mpr ⟨m, x, hm, hx, hp⟩⟩

theorem number?_of_kind (h : v.kind = w.kind) (other : w.number? = none) :
    v.number? = none := by
  cases v <;> cases w <;> simp_all [Value.kind, Value.number?]

/-! ### What is compared -/

/-- Values are equal if they have the same place, or are no numbers and of the same kind and data. -/
theorem valuesEqual_iff (first : Equatable v) (second : Equatable w) :
    valuesEqual v w = .ok true ↔
      (∃ p, place? v = some p ∧ place? w = some p) ∨
        v.number? = none ∧ v.kind = w.kind ∧ v.same w = true := by
  by_cases numbers : v.number? = none ∨ w.number? = none
  · have apart : ¬ ∃ p, place? v = some p ∧ place? w = some p := by
      rintro ⟨p, hp, hq⟩
      obtain ⟨m, -, hm, -⟩ := place?_eq_some.mp hp
      obtain ⟨n, -, hn, -⟩ := place?_eq_some.mp hq
      simp [hm, hn] at numbers
    rw [valuesEqual_of_not_numbers numbers, or_iff_right apart, Except.ok.injEq, Bool.and_eq_true,
      beq_iff_eq]
    exact (and_iff_right_of_imp fun alike => numbers.elim id (number?_of_kind alike.1)).symm
  · obtain ⟨hv, hw⟩ := not_or.mp numbers
    obtain ⟨p, hp⟩ := first.exists_place hv
    obtain ⟨q, hq⟩ := second.exists_place hw
    rw [valuesEqual_places hp hq, hp, hq, or_iff_left fun h => hv h.1, Except.ok.injEq,
      decide_eq_true_eq]
    constructor
    · rintro rfl
      exact ⟨p, rfl, rfl⟩
    · rintro ⟨_, ⟨⟩, ⟨⟩⟩
      rfl

theorem valuesEqual_self (h : Equatable v) : valuesEqual v v = .ok true := by
  rw [valuesEqual_iff h h]
  by_cases number : v.number? = none
  · exact .inr ⟨number, rfl, same_self h.well_keyed h.number⟩
  · obtain ⟨p, hp⟩ := h.exists_place number
    exact .inl ⟨p, hp, hp⟩

theorem valuesEqual_symm (first : Equatable v) (second : Equatable w)
    (h : valuesEqual v w = .ok true) : valuesEqual w v = .ok true := by
  rw [valuesEqual_iff second first]
  rcases (valuesEqual_iff first second).mp h with ⟨p, hp, hq⟩ | ⟨other, kind, same⟩
  · exact .inl ⟨p, hq, hp⟩
  · exact .inr ⟨number?_of_kind kind.symm other, kind.symm,
      same_symm first.well_keyed second.well_keyed same⟩

theorem valuesEqual_trans (first : Equatable a) (second : Equatable b) (third : Equatable c)
    (h : valuesEqual a b = .ok true) (h' : valuesEqual b c = .ok true) :
    valuesEqual a c = .ok true := by
  rw [valuesEqual_iff first third]
  rcases (valuesEqual_iff first second).mp h with ⟨p, hp, hq⟩ | ⟨other, kind, same⟩
  · rcases (valuesEqual_iff second third).mp h' with ⟨q, hq', hr⟩ | ⟨other, -⟩
    · rw [hq] at hq'
      cases hq'
      exact .inl ⟨p, hp, hr⟩
    · obtain ⟨m, -, hm, -⟩ := place?_eq_some.mp hq
      rw [hm] at other
      cases other
  · rcases (valuesEqual_iff second third).mp h' with ⟨q, hq', -⟩ | ⟨-, kind', same'⟩
    · obtain ⟨m, -, hm, -⟩ := place?_eq_some.mp hq'
      rw [number?_of_kind kind.symm other] at hm
      cases hm
    · exact .inr ⟨other, kind.trans kind', same_trans first.well_keyed second.well_keyed
        third.well_keyed same same'⟩

/-! ### The limit on levels -/

theorem nesting_of_place (h : place? v = some p) : v.nesting = 0 := by
  obtain ⟨m, -, hm, -⟩ := place?_eq_some.mp h
  cases v <;> cases hm <;> rfl

theorem nesting_eq_of_valuesEqual (first : Equatable v) (second : Equatable w)
    (h : valuesEqual v w = .ok true) : v.nesting = w.nesting := by
  rcases (valuesEqual_iff first second).mp h with ⟨p, hp, hq⟩ | ⟨-, -, same⟩
  · rw [nesting_of_place hp, nesting_of_place hq]
  · exact nesting_eq_of_same first.well_keyed second.well_keyed same

/-- Values which are equal but for the limit are equal exactly if they nest within it. -/
theorem equal_iff_within [Levels] (first : Equatable v) (second : Equatable w) :
    equal v w = .ok true ↔ valuesEqual v w = .ok true ∧ v.nesting ≤ Levels.comparison := by
  rw [equal_eq_true, and_comm]
  refine and_congr_right fun h => ?_
  rcases (valuesEqual_iff first second).mp h with ⟨p, hp, -⟩ | ⟨-, -, same⟩
  · simp [ComparesTooDeep, nesting_of_place hp]
  · rw [tooDeep_iff_of_same first.well_keyed second.well_keyed same, Nat.not_lt]

/-- But for the limit, there is always an answer. -/
theorem valuesEqual_ne_error (first : Equatable v) (second : Equatable w) (cause : Breakdown) :
    valuesEqual v w ≠ .error cause := by
  by_cases numbers : v.number? = none ∨ w.number? = none
  · rw [valuesEqual_of_not_numbers numbers]
    nofun
  · obtain ⟨hv, hw⟩ := not_or.mp numbers
    obtain ⟨p, hp⟩ := first.exists_place hv
    obtain ⟨q, hq⟩ := second.exists_place hw
    rw [valuesEqual_places hp hq]
    nofun

theorem equal_eq_error [Levels] {cause : Breakdown} (first : Equatable v) (second : Equatable w) :
    equal v w = .error cause ↔ ComparesTooDeep v w ∧ cause = .nestedTooDeeply .comparison := by
  rw [equal, Outcome.bind_eq_error, sameWithin_eq_error]
  refine or_iff_left ?_
  rintro ⟨_, -, h⟩
  exact valuesEqual_ne_error first second cause h

theorem equal_symm [Levels] (first : Equatable v) (second : Equatable w) (h : equal v w = .ok true) :
    equal w v = .ok true := by
  obtain ⟨same, within⟩ := (equal_iff_within first second).mp h
  refine (equal_iff_within second first).mpr ⟨valuesEqual_symm first second same, ?_⟩
  rwa [← nesting_eq_of_valuesEqual first second same]

theorem equal_trans [Levels] (first : Equatable a) (second : Equatable b) (third : Equatable c)
    (h : equal a b = .ok true) (h' : equal b c = .ok true) : equal a c = .ok true := by
  obtain ⟨same, within⟩ := (equal_iff_within first second).mp h
  obtain ⟨same', -⟩ := (equal_iff_within second third).mp h'
  exact (equal_iff_within first third).mpr ⟨valuesEqual_trans first second third same same', within⟩

theorem equal_numbers [Levels] {m n : Number} (first : Equatable v) (second : Equatable w)
    (hm : v.number? = some m) (hn : w.number? = some n) :
    ∃ x y, m.nearest? = some x ∧ n.nearest? = some y ∧ equal v w = .ok (x.eq y) := by
  obtain ⟨x, hx, -⟩ := first.nearest hm
  obtain ⟨y, hy, -⟩ := second.nearest hn
  have shallow : ¬ ComparesTooDeep v w := by
    have atom : v.nesting = 0 := by cases v <;> cases hm <;> rfl
    simp [ComparesTooDeep, atom]
  refine ⟨x, y, hx, hy, ?_⟩
  rw [equal, sameWithin_of_shallow shallow]
  exact valuesEqual_numbers hm hn hx hy

/-- **Equality is an equivalence.**  Comparing two values for equality gives an answer unless both nest
more deeply than there are levels and the comparison goes down that far.  A value is equal to itself
exactly if it nests within the levels; equality is symmetric, and transitive.  For two numbers this is
the equality of what they are rounded to; for two lists or objects it is that of the exact values of
what stands in the same place, where true is one and false is zero. -/
theorem equal_equivalence [Levels] (a b c : Value) (first : Equatable a) (second : Equatable b)
    (third : Equatable c) :
    (∀ cause, equal a b = .error cause ↔
      ComparesTooDeep a b ∧ cause = .nestedTooDeeply .comparison) ∧
    (equal a a = .ok true ↔ a.nesting ≤ Levels.comparison) ∧
    (equal a b = .ok true ↔ equal b a = .ok true) ∧
    (equal a b = .ok true → equal b c = .ok true → equal a c = .ok true) ∧
    (∀ m n, a.number? = some m → b.number? = some n →
      ∃ x y, m.nearest? = some x ∧ n.nearest? = some y ∧ equal a b = .ok (x.eq y)) ∧
    ((a.kind = .list ∨ a.kind = .object) →
      (equal a b = .ok true ↔
        ¬ ComparesTooDeep a b ∧ SameShape a b ∧ ∀ v w, Facing v w a b → v.same w = true)) := by
  refine ⟨fun cause => equal_eq_error first second, ?_, ?_, ?_, ?_, ?_⟩
  · rw [equal_iff_within first first, and_iff_right (valuesEqual_self first)]
  · exact ⟨equal_symm first second, equal_symm second first⟩
  · exact equal_trans first second third
  · intro m n hm hn
    exact equal_numbers first second hm hn
  · intro container
    rw [equal_wellKeyed first.well_keyed second.well_keyed container]
    refine and_congr_right fun _ => and_congr_right fun _ => forall₃_congr fun v w facing => ?_
    rw [alike_eq_same w fun x hx => first.number x (hx ▸ facing.part.1)]

/-- An order of which everything is measured. -/
def measuredOrder : Value :=
  .object [("paid", .float (.ofInt 1)), ("weights", .list [.float (.ofInt 2)])]

theorem equal_equivalence_measuredOrder :
    Equatable flaggedOrder ∧ Equatable countedOrder ∧ Equatable measuredOrder ∧
      equal flaggedOrder countedOrder = .ok true ∧ equal countedOrder measuredOrder = .ok true ∧
      equal flaggedOrder measuredOrder = .ok true ∧ equal measuredOrder flaggedOrder = .ok true := by
  have truth : Equatable (.bool true) := equatable_atom rfl nofun nofun
  have integer {n : Int} (small : n.natAbs ≤ 2 ^ 64) : Equatable (.int n) :=
    equatable_atom rfl nofun (by rintro _ ⟨⟩; exact small)
  have measure (n : Int) : Equatable (.float (.ofInt n)) :=
    equatable_atom rfl (by rintro _ ⟨⟩; exact Binary64.isNaN_ofInt n) nofun
  have single {v : Value} (h : Equatable v) : Equatable (.list [v]) :=
    equatable_list (List.forall_mem_singleton.mpr h)
  have pair {k l : String} {v w : Value} (keys : [k, l].Nodup) (hv : Equatable v)
      (hw : Equatable w) : Equatable (.object [(k, v), (l, w)]) :=
    equatable_object keys (List.forall_mem_cons.mpr ⟨hv, List.forall_mem_singleton.mpr hw⟩)
  have flagged : Equatable flaggedOrder := pair (by decide) truth (single (integer (by decide)))
  have counted : Equatable countedOrder :=
    pair (by decide) (single (measure 2)) (integer (by decide))
  have measured : Equatable measuredOrder := pair (by decide) (measure 1) (single (measure 2))
  obtain ⟨-, -, -, transitive, -⟩ :=
    equal_equivalence flaggedOrder countedOrder measuredOrder flagged counted measured
  obtain ⟨-, -, symmetric, -⟩ :=
    equal_equivalence flaggedOrder measuredOrder countedOrder flagged measured counted
  have first : equal flaggedOrder countedOrder = .ok true := by decide +kernel
  have second : equal countedOrder measuredOrder = .ok true := by decide +kernel
  have third := transitive first second
  exact ⟨flagged, counted, measured, first, second, third, symmetric.mp third⟩

theorem equatable_chain (n : Nat) : Equatable (chain n) := by
  induction n with
  | zero => exact equatable_object .nil nofun
  | succ n ih => exact equatable_object (by simp) (List.forall_mem_singleton.mpr ih)

/-- A long chain goes too deep to be compared with itself. -/
theorem chain_comparesTooDeep [Levels] {n : Nat} (h : Levels.comparison ≤ n) :
    ComparesTooDeep (chain n) (chain n) := by
  have equatable := equatable_chain n
  have same := same_self equatable.well_keyed equatable.number
  rw [tooDeep_iff_of_same equatable.well_keyed equatable.well_keyed same, nesting_chain]
  omega

/-- A chain of 2001 orders is not even compared with itself. -/
theorem chain_is_not_compared :
    Equatable (chain 2000) ∧
      equal (chain 2000) (chain 2000) = .error (.nestedTooDeeply .comparison) := by
  have equatable := equatable_chain 2000
  have deep := chain_comparesTooDeep (show Levels.comparison ≤ 2000 by decide)
  exact ⟨equatable, (equal_eq_error equatable equatable).mpr ⟨deep, rfl⟩⟩

end TriggerFlow.Rule
