import TriggerFlow.Proofs.Rule.Breakdown
import TriggerFlow.Proofs.Rule.Equivalence
import TriggerFlow.Proofs.Rule.Lazy

/-! # Order and equality fit together

Two texts are ordered by code point, two numbers by the places of what they are rounded to.  Either way
the first is below the second, equal to it or above it, and this decides their equality and all four
relations, in both directions (`Orderable.exists_ordering`).  Other values stand in no relation
(`related_unordered`), except that none can be asked of numbers of which one is too large
(`related_overflow`).  So the operators of order and equality obey the laws of a linear order:
`order_fits_equality`. -/

namespace TriggerFlow.Rule

open Outcome Value

/-- Two texts, or two numbers with places in the order of floating-point numbers. -/
inductive Orderable : Value → Value → Prop
  | texts (s t : String) : Orderable (.str s) (.str t)
  | numbers {a b : Value} {m n : Number} {x y : Binary64} :
      a.number? = some m → b.number? = some n → m.nearest? = some x → n.nearest? = some y →
      x.isNaN = false → y.isNaN = false → Orderable a b

/-- Two numbers of which one is an integer without a nearest floating-point number. -/
def Overflows (a b : Value) : Prop :=
  ∃ m n, a.number? = some m ∧ b.number? = some n ∧ (m.nearest? = none ∨ n.nearest? = none)

variable {a b c s t u context : Value} {p q : Int} {op : Operator} {r : Relation}

/-! ### Relations -/

namespace Relation

/-- The operator that asks for a relation. -/
def operator : Relation → Operator
  | .below => .below
  | .atMost => .atMost
  | .above => .above
  | .atLeast => .atLeast

/-- Whether the relation holds of two of which the first is below or above the second. -/
def holds (below above : Bool) : Relation → Bool
  | .below => below
  | .atMost => !above
  | .above => above
  | .atLeast => !below

/-- Whether the relation holds of two that are ordered in this way. -/
def accepts (o : Ordering) : Relation → Bool
  | .below => o.isLT
  | .atMost => o.isLE
  | .above => o.isGT
  | .atLeast => o.isGE

/-- The relation that holds where the given one does not. -/
def opposite : Relation → Relation
  | .below => .atLeast
  | .atMost => .above
  | .above => .atMost
  | .atLeast => .below

theorem holds_opposite (r : Relation) (below above : Bool) :
    r.opposite.holds below above = !r.holds below above := by
  cases r <;> simp [opposite, holds]

theorem exists_ordering {below above : Bool} (apart : (below && above) = false) :
    ∃ o : Ordering, o.isEq = (!below && !above) ∧
      ∀ r : Relation, r.holds below above = r.accepts o ∧ r.holds above below = r.accepts o.swap := by
  cases below <;> cases above
  · exact ⟨.eq, rfl, fun r => by cases r <;> exact ⟨rfl, rfl⟩⟩
  · exact ⟨.gt, rfl, fun r => by cases r <;> exact ⟨rfl, rfl⟩⟩
  · exact ⟨.lt, rfl, fun r => by cases r <;> exact ⟨rfl, rfl⟩⟩
  · cases apart

theorem onTexts_eq (r : Relation) (s t : String) :
    r.onTexts s t = r.holds (decide (s < t)) (decide (t < s)) := by
  cases r <;> rfl

theorem onNumbers_of_rank {x y : Binary64} (hx : x.rank? = some p) (hy : y.rank? = some q)
    (r : Relation) : r.onNumbers x y = r.holds (decide (p < q)) (decide (q < p)) := by
  have le {p q : Int} : decide (p ≤ q) = !decide (q < p) := by
    rw [← decide_not, decide_eq_decide, Int.not_lt]
  cases r with
  | below => exact Binary64.lt_of_rank hx hy
  | atMost => exact (Binary64.le_of_rank hx hy).trans le
  | above => exact Binary64.lt_of_rank hy hx
  | atLeast => exact (Binary64.le_of_rank hy hx).trans le

theorem onNumbers_opposite {x y : Binary64} (hx : x.isNaN = false) (hy : y.isNaN = false)
    (r : Relation) : r.opposite.onNumbers x y = !r.onNumbers x y := by
  obtain ⟨p, hp⟩ := Binary64.exists_rank hx
  obtain ⟨q, hq⟩ := Binary64.exists_rank hy
  rw [onNumbers_of_rank hp hq, onNumbers_of_rank hp hq, holds_opposite]

theorem onNumbers_of_isNaN {x y : Binary64} (h : x.isNaN = true ∨ y.isNaN = true) (r : Relation) :
    r.onNumbers x y = false := by
  rcases h with h | h <;> cases r <;>
    simp [onNumbers, Binary64.lt, Binary64.le, Binary64.rank?_of_isNaN h]

end Relation

theorem related_numbers {m n : Number} {x y : Binary64} (hm : a.number? = some m)
    (hn : b.number? = some n) (hx : m.nearest? = some x) (hy : n.nearest? = some y) (r : Relation) :
    related r a b = .ok (r.onNumbers x y) := by
  simp [related, hm, hn, toBinary64, hx, hy, bind, Except.bind, pure, Except.pure]

theorem related_places (hp : place? a = some p) (hq : place? b = some q) (r : Relation) :
    related r a b = .ok (r.holds (decide (p < q)) (decide (q < p))) := by
  obtain ⟨m, x, hm, hx, hp⟩ := place?_eq_some.mp hp
  obtain ⟨n, y, hn, hy, hq⟩ := place?_eq_some.mp hq
  rw [related_numbers hm hn hx hy, r.onNumbers_of_rank hp hq]

theorem Orderable.cases (h : Orderable a b) :
    (∃ s t, a = .str s ∧ b = .str t) ∨ ∃ p q, place? a = some p ∧ place? b = some q := by
  cases h with
  | texts s t => exact .inl ⟨s, t, rfl, rfl⟩
  | numbers hm hn hx hy ordered ordered' =>
      obtain ⟨p, hp⟩ := Binary64.exists_rank ordered
      obtain ⟨q, hq⟩ := Binary64.exists_rank ordered'
      exact .inr ⟨p, q, place?_eq_some.mpr ⟨_, _, hm, hx, hp⟩, place?_eq_some.mpr ⟨_, _, hn, hy, hq⟩⟩

/-! ### What can be ordered -/

/-- Of two that can be ordered, the first is below the second, equal to it or above it. -/
theorem Orderable.exists_ordering (h : Orderable a b) :
    ∃ o : Ordering, valuesEqual a b = .ok o.isEq ∧
      ∀ r, related r a b = .ok (r.accepts o) ∧ related r b a = .ok (r.accepts o.swap) := by
  rcases h.cases with ⟨s, t, rfl, rfl⟩ | ⟨p, q, hp, hq⟩
  · have apart : (decide (s < t) && decide (t < s)) = false := by
      simpa using fun h => String.lt_asymm h
    have same : (s == t) = (!decide (s < t) && !decide (t < s)) := by
      rw [Bool.eq_iff_iff]
      simp only [beq_iff_eq, Bool.and_eq_true, Bool.not_eq_true', decide_eq_false_iff_not,
        String.not_lt]
      exact ⟨fun h => h ▸ ⟨String.le_refl s, String.le_refl s⟩,
        fun ⟨h, h'⟩ => String.le_antisymm h' h⟩
    obtain ⟨o, equal, holds⟩ := Relation.exists_ordering apart
    refine ⟨o, congrArg Except.ok (same.trans equal.symm), fun r => ?_⟩
    rw [← (holds r).1, ← (holds r).2, ← r.onTexts_eq, ← r.onTexts_eq]
    exact ⟨rfl, rfl⟩
  · have apart : (decide (p < q) && decide (q < p)) = false := by
      simpa using fun h => Int.le_of_lt h
    have same : decide (p = q) = (!decide (p < q) && !decide (q < p)) := by
      rw [Bool.eq_iff_iff]
      simp only [decide_eq_true_eq, Bool.and_eq_true, Bool.not_eq_true', decide_eq_false_iff_not]
      omega
    obtain ⟨o, equal, holds⟩ := Relation.exists_ordering apart
    refine ⟨o, (valuesEqual_places hp hq).trans (congrArg Except.ok (same.trans equal.symm)),
      fun r => ?_⟩
    rw [related_places hp hq, related_places hq hp, (holds r).1, (holds r).2]
    exact ⟨rfl, rfl⟩

/-! ### What cannot be ordered -/

theorem related_overflow (h : Overflows a b) (r : Relation) :
    related r a b = .error .integerTooLarge := by
  obtain ⟨m, n, hm, hn, large⟩ := h
  simp only [related, hm, hn]
  cases hx : m.nearest? with
  | none =>
      rw [toBinary64_eq_error.mpr ⟨hx, rfl⟩]
      rfl
  | some x =>
      have large : n.nearest? = none := large.resolve_left (by simp [hx])
      rw [toBinary64, hx, toBinary64_eq_error.mpr ⟨large, rfl⟩]
      rfl

theorem related_unordered (h : ¬ Orderable a b) (within : ¬ Overflows a b) (r : Relation) :
    related r a b = .ok false := by
  unfold related
  split
  · rename_i m n hm hn
    have bounded : m.nearest? ≠ none ∧ n.nearest? ≠ none :=
      not_or.mp fun large => within ⟨m, n, hm, hn, large⟩
    obtain ⟨x, hx⟩ := Option.ne_none_iff_exists'.mp bounded.1
    obtain ⟨y, hy⟩ := Option.ne_none_iff_exists'.mp bounded.2
    have unordered : x.isNaN = true ∨ y.isNaN = true := by
      by_contra ordered
      simp only [not_or, Bool.not_eq_true] at ordered
      exact h (.numbers hm hn hx hy ordered.1 ordered.2)
    simp only [toBinary64, hx, hy, bind, Except.bind, r.onNumbers_of_isNaN unordered]
    rfl
  · split
    · exact absurd (.texts _ _) h
    · rfl

theorem orderable_of_below (h : related .below a b = .ok true) : Orderable a b := by
  by_contra unordered
  by_cases overflow : Overflows a b
  · rw [related_overflow overflow] at h
    cases h
  · rw [related_unordered unordered overflow] at h
    cases h

theorem related_below_trans (h : related .below a b = .ok true) (h' : related .below b c = .ok true) :
    related .below a c = .ok true := by
  rcases (orderable_of_below h).cases with ⟨s, t, rfl, rfl⟩ | ⟨p, q, hp, hq⟩
  · rcases (orderable_of_below h').cases with ⟨_, u, ⟨⟩, rfl⟩ | ⟨_, _, place, -⟩
    · have below := String.lt_trans (of_decide_eq_true (Except.ok.inj h))
        (of_decide_eq_true (Except.ok.inj h'))
      exact congrArg Except.ok (decide_eq_true below)
    · cases place
  · rcases (orderable_of_below h').cases with ⟨_, u, rfl, -⟩ | ⟨q', z, hq', hz⟩
    · cases hq
    · rw [hq] at hq'
      cases hq'
      rw [related_places hp hq] at h
      rw [related_places hq hz] at h'
      rw [related_places hp hz]
      have below := Int.lt_trans (of_decide_eq_true (Except.ok.inj h))
        (of_decide_eq_true (Except.ok.inj h'))
      exact congrArg Except.ok (decide_eq_true below)

/-! ### Operators -/

/-- The operator gives true for two trees. -/
def Holds (context : Value) (op : Operator) (s t : Value) : Prop :=
  eval context (operationOf op.symbol [s, t]) = .ok (.bool true)

/-- The operators of order and equality decide how two trees are ordered. -/
structure LinearlyOrdered (context s t : Value) : Prop where
  answers : ∀ op ∈ [Operator.below, .atMost, .equal, .atLeast, .above],
    ∃ answer, eval context (operationOf op.symbol [s, t]) = .ok (.bool answer)
  exactly_one : ∃! op, op ∈ [Operator.below, .equal, .above] ∧ Holds context op s t
  at_most : Holds context .atMost s t ↔ Holds context .below s t ∨ Holds context .equal s t
  at_least : Holds context .atLeast s t ↔ Holds context .above s t ∨ Holds context .equal s t
  swapped : Holds context .below s t ↔ Holds context .above t s

theorem eval_pair (hs : eval context s = .ok a) (ht : eval context t = .ok b)
    (strict : op.isLazy = false) (count : op.arity.admits 2 = true) :
    eval context (operationOf op.symbol [s, t]) = compute op context [a, b] := by
  have evaluated : [s, t].map (eval context) = [a, b].map .ok := by
    rw [List.map_cons, List.map_singleton, hs, ht]
    rfl
  exact eval_strict strict rfl count evaluated

theorem eval_relation (hs : eval context s = .ok a) (ht : eval context t = .ok b) (r : Relation) :
    eval context (operationOf r.operator.symbol [s, t]) = decided (related r a b) := by
  cases r <;> exact eval_pair hs ht rfl rfl

theorem eval_equal (hs : eval context s = .ok a) (ht : eval context t = .ok b) :
    eval context (operationOf Operator.equal.symbol [s, t]) = decided (valuesEqual a b) :=
  eval_pair hs ht rfl rfl

theorem eval_chain (hs : eval context s = .ok a) (ht : eval context t = .ok b)
    (hu : eval context u = .ok c) (triple : r = .below ∨ r = .atMost) :
    eval context (operationOf r.operator.symbol [s, t, u]) = decided (relatedChain r a b c) := by
  have evaluated : [s, t, u].map (eval context) = [a, b, c].map .ok := by
    rw [List.map_cons, List.map_cons, List.map_singleton, hs, ht, hu]
    rfl
  have operation (op : Operator) :
      operation? (operationOf op.symbol [s, t, u]) = some (op.symbol, [s, t, u]) := rfl
  rcases triple with rfl | rfl
  · exact eval_strict rfl (operation .below) rfl evaluated
  · exact eval_strict rfl (operation .atMost) rfl evaluated

/-- The operator that asks whether two are ordered in this way. -/
def operatorOf : Ordering → Operator
  | .lt => .below
  | .eq => .equal
  | .gt => .above

theorem linearlyOrdered_of_ordering {o : Ordering}
    (equal : eval context (operationOf Operator.equal.symbol [s, t]) = .ok (.bool o.isEq))
    (relations : ∀ r : Relation,
      eval context (operationOf r.operator.symbol [s, t]) = .ok (.bool (r.accepts o)) ∧
      eval context (operationOf r.operator.symbol [t, s]) = .ok (.bool (r.accepts o.swap))) :
    LinearlyOrdered context s t := by
  have answer {op : Operator} {answer : Bool} {s t : Value}
      (h : eval context (operationOf op.symbol [s, t]) = .ok (.bool answer)) :
      Holds context op s t ↔ answer = true := by
    rw [Holds, h, Except.ok.injEq, Value.bool.injEq]
  have below : Holds context .below s t ↔ o.isLT = true := answer (relations .below).1
  have above : Holds context .above s t ↔ o.isGT = true := answer (relations .above).1
  have at_most : Holds context .atMost s t ↔ o.isLE = true := answer (relations .atMost).1
  have at_least : Holds context .atLeast s t ↔ o.isGE = true := answer (relations .atLeast).1
  have above_swapped : Holds context .above t s ↔ o.swap.isGT = true := answer (relations .above).2
  have same := answer equal
  have only : ∀ op ∈ [Operator.below, .equal, .above], Holds context op s t ↔ op = operatorOf o := by
    simp only [List.forall_mem_cons]
    refine ⟨below.trans ?_, same.trans ?_, above.trans ?_, nofun⟩ <;> cases o <;> decide
  have asked : operatorOf o ∈ [Operator.below, .equal, .above] := by cases o <;> decide
  refine ⟨?_, ?_, ?_, ?_, ?_⟩
  · simp only [List.forall_mem_cons]
    exact ⟨⟨_, (relations .below).1⟩, ⟨_, (relations .atMost).1⟩, ⟨_, equal⟩,
      ⟨_, (relations .atLeast).1⟩, ⟨_, (relations .above).1⟩, nofun⟩
  · exact ⟨operatorOf o, ⟨asked, (only _ asked).mpr rfl⟩, fun op h => (only op h.1).mp h.2⟩
  · rw [at_most, below, same]
    cases o <;> decide
  · rw [at_least, above, same]
    cases o <;> decide
  · rw [below, above_swapped]
    cases o <;> decide

theorem Orderable.linearlyOrdered (h : Orderable a b) (hs : eval context s = .ok a)
    (ht : eval context t = .ok b) : LinearlyOrdered context s t := by
  obtain ⟨o, equal, relations⟩ := h.exists_ordering
  refine @linearlyOrdered_of_ordering _ _ _ o ?_ fun r => ⟨?_, ?_⟩
  · rw [eval_equal hs ht, equal, decided]
  · rw [eval_relation hs ht, (relations r).1, decided]
  · rw [eval_relation ht hs, (relations r).2, decided]

theorem holds_below_iff (hs : eval context s = .ok a) (ht : eval context t = .ok b) :
    Holds context .below s t ↔ related .below a b = .ok true := by
  have evaluated : eval context (operationOf Operator.below.symbol [s, t]) =
      decided (related .below a b) := eval_relation hs ht .below
  rw [Holds, evaluated]
  cases related .below a b <;> simp [decided]

theorem eval_both (context s t : Value) :
    eval context (operationOf "and" [s, t]) =
      firstWhere Operator.conjunction.settles [eval context s, eval context t] :=
  eval_connective (.inl rfl) (List.cons_ne_nil s [t]) context

/-- A chain of three is the conjunction of its two pairs, faults included. -/
theorem eval_chain_eq_conjunction (hs : eval context s = .ok a) (ht : eval context t = .ok b)
    (hu : eval context u = .ok c) (triple : r = .below ∨ r = .atMost) :
    eval context (operationOf r.operator.symbol [s, t, u]) =
      eval context (operationOf "and"
        [operationOf r.operator.symbol [s, t], operationOf r.operator.symbol [t, u]]) := by
  rw [eval_chain hs ht hu triple, eval_both, eval_relation hs ht, eval_relation ht hu, relatedChain]
  cases related r a b with
  | error cause => rfl
  | ok answer => cases answer <;> rfl

/-- **Order and equality fit together.**  Of two trees that evaluate to texts, or to numbers that have
places in the order of floating-point numbers, the first is below the second, equal to it or above it,
and only one of these; the weak relations are the strict ones or equality, and being below is being
above the other way round.  Being below is transitive on all values.  Numbers are compared as what they
are rounded to.  Any other two values stand in none of the four relations, but that these break down on
two numbers of which one is an integer too large to be rounded.  A comparison of three is the
conjunction of the comparisons of neighbours. -/
theorem order_fits_equality (context : Value) {s t u a b c : Value} (hs : eval context s = .ok a)
    (ht : eval context t = .ok b) (hu : eval context u = .ok c) :
    (Orderable a b → LinearlyOrdered context s t) ∧
    (Holds context .below s t → Holds context .below t u → Holds context .below s u) ∧
    (∀ m n x y, a.number? = some m → b.number? = some n → m.nearest? = some x →
      n.nearest? = some y → ∀ r : Relation,
        eval context (operationOf r.operator.symbol [s, t]) = .ok (.bool (r.onNumbers x y))) ∧
    (¬ Orderable a b → ¬ Overflows a b → ∀ r : Relation,
      eval context (operationOf r.operator.symbol [s, t]) = .ok (.bool false)) ∧
    (Overflows a b → ∀ r : Relation,
      eval context (operationOf r.operator.symbol [s, t]) = .error (.breakdown .integerTooLarge)) ∧
    (∀ r : Relation, r = .below ∨ r = .atMost →
      eval context (operationOf r.operator.symbol [s, t, u]) =
        eval context (operationOf "and"
          [operationOf r.operator.symbol [s, t], operationOf r.operator.symbol [t, u]])) := by
  refine ⟨fun h => h.linearlyOrdered hs ht, ?_, ?_, ?_, ?_, ?_⟩
  · rw [holds_below_iff hs ht, holds_below_iff ht hu, holds_below_iff hs hu]
    exact related_below_trans
  · intro m n x y hm hn hx hy r
    rw [eval_relation hs ht, related_numbers hm hn hx hy, decided]
  · intro unordered within r
    rw [eval_relation hs ht, related_unordered unordered within, decided]
  · intro overflow r
    rw [eval_relation hs ht, related_overflow overflow, decided]
  · intro r triple
    exact eval_chain_eq_conjunction hs ht hu triple

/-- A parcel of which one weight is counted and two are measured. -/
def parcel : Value := .object [
  ("counted", .int (2 ^ 53 + 1)), ("measured", .float (.ofInt (2 ^ 53))),
  ("limit", .float (.ofInt (2 ^ 54)))]

/-- The weight of a parcel. -/
def weightOf (name : String) : Value := .object [("var", .str name)]

theorem order_fits_equality_parcel :
    eval parcel (weightOf "counted") = .ok (.int (2 ^ 53 + 1)) ∧
      eval parcel (weightOf "measured") = .ok (.float (.ofInt (2 ^ 53))) ∧
      eval parcel (weightOf "limit") = .ok (.float (.ofInt (2 ^ 54))) ∧
      Orderable (.int (2 ^ 53 + 1)) (.float (.ofInt (2 ^ 53))) ∧
      Holds parcel .equal (weightOf "counted") (weightOf "measured") ∧
      eval parcel (operationOf "<=" [weightOf "counted", weightOf "measured", weightOf "limit"]) =
        .ok (.bool true) := by
  have counted : eval parcel (weightOf "counted") = .ok (.int (2 ^ 53 + 1)) := rfl
  have measured : eval parcel (weightOf "measured") = .ok (.float (.ofInt (2 ^ 53))) := rfl
  have limit : eval parcel (weightOf "limit") = .ok (.float (.ofInt (2 ^ 54))) := rfl
  have rounded : (Number.int (2 ^ 53 + 1)).nearest? = some (.ofInt (2 ^ 53 + 1)) := by
    decide +kernel
  have orderable : Orderable (.int (2 ^ 53 + 1)) (.float (.ofInt (2 ^ 53))) :=
    .numbers rfl rfl rounded rfl (Binary64.isNaN_ofInt _) (Binary64.isNaN_ofInt _)
  obtain ⟨ordered, -, asRounded, -, -, chained⟩ :=
    order_fits_equality parcel counted measured limit
  obtain ⟨-, -, asMeasured, -⟩ := order_fits_equality parcel measured limit counted
  have strictly : Relation.onNumbers .below (.ofInt (2 ^ 53 + 1)) (.ofInt (2 ^ 53)) = false := by
    decide +kernel
  have weakly : Relation.onNumbers .atMost (.ofInt (2 ^ 53 + 1)) (.ofInt (2 ^ 53)) = true := by
    decide +kernel
  have weakly' : Relation.onNumbers .atMost (.ofInt (2 ^ 53)) (.ofInt (2 ^ 54)) = true := by
    decide +kernel
  have below := asRounded _ _ _ _ rfl rfl rounded rfl .below
  have at_most := asRounded _ _ _ _ rfl rfl rounded rfl .atMost
  have at_most' := asMeasured _ _ _ _ rfl rfl rfl rfl .atMost
  rw [strictly] at below
  rw [weakly] at at_most
  rw [weakly'] at at_most'
  have equal := ((ordered orderable).at_most.mp at_most).resolve_left fun above => by
    rw [Holds] at above
    cases below.symm.trans above
  refine ⟨counted, measured, limit, orderable, equal, ?_⟩
  refine (chained .atMost (.inr rfl)).trans ?_
  rw [eval_both, at_most, at_most']
  rfl

/-- No relation can be asked of a number of 401 digits. -/
theorem oversized_is_not_ordered :
    ¬ Orderable (.int (10 ^ 400)) (.int 0) ∧
      eval (.object []) (operationOf "<" [.int (10 ^ 400), .int 0]) =
        .error (.breakdown .integerTooLarge) := by
  have large : (Number.int (10 ^ 400)).nearest? = none :=
    Number.nearest?_eq_none_iff.mpr (by decide +kernel)
  constructor
  · rintro (_ | ⟨hm, -, hx, -⟩)
    cases hm
    rw [large] at hx
    cases hx
  · have overflow : Overflows (.int (10 ^ 400)) (.int 0) := ⟨_, _, rfl, rfl, .inl large⟩
    have given (n : Int) : eval (.object []) (.int n) = .ok (.int n) := eval_literal _ rfl
    have asked := eval_relation (given (10 ^ 400)) (given 0) .below
    rw [related_overflow overflow] at asked
    exact asked

end TriggerFlow.Rule
