import TriggerFlow.Proofs.Outcome
import TriggerFlow.Proofs.Value.Parts

/-! # The limits of comparing, writing and encoding

Comparing two values, looking for one in a list, and writing or encoding one give up only on data of
too many levels or digits.  Each lemma says on what exactly, and that there is an answer otherwise. -/

namespace TriggerFlow.Value

open Outcome

variable [Levels]

/-- Two values whose comparison goes down more levels than there are. -/
def ComparesTooDeep (v w : Value) : Prop :=
  Levels.comparison < v.nesting ∧ Levels.comparison < w.nesting ∧
    Levels.comparison < v.comparedDepth w

/-- The search for a value in a list meets an item that cannot be compared with it. -/
def SearchesTooDeep (v : Value) (items : List Value) : Prop :=
  ∃ before item after, items = before ++ item :: after ∧
    (∀ w ∈ before, ¬ ComparesTooDeep w v ∧ w.alike v = false) ∧ ComparesTooDeep item v

/-- Why a value has no text: what is met first in writing it. -/
def Unwritable (v : Value) (cause : Breakdown) : Prop :=
  v.obstacle? .writing Levels.writing = some cause

/-- Why a value cannot be encoded: what is met first in encoding it. -/
def Unencodable (v : Value) (cause : Breakdown) : Prop :=
  v.obstacle? .encoding Levels.encoding = some cause

variable {v w : Value} {items : List Value} {cause : Breakdown}

/-! ### Comparing -/

theorem sameWithin_of_tooDeep (h : ComparesTooDeep v w) :
    v.sameWithin w = .error (.nestedTooDeeply .comparison) := by
  rw [sameWithin, if_pos]
  simpa [ComparesTooDeep, and_assoc] using h

theorem sameWithin_of_shallow (h : ¬ ComparesTooDeep v w) : v.sameWithin w = .ok (v.same w) := by
  rw [sameWithin, if_neg]
  simpa [ComparesTooDeep, and_assoc] using h

theorem sameWithin_eq_error :
    v.sameWithin w = .error cause ↔ ComparesTooDeep v w ∧ cause = .nestedTooDeeply .comparison := by
  by_cases h : ComparesTooDeep v w
  · simp [sameWithin_of_tooDeep h, h, eq_comm]
  · simp [sameWithin_of_shallow h, h]

theorem sameWithin_eq_ok {b : Bool} :
    v.sameWithin w = .ok b ↔ ¬ ComparesTooDeep v w ∧ v.same w = b := by
  by_cases h : ComparesTooDeep v w
  · simp [sameWithin_of_tooDeep h, h]
  · simp [sameWithin_of_shallow h, h]

theorem not_tooDeep_of_identical (h : v.identical w = true) : ¬ ComparesTooDeep v w :=
  fun deep => Nat.not_lt_zero _ ((nesting_of_identical h).1 ▸ deep.1)

theorem alikeWithin_eq_error :
    v.alikeWithin w = .error cause ↔
      ComparesTooDeep v w ∧ cause = .nestedTooDeeply .comparison := by
  rw [alikeWithin]
  split
  case isTrue h => simp [not_tooDeep_of_identical h]
  case isFalse => exact sameWithin_eq_error

theorem alikeWithin_eq_ok {b : Bool} :
    v.alikeWithin w = .ok b ↔ ¬ ComparesTooDeep v w ∧ v.alike w = b := by
  rw [alikeWithin, alike]
  split
  case isTrue h => simp [not_tooDeep_of_identical h, h]
  case isFalse h => simp [sameWithin_eq_ok, h]

theorem searchesTooDeep_cons {item : Value} :
    SearchesTooDeep v (item :: items) ↔
      ComparesTooDeep item v ∨
        (¬ ComparesTooDeep item v ∧ item.alike v = false) ∧ SearchesTooDeep v items := by
  constructor
  · rintro ⟨before, found, after, h, differ, deep⟩
    cases before with
    | nil =>
        cases h
        exact .inl deep
    | cons w before =>
        cases h
        exact .inr ⟨differ _ List.mem_cons_self, before, found, after, rfl,
          fun w hw => differ w (List.mem_cons_of_mem _ hw), deep⟩
  · rintro (deep | ⟨differs, before, found, after, rfl, differ, deep⟩)
    · exact ⟨[], item, items, rfl, nofun, deep⟩
    · exact ⟨item :: before, found, after, rfl, List.forall_mem_cons.mpr ⟨differs, differ⟩, deep⟩

theorem isAmongWithin_eq_error :
    v.isAmongWithin items = .error cause ↔
      SearchesTooDeep v items ∧ cause = .nestedTooDeeply .comparison := by
  induction items with
  | nil => exact ⟨nofun, fun ⟨⟨before, _, _, h, _⟩, _⟩ => by cases before <;> cases h⟩
  | cons item rest ih =>
      rw [isAmongWithin, bind_eq_error, alikeWithin_eq_error, searchesTooDeep_cons]
      simp only [alikeWithin_eq_ok]
      constructor
      · rintro (⟨deep, rfl⟩ | ⟨same, ⟨shallow, rfl⟩, h⟩)
        · exact ⟨.inl deep, rfl⟩
        · split at h
          · cases h
          · have := ih.mp h
            simp_all
      · rintro ⟨deep | ⟨⟨shallow, differs⟩, deep⟩, rfl⟩
        · exact .inl ⟨deep, rfl⟩
        · exact .inr ⟨false, ⟨shallow, differs⟩, ih.mpr ⟨deep, rfl⟩⟩

/-! ### Obstacles -/

section Obstacles

omit [Levels]

variable {during : Descent}

mutual

/-- An obstacle is a container without a level, or an integer that is too long. -/
theorem obstacle?_eq_some : {levels : Nat} → (v : Value) →
    v.obstacle? during levels = some cause →
      cause = .nestedTooDeeply during ∧ levels < v.nesting ∨
        cause = .integerTooLong ∧ v.hasLongInteger Breakdown.digitLimit = true
  | _, .null | _, .bool _ | _, .float _ | _, .str _ => by simp [obstacle?]
  | _, .int n => by
    intro h
    by_cases long : 10 ^ Breakdown.digitLimit ≤ n.natAbs
    · rw [obstacle?, if_pos long] at h
      refine .inr ⟨(Option.some.inj h).symm, ?_⟩
      rw [hasLongInteger, decide_eq_true long]
    · simp [obstacle?, long] at h
  | 0, .list items | 0, .object entries => by
    intro h
    rw [obstacle?] at h
    exact .inl ⟨(Option.some.inj h).symm, Nat.succ_pos _⟩
  | levels + 1, .list items => by
    intro h
    rw [obstacle?] at h
    exact (obstacleAmong?_eq_some items h).imp_left fun found =>
      ⟨found.1, Nat.succ_lt_succ found.2⟩
  | levels + 1, .object entries => by
    intro h
    rw [obstacle?] at h
    exact (obstacleUnder?_eq_some entries h).imp_left fun found =>
      ⟨found.1, Nat.succ_lt_succ found.2⟩

theorem obstacleAmong?_eq_some : {levels : Nat} → (items : List Value) →
    obstacleAmong? during levels items = some cause →
      cause = .nestedTooDeeply during ∧ levels < nestingItems items ∨
        cause = .integerTooLong ∧ anyLongInteger Breakdown.digitLimit items = true
  | _, [] => by simp [obstacleAmong?]
  | _, v :: rest => by
    rw [obstacleAmong?, Option.or_eq_some_iff, nestingItems, anyLongInteger, Bool.or_eq_true]
    rintro (h | ⟨-, h⟩)
    · exact (obstacle?_eq_some v h).imp
        (And.imp_right fun deep => Nat.lt_of_lt_of_le deep (Nat.le_max_left ..))
        (And.imp_right .inl)
    · exact (obstacleAmong?_eq_some rest h).imp
        (And.imp_right fun deep => Nat.lt_of_lt_of_le deep (Nat.le_max_right ..))
        (And.imp_right .inr)

theorem obstacleUnder?_eq_some : {levels : Nat} → (entries : List (String × Value)) →
    obstacleUnder? during levels entries = some cause →
      cause = .nestedTooDeeply during ∧ levels < nestingEntries entries ∨
        cause = .integerTooLong ∧ anyLongIntegerAt Breakdown.digitLimit entries = true
  | _, [] => by simp [obstacleUnder?]
  | _, (_, v) :: rest => by
    rw [obstacleUnder?, Option.or_eq_some_iff, nestingEntries, anyLongIntegerAt, Bool.or_eq_true]
    rintro (h | ⟨-, h⟩)
    · exact (obstacle?_eq_some v h).imp
        (And.imp_right fun deep => Nat.lt_of_lt_of_le deep (Nat.le_max_left ..))
        (And.imp_right .inl)
    · exact (obstacleUnder?_eq_some rest h).imp
        (And.imp_right fun deep => Nat.lt_of_lt_of_le deep (Nat.le_max_right ..))
        (And.imp_right .inr)

end

theorem obstacle?_nested (n levels : Nat) :
    (nested n).obstacle? during levels =
      if levels ≤ n then some (.nestedTooDeeply during) else none := by
  induction n generalizing levels with
  | zero => cases levels <;> rfl
  | succ n ih =>
      cases levels with
      | zero => rfl
      | succ levels =>
          rw [nested, obstacle?, obstacleAmong?, ih, obstacleAmong?, Option.or_none]
          simp only [Nat.succ_le_succ_iff]

end Obstacles

/-! ### Writing -/

theorem written_eq_error {write : Value → String} :
    v.written write = .error cause ↔ Unwritable v cause := by
  rw [written, Unwritable]
  split <;> simp_all

theorem textWithin_eq_error : v.textWithin = .error cause ↔ Unwritable v cause :=
  written_eq_error

theorem exists_text (h : ∀ cause, ¬ Unwritable v cause) : ∃ s, v.textWithin = .ok s := by
  cases ht : v.textWithin with
  | ok s => exact ⟨s, rfl⟩
  | error cause => exact absurd (textWithin_eq_error.mp ht) (h cause)

/-! ### Encoding -/

theorem checkEncoding_eq_error : v.checkEncoding = .error cause ↔ Unencodable v cause := by
  rw [checkEncoding, Unencodable]
  split <;> simp_all

end TriggerFlow.Value
