import Mathlib.Data.List.Forall2
import TriggerFlow.Proofs.Number.Rounding
import TriggerFlow.Schema.Scalar

/-! # Reading against a schema, step by step

Data is accepted if and only if every part of it that is read is accepted.  The lemmas say so for each
way of putting readers together: one after another (`seq_eq_accepted`, `andThen_eq_accepted`), item by
item (`items_eq_accepted`) and field by field (`required_eq_accepted`, `defaulted_eq_accepted`).  A
reading breaks down if one of its parts does; scalars never do (`Steady`). -/

namespace TriggerFlow.Schema

namespace Checked

variable {α β : Type} {entries : Entries} {name : String} {a default : α} {b : β}

theorem seq_eq_accepted {f : Checked (α → β)} {x : Checked α} :
    f <*> x = .accepted b ↔ ∃ g a, f = .accepted g ∧ x = .accepted a ∧ g a = b := by
  change Checked.apply f x = .accepted b ↔ _
  cases f <;> cases x <;> simp [Checked.apply]

theorem map_eq_accepted {f : α → β} {x : Checked α} :
    f <$> x = .accepted b ↔ ∃ a, x = .accepted a ∧ f a = b := by
  change Checked.map f x = .accepted b ↔ _
  cases x <;> simp [Checked.map]

theorem andThen_eq_accepted {x : Checked α} {check : α → Checked β} :
    x.andThen check = .accepted b ↔ ∃ a, x = .accepted a ∧ check a = .accepted b := by
  cases x <;> simp [Checked.andThen]

theorem at_eq_accepted {x : Checked α} {place : Place} :
    x.at_ place = .accepted a ↔ x = .accepted a := by
  cases x <;> simp [at_]

theorem items_eq_accepted {read : Value → Checked α} {index : Nat} {vs : List Value}
    {as : List α} :
    items read index vs = .accepted as ↔ List.Forall₂ (fun v a => read v = .accepted a) vs as := by
  induction vs generalizing index as with
  | nil => rw [items, List.forall₂_nil_left_iff, Checked.accepted.injEq, eq_comm]
  | cons v rest ih =>
      rw [items, seq_eq_accepted, List.forall₂_cons_left_iff]
      simp only [map_eq_accepted, at_eq_accepted, ih]
      constructor
      · rintro ⟨_, as, ⟨a, ha, rfl⟩, has, rfl⟩
        exact ⟨a, as, ha, has, rfl⟩
      · rintro ⟨a, as, ha, has, rfl⟩
        exact ⟨_, as, ⟨a, ha, rfl⟩, has, rfl⟩

theorem required_eq_accepted {read : Value → Checked α} :
    required entries name read = .accepted a ↔
      ∃ v, entries.lookup name = some v ∧ read v = .accepted a := by
  rw [required, at_eq_accepted]
  cases entries.lookup name <;> simp [problem]

theorem defaulted_eq_accepted {read : Value → Checked α} :
    defaulted entries name default read = .accepted a ↔
      (entries.lookup name = none ∧ a = default) ∨
        ∃ v, entries.lookup name = some v ∧ read v = .accepted a := by
  rw [defaulted]
  cases entries.lookup name with
  | none => simp [eq_comm]
  | some v => simp [at_eq_accepted]

/-! ### Breakdowns -/

variable {cause : Breakdown}

/-- The reading does not break down. -/
def Steady (x : Checked α) : Prop := ∀ cause, x ≠ .broken cause

theorem seq_eq_broken_left {f : Checked (α → β)} {x : Checked α} (h : x.Steady) :
    f <*> x = .broken cause ↔ f = .broken cause := by
  change Checked.apply f x = .broken cause ↔ _
  cases x with
  | broken other => exact absurd rfl (h other)
  | _ => cases f <;> simp [Checked.apply]

theorem seq_eq_broken_right {f : Checked (α → β)} {x : Checked α} (h : f.Steady) :
    f <*> x = .broken cause ↔ x = .broken cause := by
  change Checked.apply f x = .broken cause ↔ _
  cases f with
  | broken other => exact absurd rfl (h other)
  | _ => cases x <;> simp [Checked.apply]

theorem Steady.seq {f : Checked (α → β)} {x : Checked α} (hf : f.Steady) (hx : x.Steady) :
    (f <*> x).Steady :=
  fun cause h => hf cause ((seq_eq_broken_left hx).mp h)

theorem Steady.map {x : Checked α} (h : x.Steady) (f : α → β) : (f <$> x).Steady := by
  change (Checked.map f x).Steady
  cases x with
  | broken cause => exact absurd rfl (h cause)
  | _ => nofun

theorem Steady.andThen {x : Checked α} {check : α → Checked β} (hx : x.Steady)
    (hc : ∀ a, (check a).Steady) : (x.andThen check).Steady := by
  cases x with
  | accepted a => exact hc a
  | refused => nofun
  | broken cause => exact absurd rfl (hx cause)

theorem at_eq_broken {x : Checked α} {place : Place} :
    x.at_ place = .broken cause ↔ x = .broken cause := by
  cases x <;> simp [at_]

theorem Steady.at_ {x : Checked α} (h : x.Steady) (place : Place) : (x.at_ place).Steady :=
  fun cause broken => h cause (at_eq_broken.mp broken)

theorem steady_items {read : Value → Checked α} (h : ∀ v, (read v).Steady) (index : Nat)
    (vs : List Value) : (items read index vs).Steady := by
  induction vs generalizing index with
  | nil => nofun
  | cons v rest ih => exact (((h v).at_ _).map _).seq (ih _)

theorem required_eq_broken {read : Value → Checked α} :
    required entries name read = .broken cause ↔
      ∃ v, entries.lookup name = some v ∧ read v = .broken cause := by
  rw [required, at_eq_broken]
  cases entries.lookup name <;> simp [problem]

theorem steady_required {read : Value → Checked α} (h : ∀ v, (read v).Steady) :
    (required entries name read).Steady := by
  intro cause broken
  obtain ⟨v, -, broken⟩ := required_eq_broken.mp broken
  exact h v cause broken

theorem steady_defaulted {read : Value → Checked α} (h : ∀ v, (read v).Steady) :
    (defaulted entries name default read).Steady := by
  rw [defaulted]
  split
  · exact (h _).at_ _
  · nofun

end Checked

/-! ### Scalars -/

variable {v : Value} {s : String}

theorem readObject_eq_accepted {kind : ProblemKind} {entries : Entries} :
    readObject kind v = .accepted entries ↔ v = .object entries := by
  cases v <;> simp [readObject, Checked.problem]

theorem readText_eq_accepted : readText v = .accepted s ↔ v = .str s := by
  cases v <;> simp [readText, Checked.problem]

theorem readSized_eq_accepted {low : Nat} {high : Option Nat} :
    readSized low high v = .accepted s ↔
      v = .str s ∧ low ≤ s.length ∧ ∀ h, high = some h → s.length ≤ h := by
  simp only [readSized, Checked.andThen_eq_accepted, readText_eq_accepted]
  constructor
  · rintro ⟨s, rfl, h⟩
    split at h
    · cases h
    · rename_i long
      split at h
      · split at h <;> cases h
        refine ⟨rfl, Nat.le_of_not_lt long, ?_⟩
        rintro _ ⟨⟩
        exact Nat.le_of_not_lt ‹_›
      · cases h
        exact ⟨rfl, Nat.le_of_not_lt long, nofun⟩
  · rintro ⟨rfl, long, short⟩
    refine ⟨s, rfl, ?_⟩
    rw [if_neg (Nat.not_lt.mpr long)]
    split
    · exact if_neg (Nat.not_lt.mpr (short _ rfl))
    · rfl

theorem readBounded_eq_accepted {low high n : Int} :
    readBounded low high v = .accepted n ↔ readInteger v = .accepted n ∧ low ≤ n ∧ n ≤ high := by
  rw [readBounded, Checked.andThen_eq_accepted]
  constructor
  · rintro ⟨m, read, h⟩
    split at h
    · cases h
    · split at h <;> cases h
      exact ⟨read, Int.not_lt.mp ‹_›, Int.not_lt.mp ‹_›⟩
  · rintro ⟨read, above, below⟩
    exact ⟨n, read, by rw [if_neg (Int.not_lt.mpr above), if_neg (Int.not_lt.mpr below)]⟩

theorem readOptional_eq_accepted {α : Type} {read : Value → Checked α} {o : Option α} :
    readOptional read v = .accepted o ↔
      v = .null ∧ o = none ∨ v ≠ .null ∧ ∃ a, read v = .accepted a ∧ o = some a := by
  cases v with
  | null => simp [readOptional, eq_comm]
  | _ =>
      change some <$> read _ = _ ↔ _
      simp [Checked.map_eq_accepted, eq_comm]

theorem readName_eq_accepted {α : Type} {ofName? : String → Option α} {a : α} :
    readName ofName? v = .accepted a ↔ ∃ s, v = .str s ∧ ofName? s = some a := by
  cases v with
  | str s => cases h : ofName? s <;> simp [readName, h, Checked.problem]
  | _ => simp [readName, Checked.problem]

theorem readList_eq_accepted {α : Type} {read : Value → Checked α} {as : List α} :
    readList read v = .accepted as ↔
      ∃ items, v = .list items ∧ List.Forall₂ (fun v a => read v = .accepted a) items as := by
  cases v <;> simp [readList, Checked.items_eq_accepted, Checked.problem]

theorem steady_readObject (kind : ProblemKind) (v : Value) : (readObject kind v).Steady := by
  cases v <;> nofun

theorem steady_readText (v : Value) : (readText v).Steady := by
  cases v <;> nofun

theorem steady_readSized (low : Nat) (high : Option Nat) (v : Value) :
    (readSized low high v).Steady := by
  refine (steady_readText v).andThen fun s => ?_
  split
  · nofun
  · split
    · split <;> nofun
    · nofun

theorem steady_readName {α : Type} (ofName? : String → Option α) (v : Value) :
    (readName ofName? v).Steady := by
  unfold readName
  split
  · split <;> nofun
  · nofun

theorem steady_readInteger (v : Value) : (readInteger v).Steady := by
  have outcome (x : Except ProblemKind Int) : (Checked.ofExcept x).Steady := by cases x <;> nofun
  cases v with
  | float x => exact outcome _
  | str s => exact outcome _
  | _ => nofun

theorem steady_readBounded (low high : Int) (v : Value) : (readBounded low high v).Steady := by
  refine (steady_readInteger v).andThen fun n => ?_
  split
  · nofun
  · split <;> nofun

theorem steady_truthOfInteger (n : Int) : (truthOfInteger n).Steady := by
  unfold truthOfInteger
  split
  · nofun
  · split <;> nofun

theorem steady_readTruth (v : Value) : (readTruth v).Steady := by
  unfold readTruth
  split
  · nofun
  · split
    · exact steady_truthOfInteger _
    · nofun
  · split
    · exact steady_truthOfInteger _
    · nofun
  · dsimp only
    split
    · nofun
    · split <;> nofun
  · nofun

theorem steady_readOptional {α : Type} {read : Value → Checked α} (h : ∀ v, (read v).Steady)
    (v : Value) : (readOptional read v).Steady := by
  cases v with
  | null => nofun
  | _ => exact (h _).map some

theorem steady_readList {α : Type} {read : Value → Checked α} (h : ∀ v, (read v).Steady)
    (v : Value) : (readList read v).Steady := by
  cases v with
  | list items => exact Checked.steady_items h 0 items
  | _ => nofun

/-! ### Truth values -/

theorem truthOfInteger_eq_accepted {n : Int} {b : Bool} :
    truthOfInteger n = .accepted b ↔ n = 0 ∧ b = false ∨ n = 1 ∧ b = true := by
  unfold truthOfInteger
  by_cases h0 : n = 0
  · simp [h0, eq_comm]
  · by_cases h1 : n = 1
    · simp [h1, eq_comm]
    · simp [h0, h1, Checked.problem]

theorem truthy_of_truthOfInteger {n : Int} {b : Bool} (h : truthOfInteger n = .accepted b) :
    (n != 0) = b := by
  rcases truthOfInteger_eq_accepted.mp h with ⟨rfl, rfl⟩ | ⟨rfl, rfl⟩ <;> rfl

/-- The whole number that a floating-point number is decides whether it is a zero. -/
theorem isZero_of_toInt? {x : Binary64} {n : Int} (h : x.toInt? = some n) :
    x.isZero = (n == 0) := by
  obtain ⟨-, exact_⟩ := Option.filter_eq_some_iff.mp h
  have units : x.units? = some (n * Binary64.unitsPerOne) := beq_iff_eq.mp exact_
  have one_pos := Binary64.unitsPerOne_pos
  generalize Binary64.unitsPerOne = one at units one_pos
  cases x with
  | finite negative code =>
      have zero : n * one = 0 ↔ n = 0 := by
        rw [Int.mul_eq_zero]
        omega
      rw [Binary64.units?, Option.some.injEq] at units
      rw [Binary64.isZero, Bool.eq_iff_iff, beq_iff_eq, beq_iff_eq,
        ← Binary64.magnitude_eq_zero_iff, ← zero, ← units]
      split <;> omega
  | _ => cases units

theorem toInt?_of_wholeNumber {x : Binary64} {n : Int} (h : wholeNumber x = .ok n) :
    x.toInt? = some n := by
  unfold wholeNumber at h
  split at h
  · cases h
  · split at h
    · split at h <;> cases h
      assumption
    · cases h

/-- The words of a truth value, in any case. -/
def IsWordFor (b : Bool) (s : String) : Prop :=
  String.ofList (Binary64.asciiLower s.toList) ∈ if b then trueWords else falseWords

instance (b : Bool) (s : String) : Decidable (IsWordFor b s) :=
  inferInstanceAs (Decidable (_ ∈ _))

theorem IsWordFor.ne_empty {b : Bool} (h : IsWordFor b s) : s ≠ "" := by
  rintro rfl
  cases b <;> exact absurd h (by decide)

theorem IsWordFor.not_false (h : IsWordFor true s) : ¬ IsWordFor false s := by
  have disjoint : ∀ word ∈ trueWords, word ∉ falseWords := by decide
  exact disjoint _ h

/-- A truth value is read from a word for it, or from anything but a text that counts as it. -/
theorem readTruth_cases {b : Bool} (h : readTruth v = .accepted b) :
    (∃ s, v = .str s ∧ IsWordFor b s) ∨ (∀ s, v ≠ .str s) ∧ v.truthy = b := by
  cases v with
  | bool c =>
      cases h
      exact .inr ⟨nofun, rfl⟩
  | int n =>
      rw [readTruth] at h
      split at h
      · exact .inr ⟨nofun, truthy_of_truthOfInteger h⟩
      · cases h
  | float x =>
      rw [readTruth] at h
      split at h
      · rename_i n hn
        refine .inr ⟨nofun, ?_⟩
        rw [Value.truthy, isZero_of_toInt? (toInt?_of_wholeNumber hn)]
        exact truthy_of_truthOfInteger h
      · cases h
  | str s =>
      refine .inl ⟨s, rfl, ?_⟩
      rw [readTruth] at h
      split at h
      · cases h
        exact List.contains_iff_mem.mp ‹_›
      · split at h <;> cases h
        exact List.contains_iff_mem.mp ‹_›
  | _ => cases h

end TriggerFlow.Schema
