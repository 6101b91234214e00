import Mathlib.Logic.Relation

/-! # Runs that come to an end

A system takes its steps one after another, several of them being possible at a time.  It comes to a
good end from a state if every run from there does (`Leads`), whatever steps are chosen.  For that it
is enough that the steps keep an invariant and lower a measure, and that none is missing before all is
well (`Leads.of_measure`). -/

namespace TriggerFlow

open Relation

/-- Every run from a state comes to an end, and there the property holds. -/
inductive Leads {α : Type} (step : α → α → Prop) (good : α → Prop) : α → Prop
  | intro {a : α} (ends : (∀ b, ¬ step a b) → good a)
      (goes : ∀ b, step a b → Leads step good b) : Leads step good a

/-- A run comes to a good end if its steps keep an invariant, lower a measure, and are only missing
where all is well. -/
theorem Leads.of_measure {α : Type} {step : α → α → Prop} {good : α → Prop} (inv : α → Prop)
    (left : α → Nat) (keeps : ∀ a b, inv a → step a b → inv b)
    (lowers : ∀ a b, step a b → left b < left a)
    (ends : ∀ a, inv a → (∀ b, ¬ step a b) → good a) (a : α) (ha : inv a) :
    Leads step good a := by
  induction hn : left a using Nat.strongRecOn generalizing a with
  | _ n ih =>
      subst hn
      exact .intro (ends a ha) fun b hb => ih (left b) (lowers a b hb) b (keeps a b ha hb) rfl

theorem Leads.mono {α : Type} {step : α → α → Prop} {good fine : α → Prop} {a : α}
    (h : Leads step good a) (weaker : ∀ b, good b → fine b) : Leads step fine a := by
  induction h with
  | intro ends _ ih => exact .intro (fun stuck => weaker _ (ends stuck)) ih

/-- What every step keeps holds wherever a run comes to. -/
theorem inv_of_reflTransGen {α : Type} {step : α → α → Prop} (inv : α → Prop)
    (keeps : ∀ a b, inv a → step a b → inv b) {a b : α} (ha : inv a)
    (h : ReflTransGen step a b) : inv b := by
  induction h with
  | refl => exact ha
  | tail _ hb ih => exact keeps _ _ ih hb

end TriggerFlow
