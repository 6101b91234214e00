import TriggerFlow.Json.Token
import TriggerFlow.Proofs.Value.Parts

/-! # Values with other not-a-numbers

Not-a-numbers are objects, and whoever passes a value on as a text or a message makes new ones.  What
is read from a text has the one not-a-number of the reader (`reread`).  Everything else about the value
stays as it is: its truth, its keys, what can be written and encoded, and its shape as a rule tree.
Two values with the same `reread` are the same but for their not-a-numbers. -/

namespace TriggerFlow

namespace Json

/-- A floating-point number as it is read back. -/
def numberRead (x : Binary64) : Binary64 := if x.isNaN then notANumber else x

end Json

namespace Value

mutual

/-- The value with the reader's not-a-number in the place of its own. -/
def reread : Value → Value
  | .float x => .float (Json.numberRead x)
  | .list items => .list (rereadItems items)
  | .object entries => .object (rereadEntries entries)
  | v => v

def rereadItems : List Value → List Value
  | [] => []
  | v :: rest => reread v :: rereadItems rest

def rereadEntries : List (String × Value) → List (String × Value)
  | [] => []
  | (key, v) :: rest => (key, reread v) :: rereadEntries rest

end

theorem rereadItems_eq (items : List Value) : rereadItems items = items.map reread := by
  induction items with
  | nil => rfl
  | cons v rest ih => rw [rereadItems, ih, List.map_cons]

theorem rereadEntries_eq (entries : Entries) :
    rereadEntries entries = entries.map fun e => (e.1, e.2.reread) := by
  induction entries with
  | nil => rfl
  | cons e rest ih => rw [rereadEntries, ih, List.map_cons]

theorem keys_rereadEntries (entries : Entries) :
    (rereadEntries entries).map Prod.fst = entries.map Prod.fst := by
  rw [rereadEntries_eq, List.map_map]
  rfl

theorem lookup_rereadEntries (entries : Entries) (key : String) :
    (rereadEntries entries).lookup key = (entries.lookup key).map reread := by
  induction entries with
  | nil => rfl
  | cons e rest ih =>
      obtain ⟨k, v⟩ := e
      rw [rereadEntries, List.lookup_cons, List.lookup_cons, ih]
      cases key == k <;> rfl

theorem get_rereadEntries (entries : Entries) (key : String) :
    Entries.get (rereadEntries entries) key = (Entries.get entries key).reread := by
  rw [Entries.get, lookup_rereadEntries, Entries.get]
  cases entries.lookup key <;> rfl

/-! ### What the reader keeps -/

theorem numberRead_numberRead (x : Binary64) :
    Json.numberRead (Json.numberRead x) = Json.numberRead x := by
  cases x <;> rfl

mutual

theorem reread_reread : (v : Value) → v.reread.reread = v.reread
  | .null | .bool _ | .int _ | .str _ => rfl
  | .float x => congrArg Value.float (numberRead_numberRead x)
  | .list items => congrArg Value.list (rereadItems_rereadItems items)
  | .object entries => congrArg Value.object (rereadEntries_rereadEntries entries)

theorem rereadItems_rereadItems :
    (items : List Value) → rereadItems (rereadItems items) = rereadItems items
  | [] => rfl
  | v :: rest => by rw [rereadItems, rereadItems, reread_reread v, rereadItems_rereadItems rest]

theorem rereadEntries_rereadEntries :
    (entries : Entries) → rereadEntries (rereadEntries entries) = rereadEntries entries
  | [] => rfl
  | (key, v) :: rest => by
    rw [rereadEntries, rereadEntries, reread_reread v, rereadEntries_rereadEntries rest]

end

mutual

/-- A value without not-a-numbers is read back as it is. -/
theorem reread_eq_self : (v : Value) → NaNFree v → v.reread = v
  | .null, _ | .bool _, _ | .int _, _ | .str _, _ => rfl
  | .float x, h => by rw [reread, Json.numberRead, h x .whole, if_neg Bool.false_ne_true]
  | .list items, h =>
    congrArg Value.list (rereadItems_eq_self items fun _ hv => h.part (.item hv .whole))
  | .object entries, h =>
    congrArg Value.object (rereadEntries_eq_self entries fun _ he => h.part (.entry he .whole))

theorem rereadItems_eq_self : (items : List Value) → (∀ v ∈ items, NaNFree v) →
    rereadItems items = items
  | [], _ => rfl
  | v :: rest, h => by
    rw [rereadItems, reread_eq_self v (h v List.mem_cons_self),
      rereadItems_eq_self rest fun w hw => h w (List.mem_cons_of_mem _ hw)]

theorem rereadEntries_eq_self : (entries : Entries) → (∀ e ∈ entries, NaNFree e.2) →
    rereadEntries entries = entries
  | [], _ => rfl
  | (key, v) :: rest, h => by
    rw [rereadEntries, reread_eq_self v (h (key, v) List.mem_cons_self),
      rereadEntries_eq_self rest fun e he => h e (List.mem_cons_of_mem _ he)]

end

mutual

theorem obstacle?_reread {during : Descent} : {levels : Nat} → (v : Value) →
    v.reread.obstacle? during levels = v.obstacle? during levels
  | _, .null | _, .bool _ | _, .int _ | _, .float _ | _, .str _ => by simp [reread, obstacle?]
  | 0, .list _ | 0, .object _ => by simp [reread, obstacle?]
  | levels + 1, .list items => by
    rw [reread, obstacle?, obstacle?, obstacleAmong?_reread items]
  | levels + 1, .object entries => by
    rw [reread, obstacle?, obstacle?, obstacleUnder?_reread entries]

theorem obstacleAmong?_reread {during : Descent} : {levels : Nat} → (items : List Value) →
    obstacleAmong? during levels (rereadItems items) = obstacleAmong? during levels items
  | _, [] => rfl
  | _, v :: rest => by
    rw [rereadItems, obstacleAmong?, obstacleAmong?, obstacle?_reread v, obstacleAmong?_reread rest]

theorem obstacleUnder?_reread {during : Descent} : {levels : Nat} → (entries : Entries) →
    obstacleUnder? during levels (rereadEntries entries) = obstacleUnder? during levels entries
  | _, [] => rfl
  | _, (key, v) :: rest => by
    rw [rereadEntries, obstacleUnder?, obstacleUnder?, obstacle?_reread v,
      obstacleUnder?_reread rest]

end

theorem encodable_reread [Levels] {v : Value} : v.reread.Encodable ↔ v.Encodable := by
  rw [encodable_iff, encodable_iff, obstacle?_reread]

mutual

theorem WellKeyed.reread : {v : Value} → v.WellKeyed → v.reread.WellKeyed
  | .null, h | .bool _, h | .int _, h | .str _, h => h
  | .float _, _ => wellKeyed_of_nesting_zero rfl
  | .list items, h => wellKeyed_list (wellKeyed_rereadItems items fun _ hv => h.item hv)
  | .object entries, h =>
    wellKeyed_object (keys_rereadEntries entries ▸ h.keys)
      (wellKeyed_rereadEntries entries fun _ he => h.entry he)

theorem wellKeyed_rereadItems : (items : List Value) → (∀ v ∈ items, v.WellKeyed) →
    ∀ v ∈ rereadItems items, v.WellKeyed
  | [], _ => List.forall_mem_nil _
  | v :: rest, h =>
    List.forall_mem_cons.mpr ⟨(h v List.mem_cons_self).reread,
      wellKeyed_rereadItems rest fun w hw => h w (List.mem_cons_of_mem _ hw)⟩

theorem wellKeyed_rereadEntries : (entries : Entries) → (∀ e ∈ entries, e.2.WellKeyed) →
    ∀ e ∈ rereadEntries entries, e.2.WellKeyed
  | [], _ => List.forall_mem_nil _
  | (key, v) :: rest, h =>
    List.forall_mem_cons.mpr ⟨(h (key, v) List.mem_cons_self).reread,
      wellKeyed_rereadEntries rest fun e he => h e (List.mem_cons_of_mem _ he)⟩

end

end Value

end TriggerFlow
