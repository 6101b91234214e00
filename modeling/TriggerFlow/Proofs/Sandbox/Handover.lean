import TriggerFlow.Proofs.Rule.Tree
import TriggerFlow.Proofs.Value.Reread
import TriggerFlow.Sandbox

/-! # What is handed over

A fork sees the data of the sandbox itself; any other worker gets a copy, in which every not-a-number
is an object of its own (`Value.numbered`).  A copy is the same but for these objects
(`reread_numbered`), and where there are none it is the same (`numbered_eq_self`).  So the copy of a
tree passes the checks that the tree passes (`Rule.sound_of_reread`). -/

namespace TriggerFlow

namespace Value

mutual

theorem reread_numbered : (v : Value) → (next : Nat) → (v.numbered next).1.reread = v.reread
  | .null, _ | .bool _, _ | .int _, _ | .str _, _ => rfl
  | .float (.nan _), _ | .float (.infinite _), _ | .float (.finite _ _), _ => rfl
  | .list items, next => congrArg Value.list (rereadItems_numbered items next)
  | .object entries, next => congrArg Value.object (rereadEntries_numbered entries next)

theorem rereadItems_numbered : (items : List Value) → (next : Nat) →
    rereadItems (numberedItems next items).1 = rereadItems items
  | [], _ => rfl
  | v :: rest, next => by
    rw [numberedItems, rereadItems, rereadItems, reread_numbered v next, rereadItems_numbered rest]

theorem rereadEntries_numbered : (entries : Entries) → (next : Nat) →
    rereadEntries (numberedEntries next entries).1 = rereadEntries entries
  | [], _ => rfl
  | (key, v) :: rest, next => by
    rw [numberedEntries, rereadEntries, rereadEntries, reread_numbered v next,
      rereadEntries_numbered rest]

end

mutual

theorem numbered_eq_self : (v : Value) → NaNFree v → (next : Nat) → v.numbered next = (v, next)
  | .null, _, _ | .bool _, _, _ | .int _, _, _ | .str _, _, _ => rfl
  | .float (.infinite _), _, _ | .float (.finite _ _), _, _ => rfl
  | .float (.nan mark), h, _ => by cases h (.nan mark) .whole
  | .list items, h, next => by
    rw [numbered, numberedItems_eq_self items (fun _ hv => h.part (.item hv .whole)) next]
  | .object entries, h, next => by
    rw [numbered, numberedEntries_eq_self entries (fun _ he => h.part (.entry he .whole)) next]

theorem numberedItems_eq_self : (items : List Value) → (∀ v ∈ items, NaNFree v) → (next : Nat) →
    numberedItems next items = (items, next)
  | [], _, _ => rfl
  | v :: rest, h, next => by
    rw [numberedItems, numbered_eq_self v (h v List.mem_cons_self) next]
    dsimp only
    rw [numberedItems_eq_self rest (fun w hw => h w (List.mem_cons_of_mem _ hw)) next]

theorem numberedEntries_eq_self : (entries : Entries) → (∀ e ∈ entries, NaNFree e.2) →
    (next : Nat) → numberedEntries next entries = (entries, next)
  | [], _, _ => rfl
  | (key, v) :: rest, h, next => by
    rw [numberedEntries, numbered_eq_self v (h (key, v) List.mem_cons_self) next]
    dsimp only
    rw [numberedEntries_eq_self rest (fun e he => h e (List.mem_cons_of_mem _ he)) next]

end

end Value

/-! ### The checks of a copy -/

namespace Rule

open Value (reread rereadItems_eq)

theorem operandsOf_reread (v : Value) : operandsOf v.reread = (operandsOf v).map reread := by
  cases v with
  | list items => exact rereadItems_eq items
  | _ => rfl

theorem operation?_reread (v : Value) :
    operation? v.reread = (operation? v).map fun o => (o.1, o.2.map reread) := by
  rcases v with _ | _ | _ | _ | _ | _ | (_ | ⟨⟨symbol, operand⟩, _ | _⟩)
  case object.cons.nil => exact congrArg (fun vs => some (symbol, vs)) (operandsOf_reread operand)
  all_goals rfl

theorem children_reread (v : Value) : children v.reread = (children v).map reread := by
  rcases v with _ | _ | _ | _ | _ | items | (_ | ⟨⟨symbol, operand⟩, _ | _⟩)
  case list => exact rereadItems_eq items
  case object.cons.nil => exact operandsOf_reread operand
  all_goals rfl

theorem operationFault?_reread (v : Value) : operationFault? v.reread = operationFault? v := by
  rw [operationFault?, operationFault?, operation?_reread]
  cases operation? v with
  | none => rfl
  | some operation => simp only [Option.map_some, List.length_map]

/-- What occurs in a tree occurs in one that is the same but for the not-a-numbers. -/
theorem occurs_of_reread {node tree other : Value} (h : Occurs node other)
    (same : other.reread = tree.reread) : ∃ twin, Occurs twin tree ∧ twin.reread = node.reread := by
  induction h generalizing tree with
  | here => exact ⟨tree, .here, same.symm⟩
  | @inside child other hc _ ih =>
      have below : (children other).map reread = (children tree).map reread := by
        rw [← children_reread, ← children_reread, same]
      obtain ⟨twin, ht, alike⟩ := List.mem_map.mp (below ▸ List.mem_map_of_mem hc)
      obtain ⟨inner, hi, found⟩ := ih alike.symm
      exact ⟨inner, .inside ht hi, found⟩

theorem sound_of_reread {tree other : Value}
    (sound : ∀ node, Occurs node tree → operationFault? node = none)
    (same : other.reread = tree.reread) :
    ∀ node, Occurs node other → operationFault? node = none := by
  intro node occurs
  obtain ⟨twin, ht, alike⟩ := occurs_of_reread occurs same
  rw [← operationFault?_reread, ← alike, operationFault?_reread]
  exact sound twin ht

end Rule

namespace Sandbox

variable {s : Sandbox} {tree context : Value}

theorem handedOver_fork (h : s.startMethod = "fork") :
    s.handedOver tree context = (tree, context) := by
  rw [handedOver, h]
  rfl

theorem handedOver_of_naNFree (number : tree.NaNFree) (number' : context.NaNFree) :
    s.handedOver tree context = (tree, context) := by
  rw [handedOver, Value.numbered_eq_self tree number]
  dsimp only
  rw [Value.numbered_eq_self context number', ite_self]

theorem reread_handedOver (s : Sandbox) (tree context : Value) :
    (s.handedOver tree context).1.reread = tree.reread ∧
      (s.handedOver tree context).2.reread = context.reread := by
  rw [handedOver]
  split
  · exact ⟨rfl, rfl⟩
  · exact ⟨Value.reread_numbered tree 0, Value.reread_numbered context _⟩

theorem handedOver_object (s : Sandbox) (tree : Value) (entries : Entries) :
    ∃ others, (s.handedOver tree (.object entries)).2 = .object others := by
  rw [handedOver]
  split
  · exact ⟨entries, rfl⟩
  · exact ⟨_, rfl⟩

end Sandbox

end TriggerFlow
