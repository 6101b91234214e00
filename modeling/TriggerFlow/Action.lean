import TriggerFlow.Fault
import TriggerFlow.Vocabulary

/-!
# Actions

An action is a type with a config that is passed through as it is. An evaluation decides on an action
by its result: an object whose `action` is the name of a type. Any other result decides on none, but
a name outside the vocabulary is a fault.
-/

namespace TriggerFlow

/-- A type of action with its config. The type is a nonempty name. -/
structure Action where
  type : String
  config : Entries

namespace Action

/-- The action of an evaluation result. A missing or empty config counts as an empty one; a config
that is no object makes the result no action. -/
def ofResult? (result : Value) : Except LogicFault (Option Action) :=
  match result with
  | .object _ =>
    match result.get "action" with
    | .str "" => .ok none
    | .str name =>
      if (ActionType.ofName? name).isNone then .error (.unknownAction name)
      else
        match result.get "config" with
        | .object config => .ok (some ⟨name, config⟩)
        | v => if v.truthy then .ok none else .ok (some ⟨name, []⟩)
    | _ => .ok none
  | _ => .ok none

/-- The result that decides on the action. -/
def toResult (a : Action) : Entries := [("action", .str a.type), ("config", .object a.config)]

/-- The action of a given type, which must be a nonempty text. -/
def make? (type : Value) (config : Entries) : Option Action :=
  match type with
  | .str "" => none
  | .str name => some ⟨name, config⟩
  | _ => none

end Action

end TriggerFlow
