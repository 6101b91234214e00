import TriggerFlow.Schema.Definition
import TriggerFlow.Store

/-!
# Seeding a store

Definitions are read from a list of entries and stored one after another. An entry that is no valid
definition is skipped and reported.
-/

namespace TriggerFlow.Seeding

variable [Levels]

/-- What a seeding has done: the ids of the stored workflows, and what it tells on the way. -/
structure Progress where
  created : List String := []
  printed : List String := []
  skipped : List String := []

/-- The definition as a draft for the store. -/
def draftOf (d : Schema.Definition) : Draft where
  name := some d.name
  trigger := some d.trigger.name
  tree := .object d.tree
  priority := some d.priority
  active := .bool d.active
  status := some d.status.name
  config := Value.ofOption Schema.TriggerConfig.toValue d.config
  description := d.description

/-- What is told of an entry that is skipped, if its name can be written. -/
def skipLine (entry : Entries) (problems : Nat) : Except Breakdown String := do
  let name ← (Entries.get entry "name").literalWithin
  return "  Skip workflow " ++ name ++ ": " ++ toString problems ++
    (if problems == 1 then " validation error" else " validation errors") ++
    " for WorkflowDefinition"

/-- What is told of a workflow that is stored. -/
def createdLine (w : Workflow) : String :=
  "  Workflow " ++ w.name ++ " (" ++ w.trigger ++ ", priority " ++ toString w.priority ++ ") -> " ++
    w.id

/-- Seeds entries one after another. -/
def seedFrom (done : Progress) : List Value → StateM Store (Except Fault Progress)
  | [] => return .ok done
  | entry :: rest =>
    match Schema.Definition.read entry with
    | .broken cause => return .error (.breakdown cause)
    | .refused problems =>
      match entry with
      | .object entries =>
        match skipLine entries problems.length with
        | .ok line => seedFrom { done with skipped := done.skipped ++ [line] } rest
        | .error cause => return .error (.breakdown cause)
      | v => return .error (.breakdown (.noKeys v.kind))
    | .accepted definition => do
      match ← Store.create (draftOf definition) Rule.defaultMaxDepth with
      | .error fault => return .error fault
      | .ok w =>
        seedFrom
          { done with created := done.created ++ [w.id], printed := done.printed ++ [createdLine w] }
          rest

/-- Seeds a list of entries. -/
def seed (entries : Value) : StateM Store (Except Fault Progress) :=
  match entries with
  | .list items => seedFrom {} items
  | .object fields => seedFrom {} (fields.map fun e => .str e.1)
  | .str s => seedFrom {} (s.toList.map fun c => .str (String.ofList [c]))
  | v => return .error (.breakdown (.notIterable v.kind))

/-! ### The command -/

/-- What the command leaves: its exit code if it stops early, its lines, and its complaints. -/
structure CommandResult where
  exit : Option Nat := none
  printed : List String := []
  complaints : List String := []

/-- Why the command fails. -/
inductive CommandError
  | settings (problems : List Schema.Problem)
  | fault (fault : Fault)

/-- The closing line. -/
def summaryLine (count : Nat) : String := "Seed completed: " ++ toString count ++ " workflow(s)."

/-- Seeds the workflows of a document into a store, if the settings name a database. -/
def command (settings : Schema.Checked Settings) (document : Value) :
    StateM Store (Except CommandError CommandResult) :=
  match settings with
  | .broken cause => return .error (.fault (.breakdown cause))
  | .refused problems => return .error (.settings problems)
  | .accepted settings =>
    if settings.databaseUrl == "" then
      return .ok { exit := some 1, complaints := ["DATABASE_URL is not set"] }
    else
      match document with
      | .object entries => do
        let workflows := (entries.lookup "workflows").getD (.list [])
        match ← seed workflows with
        | .error fault => return .error (.fault fault)
        | .ok done =>
          return .ok {
            printed := done.printed ++ [summaryLine done.created.length]
            complaints := done.skipped }
      | v => return .error (.fault (.breakdown (.noKeys v.kind)))

end TriggerFlow.Seeding
