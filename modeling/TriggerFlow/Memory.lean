import TriggerFlow.Execution.Backend

/-!
# A store in memory

A store that keeps workflows and records in lists, for engines without a database. Its operations can
be told to fail, and it notes how many workflows it has been asked for.
-/

namespace TriggerFlow

/-- Workflows and records in memory. -/
structure Memory where
  workflows : List Workflow
  /-- Whether the feed gives the eligible workflows by priority, or all of them as listed. -/
  isSorted : Bool := true
  loadFault : Option Fault := none
  createFault : Option Fault := none
  bumpFault : Option Fault := none
  limits : List Int := []
  records : List ExecutionRecord := []
  counts : List (String × Nat) := []

namespace Memory

/-- The workflows that run on a trigger, those of higher priority first. -/
def eligible (m : Memory) (trigger : String) : List Workflow :=
  (m.workflows.filter (·.isEligible trigger)).mergeSort fun v w => w.priority ≤ v.priority

def feed (trigger : String) (limit : Int) : StateM Memory (Except Fault (List Workflow)) := fun m =>
  let answer := match m.loadFault with
    | some fault => .error fault
    | none => .ok (if m.isSorted then takeFirst limit (m.eligible trigger) else m.workflows)
  (answer, { m with limits := m.limits ++ [limit] })

def find (id : String) : StateM Memory (Except Fault (Option Workflow)) := fun m =>
  let answer := match m.loadFault with
    | some fault => .error fault
    | none => .ok (m.workflows.find? fun w => w.id == id)
  (answer, m)

def create (record : ExecutionRecord) : StateM Memory (Except Fault Unit) := fun m =>
  match m.createFault with
  | some fault => (.error fault, m)
  | none => (.ok (), { m with records := m.records ++ [record] })

/-- Adds one to the count of a workflow. -/
def count (id : String) : List (String × Nat) → List (String × Nat)
  | [] => [(id, 1)]
  | (key, n) :: rest => if key == id then (key, n + 1) :: rest else (key, n) :: count id rest

def bump (id : String) : StateM Memory (Except Fault Unit) := fun m =>
  match m.bumpFault with
  | some fault => (.error fault, m)
  | none => (.ok (), { m with counts := count id m.counts })

def backend : Backend Memory := ⟨feed, find, ⟨create, bump⟩⟩

/-- Changes the workflows of an id. -/
def update (id : String) (change : Workflow → Workflow) (m : Memory) : Memory :=
  { m with workflows := m.workflows.map fun w => if w.id == id then change w else w }

end Memory

end TriggerFlow
