import TriggerFlow.Execution.Backend
import TriggerFlow.Rule.Validation
import TriggerFlow.Sandbox

/-!
# The workflow store

Two tables: workflows and records of their executions. A row that is inserted takes the next id and
the time of the clock, also if the insertion then fails; a failed insertion changes no table. Data
columns hold JSON text. A table can be missing, and then every operation on it fails.
-/

namespace TriggerFlow

/-- A stored record. -/
structure StoredRecord where
  id : String
  record : ExecutionRecord
  created : Timestamp

/-- A workflow that is to be stored. What is not given is up to the table. -/
structure Draft where
  name : Option String
  trigger : Option String
  tree : Value
  priority : Option Int := none
  active : Value := .null
  status : Option String := none
  config : Value := .null
  description : Option String := none

/-- A record that is to be stored, in which nothing need be given. -/
structure RecordDraft where
  workflowId : Option String
  trigger : Option String
  context : Value
  success : Option Bool
  result : Value
  error : Option String := none
  errorCode : Option String := none
  entityType : Option String := none
  entityId : Option String := none

namespace RecordDraft

/-- A complete record as a draft. -/
def ofRecord (r : ExecutionRecord) : RecordDraft where
  workflowId := some r.workflowId
  trigger := some r.trigger
  context := r.context
  success := some r.success
  result := r.result
  error := r.error
  errorCode := r.errorCode
  entityType := r.entityType
  entityId := r.entityId

/-- The record of a draft that has everything a record needs. -/
def complete? (d : RecordDraft) : Option ExecutionRecord := do
  return {
    workflowId := ← d.workflowId, trigger := ← d.trigger, context := d.context
    success := ← d.success, result := d.result, error := d.error, errorCode := d.errorCode
    entityType := d.entityType, entityId := d.entityId }

end RecordDraft

/-- The tables, a missing one being none, their rows in the order of insertion; and where ids and
times come from. -/
structure Store where
  workflows : Option (List Workflow) := some []
  records : Option (List StoredRecord) := some []
  /-- The ids to be taken next; after them ids are numbered. -/
  queuedIds : List String := []
  /-- How many ids have been taken. -/
  taken : Nat := 0
  /-- The time of the next row, and the time that then passes. -/
  now : WallTime := Calendar.ofDate 2026 1 1 0
  tick : Int := Calendar.secondMicros

namespace Store

variable [Levels]

/-- A failed operation. -/
def failed (operation reason : String) : Fault := .store operation reason

/-- The id and the time of a new row. -/
def takeRow (s : Store) : (String × Timestamp) × Store :=
  let number := Timestamp.padded 4 (s.taken + 1)
  let id := s.queuedIds.headD (String.ofList ('i' :: 'd' :: number))
  ((id, ⟨s.now, some 0⟩),
    { s with queuedIds := s.queuedIds.tail, taken := s.taken + 1, now := s.now + s.tick })

/-- What a data column gives back of what was put into it. -/
def column? (v : Value) : Option Value := Json.read? (Json.write v)

/-- What a flag column gives back of what was put into it, if it is a truth value. -/
def flag? (v : Value) : Option Bool :=
  if v.isNull || v.same (.bool false) then some false
  else if v.same (.bool true) then some true
  else none

/-- The row of a draft, unless it breaks a constraint. -/
def Draft.row? (d : Draft) (id : String) (created : Timestamp) : Option Workflow := do
  let status := d.status.getD Status.draft.name
  if (Status.ofName? status).isNone then none
  else
    return {
      id := id, name := ← d.name, trigger := ← d.trigger, tree := ← column? d.tree
      priority := d.priority.getD 0, active := .bool (← flag? d.active), status := some status
      config := ← column? d.config, description := d.description, created := some created }

/-- The fault of an insertion of data that cannot be encoded: it tells what the data was, if that can
be written. -/
def encodingFault (operation : String) (data : List Value) : Fault :=
  match data.findSome? (Value.obstacle? .writing Levels.complaint) with
  | some cause => .breakdown cause
  | none => failed operation "data cannot be encoded"

/-- Stores a workflow whose tree is valid within the given depth. -/
def create (d : Draft) (maxDepth : Int) : StateM Store (Except Fault Workflow) := fun s =>
  match Rule.ensureValid maxDepth d.tree with
  | .error fault => (.error fault, s)
  | .ok () =>
    let ((id, created), s) := s.takeRow
    match [d.tree, d.config].forM Value.checkEncoding with
    | .error _ => (.error (encodingFault "create_workflow" [d.tree, d.config]), s)
    | .ok () =>
      match s.workflows, Draft.row? d id created with
      | some rows, some row =>
        if rows.any fun w => w.id == id then (.error (failed "create_workflow" "duplicate id"), s)
        else (.ok row, { s with workflows := some (rows ++ [row]) })
      | _, _ => (.error (failed "create_workflow" "row refused"), s)

/-- The time of a row, by which it ranks. -/
def createdAt (w : Workflow) : Int := (w.created.map Timestamp.wall).getD 0

/-- Whether a row ranks before another one: by higher priority, then by earlier creation, then by
id. -/
def ranksBefore (v w : Workflow) : Bool :=
  if v.priority != w.priority then w.priority < v.priority
  else if createdAt v != createdAt w then createdAt v < createdAt w
  else !(w.id < v.id)

/-- Whether a row is fed to a trigger: the condition of the query, in terms of its columns. -/
def isFed (trigger : String) (w : Workflow) : Bool :=
  w.trigger == trigger && w.active.same (.bool true) && w.status == some Status.active.name

/-- The first `limit` items, or all of them if the limit is negative. -/
def limited {α : Type} (limit : Int) (xs : List α) : List α :=
  if limit < 0 then xs else xs.take limit.toNat

/-- The rows that are fed to a trigger in their rank, at most so many. -/
def active (trigger : String) (limit : Int) : StateM Store (Except Fault (List Workflow)) := fun s =>
  match s.workflows with
  | none => (.error (failed "get_active_by_trigger" "no such table"), s)
  | some rows =>
    if !Number.isWord limit then (.error (.breakdown .integerBeyondWord), s)
    else
      (.ok (limited limit ((rows.filter (isFed trigger)).mergeSort ranksBefore)), s)

/-- The workflow of an id. -/
def get (id : String) : StateM Store (Except Fault (Option Workflow)) := fun s =>
  match s.workflows with
  | none => (.error (failed "get_by_id" "no such table"), s)
  | some rows => (.ok (rows.find? fun w => w.id == id), s)

/-- Stores a record and gives its id. -/
def record (d : RecordDraft) : StateM Store (Except Fault String) := fun s =>
  let ((id, created), s) := s.takeRow
  let row? : Option StoredRecord := do
    let r ← d.complete?
    let context ← column? r.context
    let result ← column? r.result
    return ⟨id, { r with context := context, result := result }, created⟩
  match [d.context, d.result].forM Value.checkEncoding with
  | .error _ => (.error (encodingFault "create_execution" [d.context, d.result]), s)
  | .ok () =>
    match s.records, row? with
    | some rows, some row =>
      if rows.any fun r => r.id == id then (.error (failed "create_execution" "duplicate id"), s)
      else (.ok id, { s with records := some (rows ++ [row]) })
    | _, _ => (.error (failed "create_execution" "row refused"), s)

/-- Counts one more execution of a workflow and notes the time. -/
def bump (id : String) : StateM Store (Except Fault Unit) := fun s =>
  match s.workflows with
  | none => (.error (failed "bump_stats" "no such table"), s)
  | some rows =>
    let rows := rows.map fun w =>
      if w.id == id then
        { w with executions := w.executions + 1, lastExecuted := some ⟨s.now, some 0⟩ }
      else w
    (.ok (), { s with workflows := some rows })

/-- The records of a workflow, the newest first, at most so many; of those created at one time, the
last one stored comes first. -/
def list (workflowId : String) (limit : Int) : StateM Store (Except Fault (List StoredRecord)) :=
  fun s =>
    match s.records with
    | none => (.error (failed "list_for_workflow" "no such table"), s)
    | some rows =>
      if !Number.isWord limit then (.error (.breakdown .integerBeyondWord), s)
      else
        let own := rows.reverse.filter fun r => r.record.workflowId == workflowId
        (.ok (limited limit (own.mergeSort fun r t => t.created.wall ≤ r.created.wall)), s)

/-- The store as the backend of an engine. -/
def backend : Backend Store where
  feed := active
  find := get
  sink := {
    create := fun r => do return (← record (.ofRecord r)).map fun _ => ()
    bump := bump }

/-- The services of an engine over a store, with the sandbox of the settings. -/
def services (settings : Settings) : Services (Recording Store) :=
  backend.services fun tree context => (Sandbox.ofSettings settings).run tree context

end Store

/-- The limits that settings set to an engine. -/
def Settings.limits (s : Settings) : Limits := ⟨s.maxPerTrigger, s.maxConcurrency, s.maxDepth⟩

end TriggerFlow
