import TriggerFlow.Execution.Document
import TriggerFlow.Store

/-!
# Rows from data of any kind

A text column turns numbers into text, and an integer column takes whole numbers however they are
written. Neither takes a list or an object, nor an integer that does not fit a word. `createFrom` and
`recordFrom` store rows from the data of their columns; a row with a column that does not take its
data is an insertion that fails. Data that is no record is not even inserted.
-/

namespace TriggerFlow

namespace Store

variable [Levels]

/-- Why a column does not take its data. -/
inductive Misfit
  | kind
  | word

/-- What a text column makes of data. -/
def textColumn : Value → Except Misfit (Option String)
  | .null => .ok none
  | .str s => .ok (some s)
  | .bool b => .ok (some (if b then "1" else "0"))
  | .int n => if Number.isWord n then .ok (some (toString n)) else .error .word
  | .float x => .ok (if x.isNaN then none else some x.text)
  | .list _ | .object _ => .error .kind

/-- What an integer column makes of data. -/
def integerColumn : Value → Except Misfit (Option Int)
  | .null => .ok none
  | .bool b => .ok (some (if b then 1 else 0))
  | .int n => if Number.isWord n then .ok (some n) else .error .word
  | .float x =>
    if x.isNaN then .ok none
    else
      match x.toInt? with
      | some n => if Number.isWord n then .ok (some n) else .error .kind
      | none => .error .kind
  | .str s =>
    let (negative, digits) := Decimal.splitSign s.toList
    let n : Int := Decimal.digitsValue digits
    if digits.isEmpty || !digits.all Char.isDigit || !Number.isWord n then .error .kind
    else .ok (some (if negative then -n else n))
  | .list _ | .object _ => .error .kind

/-- The draft of a workflow from the data of its columns. -/
def draftOf (columns : Entries) : Except Misfit Draft := do
  return {
    name := ← textColumn (columns.get "name")
    trigger := ← textColumn (columns.get "trigger")
    tree := columns.get "logic_tree"
    priority := ← integerColumn (columns.get "priority")
    active := columns.get "is_active"
    status := ← textColumn (columns.get "status")
    config := columns.get "trigger_config"
    description := ← textColumn (columns.get "description") }

/-- The draft of a record from the data of its columns; the time it took is checked and dropped. -/
def recordDraftOf (columns : Entries) : Except Misfit RecordDraft := do
  let _ ← integerColumn (columns.get "execution_time_ms")
  let success := columns.get "success"
  return {
    workflowId := ← textColumn (columns.get "workflow_id")
    trigger := ← textColumn (columns.get "trigger")
    context := columns.get "context_data"
    success := if success.isNull then none else flag? success
    result := columns.get "result"
    error := ← textColumn (columns.get "error")
    errorCode := ← textColumn (columns.get "error_code")
    entityType := ← textColumn (columns.get "entity_type")
    entityId := ← textColumn (columns.get "entity_id") }

/-- The fault of an insertion into a table that does not take its data, if there is the table and the
data columns can be written. -/
def misfitFault (operation : String) (hasTable : Bool) (data : List Value) (misfit : Misfit) : Fault :=
  match data.forM Value.checkEncoding, misfit with
  | .error _, _ => encodingFault operation data
  | .ok (), .word => if hasTable then .breakdown .integerBeyondWord else failed operation "no such table"
  | .ok (), .kind => failed operation "row refused"

/-- Stores a workflow from the data of its columns, if its tree is valid within the given depth. -/
def createFrom (columns : Entries) (maxDepth : Int) : StateM Store (Except Fault Workflow) := fun s =>
  match draftOf columns with
  | .ok d => create d maxDepth s
  | .error misfit =>
    let (tree, config) := (columns.get "logic_tree", columns.get "trigger_config")
    match Rule.ensureValid maxDepth tree with
    | .error fault => (.error fault, s)
    | .ok () =>
      (.error (misfitFault "create_workflow" s.workflows.isSome [tree, config] misfit), s.takeRow.2)

/-- The fields of a record. -/
def recordSlots : List Document.Slot := [
  ⟨"workflow_id", none⟩, ⟨"trigger", none⟩, ⟨"context_data", none⟩, ⟨"success", none⟩,
  ⟨"result", none⟩, ⟨"execution_time_ms", some (.int 0)⟩, ⟨"error", some .null⟩,
  ⟨"error_code", some .null⟩, ⟨"entity_type", some .null⟩, ⟨"entity_id", some .null⟩]

/-- Stores a record from the data of its columns and gives its id. -/
def recordFrom (given : Entries) : StateM Store (Except Fault String) := fun s =>
  match Document.fill recordSlots given with
  | .error cause => (.error (.breakdown cause), s)
  | .ok columns =>
    match recordDraftOf columns with
    | .ok d => record d s
    | .error misfit =>
      let data := [Entries.get columns "context_data", Entries.get columns "result"]
      (.error (misfitFault "create_execution" s.records.isSome data misfit), s.takeRow.2)

end Store

end TriggerFlow
