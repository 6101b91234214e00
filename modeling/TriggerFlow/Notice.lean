import TriggerFlow.Duration
import TriggerFlow.Value.Equality
import TriggerFlow.Value.Text

/-!
# Notices

What a caller is told of a fault of the engine: its wording, its code, and details for machines. Only
faults that the engine itself finds have a notice; a breakdown has none. The parts of a notice are
whatever data its author gave; what is missing or empty is left to the kind of the notice.
-/

namespace TriggerFlow

/-- What a caller is told of a fault. -/
structure Notice where
  message : Value
  code : Value
  details : Value := .object []

namespace Notice

/-- The wording of a notice. -/
def text (n : Notice) : String := n.message.text

/-- The first of two values unless it is missing or empty. -/
def given (v fallback : Value) : Value := if v.truthy then v else fallback

/-- A detail, which is left out if it is missing or empty. -/
def detail (key : String) (v : Value) : Value := .object (if v.truthy then [(key, v)] else [])

/-- The code of a kind of fault. -/
def codeOf (code : FaultCode) : Value := .str code.text

/-- A fault of a kind that has no code of its own goes by the name of the kind. -/
def general (kind : String) (message code details : Value) : Notice :=
  ⟨message, given code (.str kind), given details (.object [])⟩

def logic (message operator : Value) : Notice :=
  ⟨message, codeOf .logic, detail "operator" operator⟩

def validation (message field : Value) : Notice :=
  ⟨message, codeOf .validation, detail "field" field⟩

/-- Something that was looked up by its id and is not there. -/
def notFound (kind id : Value) : Notice :=
  ⟨.str (kind.text ++ " not found: " ++ id.text), codeOf .notFound,
    .object [("resource_type", kind), ("resource_id", id)]⟩

def store (operation reason : Value) : Notice :=
  ⟨.str (Fault.storeText operation.text reason.text), codeOf .store,
    .object [("operation", operation), ("reason", reason)]⟩

/-- The integer that a text of digits writes, with single underscores between them. -/
def readInteger (s : String) : Except Breakdown Int :=
  match Binary64.joinGroups? false (s.toList.map Binary64.asciiDigit) with
  | none => .error (.notAnInteger s)
  | some digits =>
    let leading := (digits.takeWhile Char.isDigit).length
    if Breakdown.digitLimit < leading then .error (.tooManyDigits leading)
    else if leading == 0 || leading < digits.length then .error (.notAnInteger s)
    else .ok (Decimal.digitsValue digits)

/-- Seconds as whole milliseconds; a text is written a thousand times to read that many. -/
def milliseconds (seconds : Value) : Except Breakdown Int :=
  match seconds with
  | .str s => readInteger (String.join (List.replicate 1000 s))
  | v =>
    match v.quantity? with
    | some n => n.milliseconds
    | none => .error (.notANumber v.kind)

/-- An evaluation that took longer than so many seconds. -/
def timeout (seconds : Value) : Except Breakdown Notice := do
  let ms ← milliseconds seconds
  if 10 ^ Breakdown.digitLimit ≤ ms.natAbs then throw .integerTooLong
  return ⟨.str (Fault.timeoutText ms), codeOf .timeout,
    .object [("timeout_seconds", seconds)]⟩

/-- The notice of a fault that the engine itself finds. -/
def ofFault? (fault : Fault) : Option Notice :=
  match fault with
  | .logic f => some (logic (.str f.message) (Value.ofOption .str f.operator?))
  | .timeout seconds milliseconds =>
    some ⟨.str (Fault.timeoutText milliseconds), codeOf .timeout,
      .object [("timeout_seconds", Value.ofNumber seconds)]⟩
  | .store operation reason => some (store (.str operation) (.str reason))
  | .invalid message => some (validation (.str message) (.str "logic_tree"))
  | .breakdown _ | .custom .. | .failure _ | .mute _ => none

end Notice

end TriggerFlow
