import TriggerFlow.Fault
import TriggerFlow.Text.Digit
import TriggerFlow.Text.Search

/-!
# Paths into a context

A path is a list of segments. A segment leads into an object by its key and into a list by its index,
written with decimal digits; what is missing or null ends the way.
-/

namespace TriggerFlow.Rule

/-- The segments of a dotted path. -/
def segments (path : String) : List String :=
  (Text.splitAt '.' path.toList).map String.ofList

/-- The number that a text of digits writes. Digits that are not decimal write no number, and too
many are refused. -/
def readIndex (segment : String) : Except Breakdown Nat :=
  let digits := segment.toList.map Text.decimalValue?
  let leading := (digits.takeWhile Option.isSome).length
  if Breakdown.digitLimit < leading then .error (.tooManyDigits leading)
  else if leading < digits.length then .error (.notAnInteger segment)
  else .ok (digits.foldl (fun n d => 10 * n + d.getD 0) 0)

/-- Whether a segment is made of digits alone. -/
def isIndex (segment : String) : Bool :=
  segment != "" && segment.toList.all Text.isDigit

/-- One step; null if it leads nowhere. -/
def descend (segment : String) : Value → Except Breakdown Value
  | .object entries => .ok (Entries.get entries segment)
  | .list items =>
    if isIndex segment then do
      let index ← readIndex segment
      return items.getD index .null
    else .ok .null
  | _ => .ok .null

/-- The value that a path leads to; null if it leads nowhere. -/
def resolve (v : Value) : List String → Except Breakdown Value
  | [] => .ok v
  | segment :: rest => do
    let next ← descend segment v
    if next.isNull then return .null else resolve next rest

end TriggerFlow.Rule
