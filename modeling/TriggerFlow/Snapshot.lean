import TriggerFlow.Json.Reading
import TriggerFlow.Json.Writing
import TriggerFlow.Value.Nesting
import TriggerFlow.Value.Pairs

/-!
# Snapshots

What is recorded of an event is a copy of its context, made by writing it as JSON text and reading
that text back.
-/

namespace TriggerFlow

/-- The copy of an object, or of pairs that make one. Of pairs whose keys have the same text all are
written, and the last is read back. Every key is written before its value. -/
def snapshot [Levels] (v : Value) : Except Breakdown Value := do
  let pairs ← v.toPairs
  (Value.list (pairs.flatMap fun p => [p.1, p.2])).checkEncoding
  return (Json.read? (Json.write (.object (Value.underTexts pairs)))).getD .null

end TriggerFlow
