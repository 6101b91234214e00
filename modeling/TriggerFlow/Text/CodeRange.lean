/-!
# Classes of characters as ranges of code points
-/

namespace TriggerFlow.Text

/-- Whether the code point of a character lies in one of the ranges, ends included. -/
def covers (ranges : List (Nat × Nat)) (c : Char) : Bool :=
  ranges.any fun r => r.1 ≤ c.toNat && c.toNat ≤ r.2

end TriggerFlow.Text
