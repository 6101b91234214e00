/-!
# Levels

Going down into nested data takes levels of a stack that everything shares, the callers of an
operation too. How many of them are left to an operation is therefore a parameter: nothing in this
library depends on the numbers. Evaluating a tree, copying a value and handing it over to another
process take two levels for a step or a container, everything else takes one.
-/

namespace TriggerFlow

/-- How many levels are left to each operation that goes down into its data. -/
class Levels where
  /-- To the evaluation of a tree, with the copies that it makes. -/
  evaluation : Nat
  /-- To an evaluation by a worker. -/
  worker : Nat
  /-- To the comparison of two values. -/
  comparison : Nat
  /-- To the text of a value. -/
  writing : Nat
  /-- To the text of a value within a log record. -/
  logging : Nat
  /-- To the JSON text of a value. -/
  encoding : Nat
  /-- To the text of data that a table did not take. -/
  complaint : Nat
  /-- To handing data over to a worker. -/
  handover : Nat
  /-- To sending a value back. -/
  answer : Nat
  /-- To a report that is written as plain data. -/
  report : Nat
  /-- To what a span shows. -/
  display : Nat
  /-- Trees a little deeper than may be saved by default can be evaluated. -/
  enough_evaluation : 24 ≤ evaluation := by decide
  enough_worker : 24 ≤ worker := by decide
  /-- An action without a config can be encoded. -/
  enough_encoding : 2 ≤ encoding := by decide
  /-- What can be encoded can be written. -/
  encoding_le : encoding ≤ writing := by decide

namespace Levels

/-- The levels where little else is going on. -/
instance ordinary : Levels where
  evaluation := 994
  worker := 960
  comparison := 998
  writing := 998
  logging := 985
  encoding := 993
  complaint := 900
  handover := 990
  answer := 980
  report := 980
  display := 980

/-- The levels at a worker, whose evaluations are those of a worker. -/
abbrev atWorker [levels : Levels] : Levels :=
  { levels with
    evaluation := levels.worker
    enough_evaluation := levels.enough_worker }

end Levels

end TriggerFlow
