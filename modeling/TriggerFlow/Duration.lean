import TriggerFlow.Fault

/-!
# Durations

Durations are given in seconds and reported in whole milliseconds, without the fraction.
-/

namespace TriggerFlow.Number

/-- The difference of two numbers; it is an integer if both are. -/
def sub (m n : Number) : Except Breakdown Number :=
  match m, n with
  | .int a, .int b => .ok (.int (a - b))
  | m, n =>
    match m.nearest?, n.nearest? with
    | some x, some y => .ok (.float (x.sub y))
    | _, _ => .error .integerTooLarge

/-- Seconds as whole milliseconds, toward zero. -/
def milliseconds : Number → Except Breakdown Int
  | .int n => .ok (n * 1000)
  | .float x =>
    let scaled := x.mul (.ofInt 1000)
    match scaled.truncate? with
    | some n => .ok n
    | none => .error (if scaled.isNaN then .notANumberToInteger else .infinityToInteger)

/-- The milliseconds from one reading of a clock to another. -/
def elapsed (started now : Number) : Except Breakdown Int := do
  (← now.sub started).milliseconds

end TriggerFlow.Number

namespace TriggerFlow

/-- The fault of an evaluation that has exceeded its time. -/
def Fault.ofTimeout (seconds : Number) : Fault :=
  match seconds.milliseconds with
  | .ok ms => .timeout seconds ms
  | .error cause => .breakdown cause

end TriggerFlow
