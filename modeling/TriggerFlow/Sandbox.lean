import TriggerFlow.Duration
import TriggerFlow.Rule.Depth
import TriggerFlow.Rule.Reach
import TriggerFlow.Settings
import TriggerFlow.Value.Pairs

/-!
# The evaluation sandbox

A tree is evaluated by a worker that can be stopped. The depth of the tree is checked before a worker
starts. A worker that is a fork shares the memory of the sandbox, and any other one is handed its data
over. A worker answers with one message, if what it has to tell can be sent, and closes its end; of a
fault it tells only the message. One that does not answer in time is stopped, and one that ends
without an answer is a fault too.
-/

namespace TriggerFlow

mutual

/-- The value with marks of its own for its not-a-numbers, counted from `next` on, and the next mark. -/
def Value.numbered (next : Nat) : Value → Value × Nat
  | .float (.nan _) => (.float (.nan (some next)), next + 1)
  | .list items =>
    let (items, next) := numberedItems next items
    (.list items, next)
  | .object entries =>
    let (entries, next) := numberedEntries next entries
    (.object entries, next)
  | v => (v, next)

def Value.numberedItems (next : Nat) : List Value → List Value × Nat
  | [] => ([], next)
  | v :: rest =>
    let (v, next) := numbered next v
    let (rest, next) := numberedItems next rest
    (v :: rest, next)

def Value.numberedEntries (next : Nat) : List (String × Value) → List (String × Value) × Nat
  | [] => ([], next)
  | (key, v) :: rest =>
    let (v, next) := numbered next v
    let (rest, next) := numberedEntries next rest
    ((key, v) :: rest, next)

end

/-- Which results can be sent. -/
class Sendable (α : Type) where
  canSend : α → Bool

/-- A value can be sent unless it nests too deeply; a container takes two levels. -/
instance Value.sendable [Levels] : Sendable Value := ⟨fun v => 2 * v.nesting ≤ Levels.answer⟩

/-- What a worker sends: a result, or the message of a fault. -/
inductive WorkerMessage (α : Type)
  | value (v : α)
  | error (message : Option String)

namespace WorkerMessage

/-- What is told of a fault, if it has a text: a fault of logic keeps its message, missing or not. -/
def wording? : Fault → Option (Option String)
  | .logic fault => some fault.message
  | .custom .logic message _ => some message
  | fault =>
    match fault.text with
    | .ok text => some (LogicFault.executionFailed text).message
    | .error _ => none

/-- The message about an outcome, if there is one that can be sent. -/
def ofOutcome? {α : Type} [Sendable α] : Except Fault α → Option (WorkerMessage α)
  | .ok v => if Sendable.canSend v then some (.value v) else none
  | .error fault => (wording? fault).map .error

/-- What the message says of the evaluation. -/
def toOutcome : WorkerMessage Value → Outcome
  | .value v => .ok v
  | .error (some message) => .error (.logic (.reported message))
  | .error none => .error (.custom .logic none FaultCode.logic.text)

end WorkerMessage

/-- What a worker leaves on its end of the connection. -/
structure Transcript (α : Type) where
  sent : List (WorkerMessage α)
  closed : Bool

/-- A worker sends the message about its outcome, if it can, and closes its end. -/
def Transcript.ofOutcome {α : Type} [Sendable α] (outcome : Except Fault α) : Transcript α :=
  ⟨(WorkerMessage.ofOutcome? outcome).toList, true⟩

/-- How a worker ends. -/
inductive Conduct (α : Type)
  | answers (outcome : Except Fault α)
  | exits
  | overruns

/-- The limits of a sandbox, and how its workers are started. -/
structure Sandbox where
  timeout : Number := .float (.ofInt 5)
  maxDepth : Int := Rule.defaultMaxDepth
  startMethod : String := "forkserver"

namespace Sandbox

variable [Levels]

/-- A sandbox with the limits of settings. -/
def ofSettings (s : Settings) : Sandbox := ⟨.float s.executionTimeout, s.maxDepth, s.startMethod⟩

/-- Only known start methods can be used. -/
def checkStartMethod (s : Sandbox) : Except Breakdown Unit :=
  if startMethods.contains s.startMethod then .ok () else .error (.noStartMethod s.startMethod)

/-- Whether the data of a worker can be handed over to it; a container takes two levels. -/
def checkHandover (s : Sandbox) (data : List Value) : Except Breakdown Unit :=
  if s.startMethod != "fork" && data.any fun v => Levels.handover < 2 * v.nesting then
    .error (.nestedTooDeeply .handover)
  else .ok ()

/-- The tree and the context of a worker: what a fork shares, or what comes out of the handover, with
not-a-numbers that are objects of their own. -/
def handedOver (s : Sandbox) (tree context : Value) : Value × Value :=
  if s.startMethod == "fork" then (tree, context)
  else
    let (tree, next) := tree.numbered 0
    (tree, (context.numbered next).1)

/-- Whether a worker can be waited for that long; a wait takes whole milliseconds, rounded up. -/
def checkWait (s : Sandbox) : Except Breakdown Unit :=
  match s.timeout.nearest? with
  | none => .error .integerTooLarge
  | some seconds =>
    let scaled := seconds.mul (.ofInt 1000)
    match scaled.ceiling? with
    | some ms =>
      if 2 ^ 63 ≤ ms * 10 ^ 6 then .error .waitBeyondClock
      else if 2 ^ 31 ≤ ms then .error .waitTooLong
      else .ok ()
    | none =>
      if seconds.lt .zero then .ok ()
      else if scaled.isNaN then .error .notANumberToInteger
      else .error .infinityToInteger

/-- Whether workers are given any time to answer. -/
def isPatient (s : Sandbox) : Bool := s.timeout.nearest?.any Binary64.zero.lt

/-- What is made of the message of a worker, or of its end without one. -/
def received (exitCode : Option Int) : Option (WorkerMessage Value) → Outcome
  | some message => message.toOutcome
  | none => .error (.logic (.workerExited exitCode))

/-- Evaluates a tree in a context with a worker of the given conduct. The exit code is what the
sandbox sees of the end of a worker that has not answered; it may see none yet. -/
def runWith (s : Sandbox) (work : Value → Value → Conduct Value) (tree context : Value)
    (exitCode : Option Int := none) : Outcome := do
  (Rule.checkDepth s.maxDepth tree).mapError Fault.logic
  let context := Value.object (← context.toEntries.mapError Fault.breakdown)
  (s.checkHandover [tree, context]).mapError Fault.breakdown
  s.checkWait.mapError Fault.breakdown
  let data := s.handedOver tree context
  match if s.isPatient then work data.1 data.2 else .overruns with
  | .answers outcome => received exitCode (WorkerMessage.ofOutcome? outcome)
  | .exits => received exitCode none
  | .overruns => .error (.ofTimeout s.timeout)

/-- The outcome of a tree in a context at a worker. -/
def evaluateAtWorker (tree context : Value) : Outcome := @Rule.evaluate Levels.atWorker tree context

/-- Evaluates a tree in a context with a worker that answers in time. -/
def run (s : Sandbox) (tree context : Value) (exitCode : Option Int := none) : Outcome :=
  s.runWith (fun tree context => .answers (evaluateAtWorker tree context)) tree context exitCode

end Sandbox

end TriggerFlow
