import TriggerFlow.Execution.Recorder
import TriggerFlow.Execution.Schedule
import TriggerFlow.Filter
import TriggerFlow.Rule.Validation

/-!
# The workflow engine

`execute` runs every eligible workflow of a trigger in the order of the feed, records the outcomes and
reports them. `trial` runs one workflow and records nothing. A fault of one workflow becomes its
outcome, and a fault of a service becomes the error of the report, unless the fault has no text: then
whatever it was to be written into fails in turn.
-/

namespace TriggerFlow

/-- What the engine works with. Every service may fail and may change the state `σ`. -/
structure Services (σ : Type) where
  /-- The workflows of a trigger that may be eligible, at most so many, the first to run first. -/
  feed : String → Int → StateM σ (Except Fault (List Workflow))
  /-- The workflow of an id. -/
  find : String → StateM σ (Except Fault (Option Workflow))
  /-- The outcome of a tree in a context. -/
  evaluate : Value → Value → StateM σ Outcome
  /-- Records an outcome; the answer is whether it was written. -/
  record : Event → WorkflowOutcome → StateM σ (Except Fault Bool)

/-- The limits of an engine. -/
structure Limits where
  maxWorkflows : Int := 100
  maxConcurrency : Int := 1
  maxDepth : Int := Rule.defaultMaxDepth

/-- What a caller asks for; a business object that is not given is taken from the event. -/
structure Request where
  trigger : String
  context : Value
  entityType : Option String := none
  entityId : Option String := none
  dryRun : Bool := false

/-- The first `n` items; a negative `n` leaves out that many at the end. -/
def takeFirst {α : Type} (n : Int) (xs : List α) : List α :=
  if 0 ≤ n then xs.take n.toNat else xs.take (xs.length - n.natAbs)

/-- How a batch went. -/
inductive Batch
  /-- The workflows could not be loaded. -/
  | unavailable (fault : Fault)
  /-- There is no eligible workflow. -/
  | idle
  /-- Making out or recording the outcomes failed. -/
  | abandoned (fault : Fault)
  | completed (outcomes : List WorkflowOutcome)

/-- What the caller learns of a batch. -/
def Batch.toReport : Batch → Except Fault Report
  | .unavailable fault | .abandoned fault => return .failed (← fault.report)
  | .idle => .ok (.ofOutcomes [])
  | .completed outcomes => .ok (.ofOutcomes outcomes)

namespace Engine

variable {σ : Type} [Levels]

/-- The outcome of a workflow from the result of its evaluation. -/
def judge (w : Workflow) (result : Outcome) : Except Fault WorkflowOutcome :=
  match result with
  | .error fault => return .failed w (← fault.contain .executionFailed)
  | .ok v =>
    match Action.ofResult? v with
    | .ok action => .ok (.succeeded w action)
    | .error fault => .ok (.failed w (.logic fault))

/-- Evaluates one workflow. -/
def evaluateOne (services : Services σ) (context : Value) (w : Workflow) :
    StateM σ (Except Fault WorkflowOutcome) := do
  return judge w (← services.evaluate w.tree context)

/-- Evaluates one workflow if the event fires under its trigger config; if not it has no outcome. -/
def filterAndEvaluate (services : Services σ) (context : Value) (w : Workflow) :
    StateM σ (Except Fault (Option WorkflowOutcome)) :=
  match Filter.fires w.config context with
  | .error fault => return do return some (.failed w (← fault.contain .filterFailed))
  | .ok false => return .ok none
  | .ok true => do return (← evaluateOne services context w).map some

/-- Evaluates workflows, at most so many at a time; the outcomes are in the order of the
workflows. -/
def evaluateAll (services : Services σ) (maxConcurrency : Int) (schedule : Schedule)
    (context : Value) (ws : List Workflow) : StateM σ (Except Fault (List WorkflowOutcome)) := do
  let jobs := ws.map (filterAndEvaluate services context)
  let results ← Schedule.together maxConcurrency schedule jobs
  return results.map fun outcomes => outcomes.filterMap id

/-- Records outcomes in their order, until recording fails. -/
def recordAll (services : Services σ) (event : Event) :
    List WorkflowOutcome → StateM σ (Except Fault Unit)
  | [] => return .ok ()
  | o :: rest => do
    match ← services.record event o with
    | .ok _ => recordAll services event rest
    | .error fault => return .error fault

/-- A given text that is not empty. -/
def given (s : Option String) : Option String := s.filter (· != "")

/-- The event of a request, with the business object it is about. -/
def eventOf (request : Request) : Except Breakdown Event := do
  let entityType := (given request.entityType).orElse fun _ => entityType? request.trigger
  let entityId ← match given request.entityId with
    | some id => .ok (some id)
    | none => entityId? request.trigger request.context
  return { trigger := request.trigger, context := request.context
           entityType := entityType, entityId := entityId }

/-- Runs all eligible workflows of a trigger. -/
def run (services : Services σ) (limits : Limits) (schedule : Schedule) (request : Request) :
    StateM σ Batch := do
  match ← services.feed request.trigger limits.maxWorkflows with
  | .error fault => return .unavailable fault
  | .ok fetched =>
    let ws := takeFirst limits.maxWorkflows (fetched.filter (·.isEligible request.trigger))
    if ws.isEmpty then return .idle
    match ← evaluateAll services limits.maxConcurrency schedule request.context ws with
    | .error fault => return .abandoned fault
    | .ok outcomes =>
      if request.dryRun then return .completed outcomes
      match eventOf request with
      | .error cause => return .abandoned (.breakdown cause)
      | .ok event =>
        match ← recordAll services event outcomes with
        | .ok () => return .completed outcomes
        | .error fault => return .abandoned fault

/-- Runs all eligible workflows of a trigger and reports the outcomes. -/
def execute (services : Services σ) (limits : Limits) (schedule : Schedule) (request : Request) :
    StateM σ (Except Fault Report) := do
  return (← run services limits schedule request).toReport

/-- The report of a trial of one workflow. -/
def trialReport (o : WorkflowOutcome) : Report :=
  if o.success then .ofOutcomes [o]
  else { success := false, error := o.error, outcomes := [o] }

/-- Runs one workflow, whatever its status, and records nothing. -/
def trial (services : Services σ) (id : String) (context : Value) :
    StateM σ (Except Fault Report) := do
  match ← services.find id with
  | .error fault => return do return .failed (← fault.report)
  | .ok none => return .ok (.failed (some "Workflow not found"))
  | .ok (some w) => return (← evaluateOne services context w).map trialReport

end Engine

end TriggerFlow
