import TriggerFlow.Execution.Engine
import TriggerFlow.Settings
import TriggerFlow.Value.Nesting

/-!
# Tracing and logging

Every operation runs in a span named after it. A span carries the keywords that tell which event and
which object it is about, never the context itself; a failed operation leaves the type of its error.
-/

namespace TriggerFlow.Telemetry

variable [Levels]

/-- What all names begin with. -/
def namespaceName : String := "automation"

def spanName (operation : String) : String := namespaceName ++ "." ++ operation

/-- The name of a logger: names outside the namespace are put into it. -/
def loggerName (name : String) : String :=
  if name == namespaceName || Text.startsWith name (namespaceName ++ ".") then name
  else namespaceName ++ "." ++ name

/-- The arguments that are copied to spans. -/
def correlationKeys : List String :=
  ["trigger", "workflow_id", "entity_type", "entity_id", "dry_run"]

/-- An argument as a span shows it: truth values as they are, everything else as text; null is not
shown. -/
def correlationValue : Value → Except Breakdown Value
  | .null => .ok .null
  | .bool b => .ok (.bool b)
  | v => v.textWithin.map .str

/-- The span attributes of the arguments of a call. -/
def correlation (arguments : Entries) : Except Breakdown Entries := do
  let shown ← correlationKeys.mapM fun key => do
    return (spanName key, ← correlationValue (arguments.get key))
  return shown.filter fun e => !e.2.isNull

mutual

/-- A value as an attribute shows it: any data, but in objects only the entries that have a name. -/
def shown : Value → Value
  | .list items => .list (shownItems items)
  | .object entries => .object (shownEntries entries)
  | v => v

def shownItems : List Value → List Value
  | [] => []
  | v :: rest => shown v :: shownItems rest

def shownEntries : List (String × Value) → List (String × Value)
  | [] => []
  | (key, v) :: rest =>
    if key == "" then shownEntries rest else (key, shown v) :: shownEntries rest

end

/-- A finished span; a failed one has the type of its error. -/
structure Span where
  name : String
  attributes : Entries
  failure : Option String := none

namespace Span

/-- How many attributes a span has room for. -/
def attributeLimit : Nat := 128

/-- Sets an attribute, which becomes the newest one; where there is no room the oldest gives way. -/
def setAttribute (key : String) (v : Value) (attributes : Entries) : Entries :=
  let others := attributes.filter fun e => e.1 != key
  (if others.length < attributeLimit then others else others.drop 1) ++ [(key, v)]

/-- Sets an attribute under the namespace. -/
def addAttribute (s : Span) (key : String) (v : Value) : Span :=
  { s with attributes := setAttribute (spanName key) (shown v) s.attributes }

/-- Sets attributes one after another, until there is one that nests too deeply. -/
def addAttributes (s : Span) : Entries → Span × Option Breakdown
  | [] => (s, none)
  | (key, v) :: rest =>
    if Levels.display < v.nesting then (s, some (.nestedTooDeeply .copying))
    else addAttributes (s.addAttribute key v) rest

/-- Marks the span as failed. -/
def fail (s : Span) (errorType : String) : Span :=
  { s.addAttribute "error_type" (.str errorType) with failure := some errorType }

end Span

/-- The span of an operation that is called with arguments. -/
def start (operation : String) (arguments : Entries) : Except Breakdown Span := do
  return { name := spanName operation, attributes := ← correlation arguments }

/-- The span of a batch, which tells how many workflows it ran and how they went. -/
def batchSpan (arguments : Entries) (batch : Batch) : Except Breakdown Span := do
  let span ← start "workflow.execute" arguments
  match batch with
  | .completed outcomes =>
    let report := Report.ofOutcomes outcomes
    let failed := outcomes.filter fun o => !o.success
    return ((span.addAttribute "workflows_executed" (.int report.executed)).addAttribute
      "actions_returned" (.int report.details.length)).addAttribute
      "workflows_failed" (.int failed.length)
  | _ => return span

/-- The span of a trial. -/
def trialSpan (arguments : Entries) : Except Breakdown Span := start "workflow.test" arguments

/-! ### Calls -/

/-- The parameters of an operation: some may also be given by position, and the first so many of
these have to be given. -/
structure Signature where
  positional : List String
  needed : Nat
  keywords : List String

/-- The arguments of a call by name, if they fit the parameters. -/
def Signature.bind? (s : Signature) (args : List Value) (named : Entries) : Option Entries :=
  let byPosition := s.positional.zip args
  let fits :=
    args.length ≤ s.positional.length &&
      named.all (fun e => (s.positional ++ s.keywords).contains e.1 &&
        !(byPosition.any fun p => p.1 == e.1)) &&
      (s.positional.take s.needed).all fun name =>
        (byPosition.any fun p => p.1 == name) || (named.lookup name).isSome
  if fits then some (byPosition ++ named) else none

/-! ### Setup -/

/-- How spans are exported: what they are told to come from, which share of them is kept, and how
many exporters there are. -/
structure Provider where
  resource : Entries
  rate : Binary64
  exporters : Nat

/-- The provider of settings; none if tracing is disabled. The share has to lie between 0 and 1. -/
def provider? (s : Settings) : Except Breakdown (Option Provider) :=
  if !s.telemetryEnabled then .ok none
  else if s.telemetrySampleRate.lt .zero || Binary64.one.lt s.telemetrySampleRate then
    .error .badProbability
  else if s.telemetrySampleRate.isNaN then .error .notANumberToInteger
  else
    .ok (some {
      resource := [
        ("service.name", .str s.appName), ("service.version", .str s.appVersion),
        ("deployment.environment", .str s.telemetryEnvironment)]
      rate := s.telemetrySampleRate
      exporters := if s.telemetryExporter == "console" then 1 else 0 })

/-- The logger of the engine: its name, its level, and its handlers, of which it has one however
often it is set up. -/
structure Logger where
  name : String := namespaceName
  level : String
  handlers : List String := [namespaceName ++ ".stdout"]

def logger (debug : Bool) : Logger := { level := if debug then "DEBUG" else "INFO" }

end TriggerFlow.Telemetry
