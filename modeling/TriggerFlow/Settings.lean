import TriggerFlow.Dotenv
import TriggerFlow.Rule.Depth
import TriggerFlow.Schema.Scalar
import TriggerFlow.Text.Lowercase

/-!
# Settings

Every setting has a default and can be given directly, as a variable of the environment, or in a
`.env` text, the earlier source going before the later. Names are read in any case. The limits of the
engine have to be positive, and the start method one of those that exist.
-/

namespace TriggerFlow

/-- How evaluation workers are started. -/
def startMethods : List String := ["fork", "spawn", "forkserver"]

/-- All settings. -/
structure Settings where
  appName : String := "workflow-automation"
  appVersion : String := "1.0.0"
  debug : Bool := false
  databaseUrl : String := ""
  databaseEcho : Bool := false
  executionTimeout : Binary64 := Binary64.ofInt 5
  maxDepth : Int := 10
  maxPerTrigger : Int := 100
  maxConcurrency : Int := 1
  startMethod : String := "forkserver"
  telemetryEnabled : Bool := true
  telemetryExporter : String := "none"
  telemetrySampleRate : Binary64 := Binary64.one
  telemetryEnvironment : String := "development"

namespace Settings

open Schema

/-- The names of all settings. -/
def names : List String := [
  "app_name", "app_version", "debug", "database_url", "database_echo",
  "workflow_execution_timeout_seconds", "workflow_max_recursion_depth",
  "workflow_max_per_trigger", "workflow_max_concurrency", "workflow_sandbox_start_method",
  "telemetry_enabled", "telemetry_exporter", "telemetry_sample_rate", "telemetry_environment"]

/-- The names of the start methods as they are listed in messages. -/
def startMethodsText : String :=
  "(" ++ ", ".intercalate (startMethods.map Text.quoted) ++ ")"

/-- What is wrong with the limits, the first fault only. -/
def limitFault? (s : Settings) : Option String :=
  if s.executionTimeout.le .zero then
    some "WORKFLOW_EXECUTION_TIMEOUT_SECONDS must be positive"
  else if s.maxDepth < 1 then some "WORKFLOW_MAX_RECURSION_DEPTH must be at least 1"
  else if s.maxPerTrigger < 1 then some "WORKFLOW_MAX_PER_TRIGGER must be at least 1"
  else if s.maxConcurrency < 1 then some "WORKFLOW_MAX_CONCURRENCY must be at least 1"
  else if !startMethods.contains s.startMethod then
    some ("workflow_sandbox_start_method must be one of " ++ startMethodsText ++ ", got: " ++
      Text.quoted s.startMethod)
  else none

/-- Reads settings from the values given for them. -/
def read (given : Entries) : Checked Settings :=
  let base : Settings := {}
  let settings : Checked Settings :=
    Settings.mk
      <$> .defaulted given "app_name" base.appName readText
      <*> .defaulted given "app_version" base.appVersion readText
      <*> .defaulted given "debug" base.debug readTruth
      <*> .defaulted given "database_url" base.databaseUrl readText
      <*> .defaulted given "database_echo" base.databaseEcho readTruth
      <*> .defaulted given "workflow_execution_timeout_seconds" base.executionTimeout readFloat
      <*> .defaulted given "workflow_max_recursion_depth" base.maxDepth readInteger
      <*> .defaulted given "workflow_max_per_trigger" base.maxPerTrigger readInteger
      <*> .defaulted given "workflow_max_concurrency" base.maxConcurrency readInteger
      <*> .defaulted given "workflow_sandbox_start_method" base.startMethod readText
      <*> .defaulted given "telemetry_enabled" base.telemetryEnabled readTruth
      <*> .defaulted given "telemetry_exporter" base.telemetryExporter readText
      <*> .defaulted given "telemetry_sample_rate" base.telemetrySampleRate readFloat
      <*> .defaulted given "telemetry_environment" base.telemetryEnvironment readText
  settings.andThen fun s =>
    match s.limitFault? with
    | some fault => .problem (.valueError fault)
    | none => .accepted s

/-- Direct values as settings: names in lower case, of which the first value counts. -/
def ofValues (given : Entries) : Entries := given.map fun e => (Text.lower e.1, e.2)

/-- Variables as settings: names in lower case, of which the last value counts. A variable without a
value sets nothing. -/
def ofVariables (given : List (String × Option String)) : Entries :=
  (Entries.ofList (given.map fun v => (Text.lower v.1, Value.ofOption .str v.2))).filter
    fun e => !e.2.isNull

/-- The value of every setting from the first source that has one. -/
def merge (sources : List Entries) : Entries :=
  names.filterMap fun name =>
    (sources.findSome? fun source => source.lookup name).map fun v => (name, v)

/-- Loads settings from direct values, the environment and a `.env` text. -/
def load (values : Entries) (environment : List (String × String)) (dotenv : String) :
    Checked Settings :=
  read (merge [
    ofValues values, ofVariables (environment.map fun v => (v.1, some v.2)),
    ofVariables (Dotenv.assignments environment dotenv)])

def toValue (s : Settings) : Value :=
  .object [
    ("app_name", .str s.appName), ("app_version", .str s.appVersion), ("debug", .bool s.debug),
    ("database_url", .str s.databaseUrl), ("database_echo", .bool s.databaseEcho),
    ("workflow_execution_timeout_seconds", .float s.executionTimeout),
    ("workflow_max_recursion_depth", .int s.maxDepth),
    ("workflow_max_per_trigger", .int s.maxPerTrigger),
    ("workflow_max_concurrency", .int s.maxConcurrency),
    ("workflow_sandbox_start_method", .str s.startMethod),
    ("telemetry_enabled", .bool s.telemetryEnabled),
    ("telemetry_exporter", .str s.telemetryExporter),
    ("telemetry_sample_rate", .float s.telemetrySampleRate),
    ("telemetry_environment", .str s.telemetryEnvironment)]

end Settings

end TriggerFlow
