import TriggerFlow.Json.Reading
import TriggerFlow.Seeding
import TriggerFlow.Seeding.Starter

/-!
# The seeding command

Seeds the workflows of a document into a fresh store and tells what has been done. The document is the
JSON file named by the first argument, or the one with the starter workflows. The settings come from
the environment, in which the variables of a `.env` file are set first.
-/

namespace TriggerFlow.Command

/-- The text of a file, if it can be read. -/
def readText? (path : String) : IO (Option String) := do
  try
    return some (← IO.FS.readFile path)
  catch _ =>
    return none

/-- The variables of the environment that name settings. -/
def environment : IO (List (String × String)) := do
  let found ← Settings.names.mapM fun name => do
    let key := name.toUpper
    return (← IO.getEnv key).map fun value => (key, value)
  return found.filterMap id

/-- The document to seed, if there is one that can be read. -/
def document? (args : List String) : IO (Option Value) :=
  match args with
  | [] | "" :: _ => return some Seeding.starter
  | path :: _ => do return (← readText? path).bind Json.read?

/-- One line for a problem of the settings. -/
def problemLine (p : Schema.Problem) : String :=
  let places := p.place.map fun place =>
    match place with
    | .field name => name
    | .item index => toString index
  ".".intercalate places ++ ": " ++ p.kind.message?.getD p.kind.name

/-- The lines about a command that fails. -/
def errorLines : Seeding.CommandError → List String
  | .settings problems => problems.map problemLine
  | .fault fault => fault.text.toOption.toList

end TriggerFlow.Command

open TriggerFlow in
/-- Seeds the workflows of a document. -/
def main (args : List String) : IO UInt32 := do
  let dotenv := (← Command.readText? ".env").getD ""
  let settings := Settings.load [] (Dotenv.extend (← Command.environment) dotenv) dotenv
  let some document ← Command.document? args
    | IO.eprintln "The document cannot be read."
      return 1
  match (Seeding.command settings document {}).1 with
  | .error error =>
    (Command.errorLines error).forM IO.eprintln
    return 1
  | .ok result =>
    result.printed.forM IO.println
    result.complaints.forM IO.eprintln
    return UInt32.ofNat (result.exit.getD 0)
