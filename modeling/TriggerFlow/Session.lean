import TriggerFlow.Fault
import TriggerFlow.Settings

/-!
# The session of a process with its database

A process opens its database once, at the address of the settings of that time, and keeps it open
whatever the settings say later.
-/

namespace TriggerFlow

/-- The address of the database that is open, if one is. -/
structure Session where
  address : Option String := none

namespace Session

/-- Opens the database unless it is open already. -/
def connect (settings : Settings) : StateM Session (Except Fault Unit) := fun s =>
  match s.address with
  | some _ => (.ok (), s)
  | none =>
    if settings.databaseUrl == "" then (.error (.failure "DATABASE_URL is not configured"), s)
    else (.ok (), { address := some settings.databaseUrl })

end Session

end TriggerFlow
