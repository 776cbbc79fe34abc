import PoolLedger.Service.Arguments
import PoolLedger.Service.Config

/-!
# The command line

Reads the settings and the environment and says whether the service can start with them.
-/

namespace PoolLedger.Service

/-- What a service starts with: its settings and its database. -/
def start (file : Option ByteArray) (database : Option String) (a : Arguments) :
    Except ConfigError (Config × String) := do
  let config ← Config.load file a.listen
  return (config, ← databaseUrl database)

/-- What is told of a start. -/
def startText (a : Arguments) : Except ConfigError (Config × String) → String
  | .error e => "error: " ++ e.message
  | .ok (c, _) =>
    let source := match c.source with
      | .feed => c.feedUrl.text
      | .blocks => c.blockUrl.text
    let migration := if a.migrate then ", database to be migrated" else ""
    "listening on " ++ c.listen.text ++ ", events from the " ++ c.source.name ++ " of " ++ source ++
      migration

/-- The bytes of a file, none if it cannot be read. -/
def fileBytes (path : String) : IO (Option ByteArray) := do
  try return some (← IO.FS.readBinFile path)
  catch _ => return none

end PoolLedger.Service

open PoolLedger.Service in
def main (arguments : List String) : IO UInt32 := do
  match Arguments.parse? arguments with
  | none =>
    IO.eprintln Arguments.usage
    return 2
  | some a =>
    let result := start (← fileBytes a.config) (← IO.getEnv "DATABASE_URL") a
    match result with
    | .ok _ =>
      IO.println (startText a result)
      return 0
    | .error _ =>
      IO.eprintln (startText a result)
      return 1
