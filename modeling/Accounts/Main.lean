import Accounts.Startup
import Accounts.Store.Migration
/-! The command line. Without arguments the service is started with the settings of the environment, and stops
when its input ends; with `migrate` and its arguments the migrations are run on a new database. -/
namespace Accounts.Main
open Startup

def environment : IO (List (String × String)) :=
  ("rust_log" :: Settings.known.map (·.1)).filterMapM fun name => do
    let key := name.map Char.toUpper
    return (← IO.getEnv key).map (key, ·)

def nobody : Relay.Server := ⟨true, .missing, .missing, false, false, [], none⟩

def migrate (args : List String) : IO UInt32 := do
  match Migration.Command.ofArgs? args with
  | none =>
    IO.eprintln "expected one of: up [-n N], down [-n N], status, fresh, refresh, reset"
    return 2
  | some command =>
    for line in (command.run .start).2 do IO.println line
    return 0

def report (fault : StartFault) : IO UInt32 := do
  IO.eprintln ("Error: " ++ fault.message)
  if let some cause := fault.cause? then IO.eprintln ("\nCaused by:\n    " ++ cause)
  return 1

def serve : IO UInt32 := do
  let env ← environment
  let filter := Log.filter (env.lookup "RUST_LOG")
  let write (l : Log.Line) : IO Unit := if Log.isWritten filter l then IO.println l.toJson.compact else pure ()
  match start env nobody with
  | .error fault => report fault
  | .ok started =>
    for l in started.lines ++ [listening started.port] do write l
    let _ ← (← IO.getStdin).readToEnd
    write Stop.interrupted.line
    return 0

end Accounts.Main

def main : List String → IO UInt32
  | [] => Accounts.Main.serve
  | "migrate" :: args => Accounts.Main.migrate args
  | _ => do
    IO.eprintln "expected no arguments, or: migrate"
    return 2
