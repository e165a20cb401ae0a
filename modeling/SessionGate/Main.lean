import SessionGate.Startup
import Std.Time

/-!
# The command line

Starts a service from the environment of the process: logs what has been set up, or reports why
there is no service and ends with a failure. Accepting connections lies outside of this library;
requests are answered by `Http.Router.answer`.
-/

namespace SessionGate.Command

/-- The variables of the process that a service looks at. -/
def readEnvironment : IO (List (String × String)) := do
  let names := [Setting.address, .sessionSeconds, .hashPasses, .hashMemory, .hashLanes,
    .sweepSeconds].map Setting.name ++ [Startup.filterVariable]
  names.filterMapM fun name => do
    return (← IO.getEnv name).map (name, ·)

/-- The present instant. -/
def readWallClock : IO Time.Instant := do
  let now ← Std.Time.Timestamp.now
  return (Time.Instant.ofNanos? now.toNanosecondsSinceUnixEpoch.val).getD .last

end SessionGate.Command

open SessionGate

/-- Start, log and report. -/
def main : IO UInt32 := do
  let settled ← Command.readEnvironment
  let environment name := (settled.lookup name).map Octets.ofText
  match Startup.start environment (← Command.readWallClock) with
  | .refused error =>
      IO.eprint (Startup.report error)
      return 1
  | .ready settings _ =>
      for line in Startup.lines environment settings do
        IO.println line.text
      return 0
