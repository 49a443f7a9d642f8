import LiveJobs.CommandLine.Performance
import LiveJobs.Json.Reader
import LiveJobs.Json.Writer
import LiveJobs.Rehearsal.Wire
import LiveJobs.Store.Wire

/-!
# The command line

Follows the jobs of a tenant, or asks for the cancellation of one. Settings come from the
environment. The script of the service is a JSON text on the standard input, which also says what
the wall clock shows.
-/

namespace LiveJobs.CommandLine

open LiveJobs.Json LiveJobs.Time

/-- The variables that are looked at. -/
def variableNames : List String :=
  ["JOBSYNC_API_URL", "JOBSYNC_TENANT_ID", "JOBSYNC_AUTH_TOKEN", "JOBSYNC_RECONNECT_MS",
    "JOBSYNC_BULK_POLL_MS", "JOBSYNC_PAGE_SIZE"]

/-- How long the list is followed, in milliseconds. -/
def watchTime : Nat := 60000

/-- The script in a text; nothing is scripted if it has none. -/
def scriptOf (value : Json) : Script := (Script.ofJson? value).getD .empty

/-- What the wall clock shows; the epoch if nothing is said. -/
def wallOf (value : Json) : Instant := ((given? value "now").bind instant?).getD ⟨0, 0⟩

/-- Carries out a command and shows what it comes to. -/
def carryOut (arguments : List String) : IO UInt32 := do
  let pairs ← variableNames.mapM fun name => return (name, ← IO.getEnv name)
  let input ← (← IO.getStdin).readToEnd
  let service := (Json.parse input.toList).getD .null
  let performance := perform arguments (fun name => (pairs.lookup name).join) (scriptOf service)
    (wallOf service) watchTime
  for view in performance.views do
    IO.println (Json.write view.toJson)
  if let some accepted := performance.accepted then
    IO.println (Json.write accepted.toJson)
  if let some complaint := performance.complaint then
    for line in complaint.lines do
      IO.eprintln line
  return performance.exitCode.toUInt32

end LiveJobs.CommandLine

/-- The program: its arguments in, its exit code out. -/
def main (arguments : List String) : IO UInt32 := LiveJobs.CommandLine.carryOut arguments
