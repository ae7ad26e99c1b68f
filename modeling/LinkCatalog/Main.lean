import LinkCatalog.CommandLine.Run
import LinkCatalog.Time.Timestamp
import Std.Time.DateTime.Timestamp

/-!
# The command line

Looks up rollouts of deployment configs. No transport is linked in, so every query fails.
-/

namespace LinkCatalog.CommandLine

/-- The variables that a run looks at. -/
def variableNames : List String :=
  [ClusterConfig.clusterUrlVariable, ClusterConfig.bearerTokenVariable,
    ClusterConfig.namespaceVariable, ClusterConfig.timeoutVariable, "RUST_LOG", "LOG_FORMAT"]

/-- The variables of this process that a run looks at. -/
def environment : IO Environment := do
  let mut found : Environment := []
  for name in variableNames do
    if let some text ← IO.getEnv name then
      found := (name, text.toUTF8.data.toList) :: found
  return found

/-- The present time as text. -/
def timeText : IO String := do
  let now ← Std.Time.Timestamp.now
  let nanos := now.toNanosecondsSinceUnixEpoch.val
  match Instant.ofParts? (nanos / 1000000000) (nanos % 1000000000).toNat with
  | some instant => return instant.toMicrosText
  | none => return ""

/-- Prints a line. -/
def printLine (config : LogConfig) : Line → IO Unit
  | .output text => IO.println text
  | .log event => do
    let time ← timeText
    IO.println (if config.isJson then (event.toJson time).compact else event.toText time)

end LinkCatalog.CommandLine

open LinkCatalog CommandLine in
def main (arguments : List String) : IO UInt32 := do
  let environment ← environment
  let result := run Cluster.unreachable arguments environment
  result.lines.forM (printLine (LogConfig.ofEnvironment environment))
  result.complaints.forM IO.eprintln
  return UInt32.ofNat result.exitCode
