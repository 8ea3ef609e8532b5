import RackOperator.Json.Writer
import RackOperator.Resource.Definition
import RackOperator.Startup

/-!
# The command line

Without arguments the operator starts; with `--generate-crds` it prints the
definitions of its resources and ends; with `webhook` the webhook starts.
-/

open RackOperator

/-- A file's bytes, if it can be read. -/
def readFile (path : String) : IO (Option (List UInt8)) := do
  try
    let bytes ← IO.FS.readBinFile path
    return some bytes.toList
  catch _ => return none

/-- The variables a program reads. -/
def settingNames : List String :=
  ["RUST_LOG", "OPERATOR_NAMESPACE", "OPERATOR_NODE_STATUS_POLL_SECS",
    "OPERATOR_SIDECAR_TIMEOUT_SECS", "OPERATOR_DECOMMISSION_MAX_ATTEMPTS",
    "OPERATOR_DECOMMISSION_RETRY_DELAY_SECS", "OPERATOR_CLEANUP_PACING_SECS",
    "OPERATOR_WORKER_POOL_SIZE", "OPERATOR_TASK_RETENTION_HOURS", "OPERATOR_REQUEUE_SECS",
    "WEBHOOK_PORT", "TLS_CERT_FILE", "TLS_KEY_FILE"]

/-- Look the variables up. -/
def environment : IO (String → Option String) := do
  let pairs ← settingNames.filterMapM fun name => do
    return (← IO.getEnv name).map fun value => (name, value)
  return fun name => pairs.lookup name

/-- Say what a start comes to. -/
def conclude (s : Startup) : IO UInt32 := do
  for line in s.log do
    IO.println line
  for line in s.complaints do
    IO.eprintln line
  return s.ending.code.toUInt32

def main (args : List String) : IO UInt32 := do
  let lookup ← environment
  if args.head? = some "webhook" then
    let cert := Startup.certificatePath lookup
    let key := Startup.keyPath lookup
    let certFile ← readFile cert
    let keyFile ← readFile key
    conclude (Startup.webhook lookup fun path => if path = cert then certFile else keyFile)
  else if Startup.asksForDefinitions args then
    for d in ResourceDefinition.all do
      IO.println ("---\n" ++ d.write.compact)
    return 0
  else conclude (Startup.operator lookup)
