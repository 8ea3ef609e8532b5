import RackOperator.Config
import RackOperator.LogFilter
import RackOperator.Pem
import RackOperator.Text.Quoted

/-!
# Starting the programs

What the operator and the webhook do until they need a cluster or a network: they
set up their log, read their settings and say so, and the webhook reads its
certificate and key. A `Startup` is what that comes to: the lines logged, and how
it ends.
-/

namespace RackOperator

open Text

/-- How a start ends. -/
inductive StartupEnd where
  /-- With an error, in words. -/
  | failed (words : String)
  /-- With a crash, in words. -/
  | crashed (words : String)
deriving DecidableEq, Repr

/-- The exit code. -/
def StartupEnd.code : StartupEnd → Nat
  | failed _ => 1
  | crashed _ => 101

/-- What a start comes to. -/
structure Startup where
  /-- Pieces of the log filter that could not be read. -/
  ignored : List String
  log : List String
  ending : StartupEnd
deriving DecidableEq, Repr

/-- An event of a start. -/
structure StartupEvent where
  message : String
  fields : List (String × String) := []

namespace StartupEvent

/-- The line an event is logged in. -/
def line (target : String) (e : StartupEvent) : String :=
  String.intercalate " "
    (("INFO " ++ target ++ ": " ++ e.message) :: e.fields.map fun p => p.1 ++ "=" ++ p.2)

/-- The line of an event, if it passes the filter. -/
def logged (f : LogFilter) (target : String) (e : StartupEvent) : Option String :=
  if f.passes .info target ("message" :: e.fields.map (·.1)) then some (e.line target) else none

end StartupEvent

/-- The lines of some events. -/
def StartupEvent.lines (f : LogFilter) (target : String) (es : List StartupEvent) : List String :=
  es.filterMap (StartupEvent.logged f target)

/-- A text that may be missing, in words. -/
def optionInWords : Option String → String
  | none => "None"
  | some s => "Some(" ++ quoted s ++ ")"

namespace Startup

/-- A level of information for a target. -/
def informing (target : String) : LogDirective := { target := some target, level := .info }

/-- The log filter of a program: the directives of a variable and its own. -/
def filterOf (lookup : String → Option String) (own : List String) : LogFilter × List String :=
  let (given, ignored) := LogFilter.ofText ((lookup "RUST_LOG").getD "")
  let given := if given.isEmpty then [{ level := .error }] else given
  (given ++ own.map informing, ignored)

/-- What a piece that is no directive is called. -/
def complaint (piece : String) : String :=
  "ignoring \x60" ++ piece ++ "\x60: invalid filter directive"

/-- Everything said on the error stream. -/
def complaints (s : Startup) : List String :=
  s.ignored.map complaint ++ match s.ending with
    | .failed words => ["Error: " ++ words]
    | .crashed words => [words]

/-- Whether the arguments ask for the resource definitions. -/
def asksForDefinitions (args : List String) : Bool := args.contains "--generate-crds"

/-- The operator's start, up to the cluster that is not there. -/
def operator (lookup : String → Option String) : Startup :=
  let (filter, ignored) := filterOf lookup ["cassandra_operator", "kube"]
  let first : StartupEvent := { message := "Starting Cassandra Kubernetes Operator" }
  let log (es : List StartupEvent) := StartupEvent.lines filter "operator" es
  match Config.ofLookup? lookup with
  | none =>
    { ignored, log := log [first], ending := .crashed "attempt to multiply with overflow" }
  | some config =>
    let second : StartupEvent :=
      { message := "Operator configuration loaded"
        fields := [("namespace", optionInWords config.watched),
          ("poll_secs", Decimal.natText config.pollInterval),
          ("workers", Decimal.natText config.workerPoolSize)] }
    { ignored, log := log [first, second], ending := .failed "failed to infer configuration" }

/-- The port the webhook listens on. -/
def webhookPort (lookup : String → Option String) : Nat :=
  ((lookup "WEBHOOK_PORT").bind fun s => Decimal.bounded? 65535 s.toList).getD 8443

/-- Where the webhook's certificate is. -/
def certificatePath (lookup : String → Option String) : String :=
  (lookup "TLS_CERT_FILE").getD "/certs/tls.crt"

/-- Where the webhook's key is. -/
def keyPath (lookup : String → Option String) : String :=
  (lookup "TLS_KEY_FILE").getD "/certs/tls.key"

/-- How a start with a certificate and a key ends. -/
def loadKeys (read : String → Option (List UInt8)) (cert key : String) : StartupEnd :=
  match read cert, read key with
  | some certFile, some keyFile =>
    match Pem.fault? certFile with
    | some fault => .failed fault.message
    | none =>
      match Pem.firstKey keyFile with
      | .error fault => .failed fault.message
      | .ok none => .failed ("No private key found in " ++ key)
      | .ok (some _) => .crashed "no crypto provider is installed"
  | _, _ => .failed "No such file or directory (os error 2)"

/-- The webhook's start, up to its socket. -/
def webhook (lookup : String → Option String) (read : String → Option (List UInt8)) : Startup :=
  let (filter, ignored) := filterOf lookup ["cassandra_operator", "webhook"]
  let cert := certificatePath lookup
  let key := keyPath lookup
  let first : StartupEvent := { message := "Cassandra Operator Webhook Server starting" }
  let second : StartupEvent :=
    { message := "Webhook configuration loaded"
      fields := [("port", Decimal.natText (webhookPort lookup)), ("tls_cert", cert),
        ("tls_key", key)] }
  { ignored
    log := StartupEvent.lines filter "webhook" [first, second]
    ending := loadKeys read cert key }

end Startup

end RackOperator
