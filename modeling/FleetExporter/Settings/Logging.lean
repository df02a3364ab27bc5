import FleetExporter.Json.Printer
import FleetExporter.Settings.Arguments
import FleetExporter.Traced

/-! The log: setting it up, which a process does once, and its lines. -/
namespace FleetExporter.Logging

/-- Which entries are logged unless the environment says otherwise. -/
def defaultFilter : String :=
  "info,clusterlifecycle_state_metrics=debug,kube=info,tower=warn,hyper=warn"

inductive Fault where
  | alreadySetUp
  deriving DecidableEq, Repr

def Fault.message : Fault → String
  | alreadySetUp =>
    "failed to initialize tracing subscriber: " ++
      "a global default trace dispatcher has already been set"

/-- The format the log has from now on. -/
def setUp (current : Option LogFormat) (format : LogFormat) : Except Fault LogFormat :=
  match current with
  | some _ => .error .alreadySetUp
  | none => .ok format

/-- An entry as one line: an object, or words and fields. -/
def line (format : LogFormat) (e : LogEntry) : String :=
  match format with
  | .json =>
    (Json.ofEntries [("level", .string e.level.name), ("message", .string e.message),
      ("fields", .ofEntries (e.fields.map fun f => (f.1, .string f.2)))]).text
  | .text => " ".intercalate (e.level.name :: e.message :: e.fields.map fun f => f.1 ++ "=" ++ f.2)

end FleetExporter.Logging
