import FleetExporter.Settings.Logging
import FleetExporter.Snapshot

/-! The program: it reads a snapshot of a hub from standard input and writes the samples to standard
output and the log to standard error. -/
namespace FleetExporter.Main

def usage : String :=
  "Usage: fleet-exporter [--host ADDRESS] [--port PORT] [--namespaces NAMES] " ++
    "[--hub-cluster-id ID] [--kubeconfig PATH] [--log-format json|text]"

def versionText : String := "fleet-exporter 0.1.0"

/-- The words for a refusal, where it is no request to be told something. -/
def refusalText : Refusal → String
  | .unknownArgument => "unexpected argument"
  | .invalidValue => "invalid or missing value"
  | .valueValidation => "value out of range"
  | .argumentConflict => "argument given more than once"
  | .tooManyValues => "argument takes no value"
  | .displayHelp => usage
  | .displayVersion => versionText

/-- Whether a refusal is a request to be told something. -/
def isQuestion (r : Refusal) : Bool := r = .displayHelp || r = .displayVersion

/-- The environment variables that stand in for flags. -/
def environment : IO (List (String × String)) := do
  let values ← Setting.all.mapM fun s => return (s.variableName, ← IO.getEnv s.variableName)
  return values.filterMap fun (name, value) => value.map (name, ·)

/-- The lines up to the end of the input. -/
partial def readLines (input : IO.FS.Stream) (before : Array String) : IO (List String) := do
  let line ← input.getLine
  if line.isEmpty then return before.toList
  else readLines input (before.push line)

def fail (message : String) (code : UInt32) : IO UInt32 := do
  IO.eprintln message
  return code

/-- Publishes the snapshot on standard input. -/
def publish (settings : Settings) : IO UInt32 := do
  let lines ← readLines (← IO.getStdin) #[]
  match Snapshot.ofLines lines with
  | .error e => fail e.message 1
  | .ok snapshot =>
    let published := snapshot.publish settings
    if published.overflowed then return ← fail Computation.overflowText 101
    for entry in published.logs do
      if entry.level ≠ .trace then IO.eprintln (Logging.line settings.logFormat entry)
    match published.value with
    | .error e => fail e.message 1
    | .ok text =>
      IO.print text
      return 0

end FleetExporter.Main

open FleetExporter in
def main (arguments : List String) : IO UInt32 := do
  let environment ← Main.environment
  match Arguments.read (fun name => List.lookup name environment) arguments with
  | .error r =>
    if Main.isQuestion r then
      IO.println (Main.refusalText r)
      return 0
    else Main.fail (Main.refusalText r) 2
  | .ok arguments =>
    match Settings.ofArguments arguments with
    | .error e => Main.fail e.message 1
    | .ok settings => Main.publish settings
