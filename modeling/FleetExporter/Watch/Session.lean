import FleetExporter.Watch.Notice
import FleetExporter.Watch.Page
import FleetExporter.Watch.Handler

/-! One watch of registration records. It lists page by page, then follows the changes after the
version of the list, and starts over when the server no longer knows that version. A session is
what a watch does to a script of answers: the requests it makes and what it delivers, each with
its time. After each failure it pauses, and when the script ends it waits for ever. -/
namespace FleetExporter.Watch

/-- What a watch waits for: a page of a list, or changes after a version. -/
inductive Request where
  | list (page : Option String)
  | watch (version : String)
  deriving DecidableEq, Repr

inductive Failure where
  | noVersion
  | listFailed (cause : RequestError)
  | watchNotStarted (cause : RequestError)
  | reported (status : ApiStatus)
  | interrupted (cause : RequestError)
  deriving DecidableEq, Repr

def Failure.message : Failure → String
  | noVersion => "no metadata.resourceVersion in watch result (does resource support watch?)"
  | listFailed cause => "failed to perform initial object list: " ++ cause.message
  | watchNotStarted cause => "failed to start watching object: " ++ cause.message
  | reported status =>
    "error returned by apiserver during watch: " ++ status.message ++ ": " ++ status.reason
  | interrupted cause => "watch stream failed: " ++ cause.message

/-- An event for the handler, or a failure. -/
abbrev Delivery := Except Failure Event

/-- The seconds a watch pauses after a failure. -/
def pause : Nat := 5

/-- A code that says that the version asked for is gone. -/
def gone : Nat := 410

/-- A list begins anew. -/
def restart : List Delivery × Request := ([.ok .started], .list none)

/-- A failure after which a list begins anew. -/
def startOver (f : Failure) : List Delivery × Request := (.error f :: restart.1, restart.2)

/-- What is delivered before the rest. -/
def delivering (d : Delivery) (rest : List Delivery × Request) : List Delivery × Request :=
  (d :: rest.1, rest.2)

/-- A page delivers its items; the last page completes the list. -/
def onPage (p : Page) : List Delivery × Request :=
  let items := p.items.map fun o => Except.ok (.listed o)
  match p.nextPage, p.version with
  | some token, _ => (items, .list (some token))
  | none, some version => (items ++ [.ok .completed], .watch version)
  | none, none => startOver .noVersion

/-- The version an object states, unless it is empty. -/
def versionOf? (o : Untyped) : Option String := Page.nonEmpty o.metadata.resourceVersion

/-- What a line of a watch means for it: nothing, a new version without or with an event, a failure
after which it goes on, or one after which a list begins anew. -/
inductive Meaning where
  | nothing
  | mark (version : String)
  | event (version : String) (e : Event)
  | hiccup (f : Failure)
  | lost (f : Failure)

/-- An event about an object counts only if the object states a version. -/
def about (o : Untyped) (e : Event) : Meaning :=
  match versionOf? o with
  | none => .lost .noVersion
  | some version => .event version e

def meaning (line : String) : Meaning :=
  match Notice.ofLine? line with
  | none => .nothing
  | some (.error cause) => .hiccup (.interrupted cause)
  | some (.ok (.changed o)) => about o (.changed o)
  | some (.ok (.removed o)) => about o (.removed o)
  | some (.ok (.bookmark version)) => .mark version
  | some (.ok (.refused status)) =>
    if status.code = gone then .lost (.reported status) else .hiccup (.reported status)

/-- The lines of a watch that runs at a version. -/
def onLines (version : String) : List String → List Delivery × Request
  | [] => ([], .watch version)
  | line :: rest =>
    match meaning line with
    | .nothing => onLines version rest
    | .mark marked => onLines marked rest
    | .event reached e => delivering (.ok e) (onLines reached rest)
    | .hiccup f => delivering (.error f) (onLines version rest)
    | .lost f => startOver f

/-- What an answer to a request makes a watch deliver and ask for next. Changes are read from an
answer whatever its code. -/
def answer : Request → Api.Response → List Delivery × Request
  | .list _, r =>
    match Api.decodeAnswer Page.read r with
    | .ok p => onPage p
    | .error cause => startOver (.listFailed cause)
  | .watch version, .failed reason =>
    ([.error (.watchNotStarted (.unreachable reason))], .watch version)
  | .watch version, .answered _ body => onLines version (lines body)

/-- Something with the second it happens. -/
structure Timed (α : Type) where
  second : Nat
  what : α

/-- Deliveries from a second on, and the second they are done. -/
def schedule (now : Nat) : List Delivery → List (Timed Delivery) × Nat
  | [] => ([], now)
  | d :: rest =>
    let after := match d with
      | .ok _ => now
      | .error _ => now + pause
    let (timed, done) := schedule after rest
    (⟨now, d⟩ :: timed, done)

structure Transcript where
  requests : List (Timed Request) := []
  deliveries : List (Timed Delivery) := []

namespace Session

/-- The transcript from a request on. -/
def following (r : Request) (now : Nat) : List Api.Response → Transcript
  | [] => ⟨[⟨now, r⟩], []⟩
  | response :: script =>
    let (deliveries, next) := answer r response
    let (timed, done) := schedule now deliveries
    let rest := following next done script
    ⟨⟨now, r⟩ :: rest.requests, timed ++ rest.deliveries⟩

/-- The transcript of a watch that starts now. -/
def run (script : List Api.Response) : Transcript :=
  let (deliveries, request) := restart
  let rest := following request 0 script
  ⟨rest.requests, deliveries.map (⟨0, ·⟩) ++ rest.deliveries⟩

end Session

end FleetExporter.Watch
