import FleetExporter.Http.Target
import FleetExporter.SampleStore
import FleetExporter.Traced

/-! The endpoint that is scraped: the samples of the store in text form, and a sign of life. Both
paths may be read only. -/
namespace FleetExporter.Scrape

open Traced (log)

structure Request where
  method : String
  path : String
  deriving DecidableEq, Repr

structure Response where
  status : Nat
  contentType : Option String := none
  allow : Option String := none
  body : String := ""
  deriving DecidableEq, Repr

/-- Why a request line is no request. -/
inductive Fault where
  | badMethod
  | badTarget (fault : Http.TargetFault)
  deriving DecidableEq, Repr

/-- Characters of a method. -/
def isMethodChar (c : Char) : Bool :=
  c.isAlphanum || "!#$%&'*+-.^_|~".toList.contains c || c = Http.Target.backquote

/-- The request that a method and a target make. -/
def Request.ofLine (method target : String) : Except Fault Request :=
  if method = "" || !method.toList.all isMethodChar then .error .badMethod
  else
    match Http.Target.read target with
    | .error f => .error (.badTarget f)
    | .ok target => .ok ⟨method, target.path⟩

def metricsPath : String := "/metrics"

def healthPath : String := "/healthz"

def plainText : String := "text/plain; charset=utf-8"

def failureText : String := "failed to encode metrics"

def notFound : Response where
  status := 404

def notAllowed : Response where
  status := 405
  allow := some "GET,HEAD"

/-- The samples of a store; a text that cannot be made is reported. -/
def metrics (s : SampleStore) : Traced Response :=
  match s.render with
  | .ok text => return ⟨200, some Exposition.contentType, none, text⟩
  | .error e => do
    log .error failureText [("error", e.message)]
    return ⟨500, some plainText, none, failureText⟩

def health : Response := ⟨200, some plainText, none, "ok"⟩

/-- What is at a path, if it is known. -/
def resource? (s : SampleStore) (path : String) : Option (Traced Response) :=
  if path = metricsPath then some (metrics s)
  else if path = healthPath then some (pure health)
  else none

/-- The answer to a request; one without a body gives the same head. -/
def respond (s : SampleStore) (r : Request) : Traced Response :=
  match resource? s r.path with
  | none => return notFound
  | some resource =>
    if r.method = "GET" then resource
    else if r.method = "HEAD" then do
      let full ← resource
      return { full with body := "" }
    else return notAllowed

end FleetExporter.Scrape
