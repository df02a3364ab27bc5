import FleetExporter.Api.Response
import FleetExporter.Http.Target
import FleetExporter.Join

/-! Asking the API server for single objects. That an object does not exist is an answer and no
error; it is told by the reason of the refusal. -/
namespace FleetExporter.Api

open Traced (log)

/-- The path of the objects of a kind, in a namespace or for the whole cluster. -/
def collectionPath (k : Kind) : Option String → String
  | none => "/apis/" ++ k.apiVersion ++ "/" ++ k.plural
  | some ns => "/apis/" ++ k.apiVersion ++ "/namespaces/" ++ ns ++ "/" ++ k.plural

/-- The target of a request for one object, if there can be such a request. The name is not encoded,
so a part of it may be taken for a query. -/
def objectTarget (k : Kind) (ns : Option String) (name : String) :
    Except RequestError Http.Target :=
  if name = "" then
    .error (.invalidRequest "failed to validate request: A non-empty name is required")
  else
    match Http.Target.read (collectionPath k ns ++ "/" ++ name) with
    | .ok target => .ok target
    | .error f => .error (.invalidRequest ("failed to build request: " ++ f.message))

/-- The target asked for by a lookup. -/
def lookupTarget? : Lookup → Option Http.Target
  | .cluster name => (objectTarget .managedCluster none name).toOption
  | .deployment ns name => (objectTarget .clusterDeployment (some ns) name).toOption

/-- The untyped object that a server gives for a target. -/
def getObject (server : Http.Target → Response) (k : Kind) (ns : Option String) (name : String) :
    Except RequestError Untyped :=
  match objectTarget k ns name with
  | .error e => .error e
  | .ok target => decodeAnswer Untyped.read (server target)

/-- The typed view of an object, or none when the server says that there is no such object. -/
def fetch {α : Type} (server : Http.Target → Response) (k : Kind) (ns : Option String)
    (name : String) (decode : Untyped → Except Error α) : Traced (Except Error (Option α)) :=
  match getObject server k ns name with
  | .ok o => return (decode o).map some
  | .error (.refused status) =>
    if status.reason = "NotFound" then do
      log .trace "object not found" [("kind", k.name), ("name", name)]
      return .ok none
    else return .error (.request (.refused status))
  | .error e => return .error (.request e)

/-- Companions as the API server answers about them. -/
def companions (server : Http.Target → Response) : Companions where
  cluster name := do
    Traced.lookup (.cluster name)
    fetch server .managedCluster none name ManagedCluster.decode
  deployment ns name := do
    Traced.lookup (.deployment ns name)
    fetch server .clusterDeployment (some ns) name ClusterDeployment.decode

end FleetExporter.Api
