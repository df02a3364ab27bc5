import FleetExporter.Api.Client
import FleetExporter.Backoff

/-! Who the hub is. A configured identifier wins; otherwise the hub's ClusterVersion object holds
it. A hub without that object, or without an identifier in it, has to be configured. -/
namespace FleetExporter.HubIdentity

open Traced (log)

/-- The only ClusterVersion of a hub. -/
def objectName : String := "version"

def operation : String := "get_cluster_version"

/-- The identifier that a ClusterVersion holds, unless it is empty. -/
def ofClusterVersion? (o : Untyped) : Option String :=
  (((o.fields.lookup "spec").bind (·.get? "clusterID")).bind (·.string?)).filter (· ≠ "")

/-- The answer to one request for the ClusterVersion. -/
def request (r : Api.Response) : Except Error Untyped :=
  (Api.decodeAnswer Untyped.read r).mapError .request

def notFoundMessage : String :=
  "ClusterVersion 'version' not found; pass --hub-cluster-id on non-OpenShift hubs"

def noIdMessage : String := "ClusterVersion 'version' has no spec.clusterID"

/-- The identifier in what the requests came to. -/
def ofResult : Except Error Untyped → Except Error String
  | .error e => .error (if e.isNotFound then .config notFoundMessage else e)
  | .ok o =>
    match ofClusterVersion? o with
    | none => .error (.config noIdMessage)
    | some id => .ok id

/-- Asks the server, whose answer to each attempt is given, until it says something final. -/
def ask (b : Backoff) (answers : Nat → Api.Response) : Traced (Attempts Error String) := do
  let asked ← b.retry operation Error.message (!·.isNotFound) fun n => request (answers n)
  match asked.ending with
  | .negativeDelay => return ⟨asked.calls, .negativeDelay⟩
  | .finished result =>
    match ofResult result with
    | .error e => return ⟨asked.calls, .finished (.error e)⟩
    | .ok id => do
      log .info "resolved hub cluster id from ClusterVersion" [("hub_cluster_id", id)]
      return ⟨asked.calls, .finished (.ok id)⟩

/-- The identifier of the hub, and how many requests it took. -/
def resolve (configured : Option String) (b : Backoff) (answers : Nat → Api.Response) :
    Traced (Attempts Error String) :=
  match configured.filter (· ≠ "") with
  | some id => do
    log .info "using configured hub cluster id" [("hub_cluster_id", id)]
    return ⟨0, .finished (.ok id)⟩
  | none => ask b answers

end FleetExporter.HubIdentity
