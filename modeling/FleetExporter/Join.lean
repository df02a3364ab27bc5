import FleetExporter.Completeness
import FleetExporter.Record
import FleetExporter.View.ClusterDeployment

/-! The join of a registration record with the managed cluster of its name and the deployment that
made it. Whatever fails costs this cluster its sample and no other. -/
namespace FleetExporter

/-- The answers about companion objects, with what was logged and looked up to get them. -/
structure Companions where
  cluster : String → Traced (Except Error (Option ManagedCluster))
  deployment : String → String → Traced (Except Error (Option ClusterDeployment))

namespace Join

open Traced (log)

/-- Looks for the deployment of a cluster, in the namespace that bears its name. -/
def provisioning (c : Companions) (name : String) : Traced Provisioning := do
  match ← c.deployment name name with
  | .ok (some _) => return .found
  | .ok none =>
    log .info "ClusterDeployment not found, created via other means" []
    return .notFound
  | .error e =>
    log .warn "failed to fetch ClusterDeployment, assuming other means" [("error", e.message)]
    return .unavailable

/-- The facts of a record of registration and a capacity. -/
def facts (info : ManagedClusterInfo) (capacity : Capacity) : Facts :=
  ⟨info.resolvedId, info.report.vendor, info.report.cloud, info.resolvedVersion, capacity.cpu,
   capacity.cpuWorker, info.hasWorker⟩

def factFields (f : Facts) (capacity : Capacity) : List (String × String) :=
  [("cluster_id", f.clusterId), ("kube_vendor", f.vendor.text), ("cloud_vendor", f.cloud),
   ("version", f.version)] ++
    capacity.entries.map (fun e => (e.1, toString e.2)) ++
    [("has_worker", toString f.hasWorker)]

def record (hub : String) (info : ManagedClusterInfo) (createdVia : Provenance)
    (capacity : Capacity) : Record :=
  ⟨hub, info.resolvedId, info.report.vendor.text, info.report.cloud, info.resolvedVersion,
   createdVia, capacity⟩

/-- The record of a cluster whose managed cluster was found, if it is complete. -/
def assemble (hub : String) (info : ManagedClusterInfo) (createdVia : Provenance)
    (capacity : Capacity) : Traced (Option Record) := do
  let f := facts info capacity
  if f.isComplete then
    log .debug "managed cluster info record built" []
    return some (record hub info createdVia capacity)
  else
    log .info "not enough information available, skipping" (factFields f capacity)
    return none

/-- The record to publish for a cluster, if any. -/
def join (hub : String) (c : Companions) (info : ManagedClusterInfo) :
    Computation (Option Record) := do
  log .debug "joining managed cluster info" []
  match ← c.cluster info.name with
  | .ok (some cluster) =>
    let provisioned ← provisioning c info.name
    let capacity ← Capacity.derive cluster
    assemble hub info provisioned.provenance capacity
  | .ok none =>
    log .warn "ManagedCluster not found, skipping" []
    return none
  | .error e =>
    log .error "failed to fetch ManagedCluster, skipping" [("error", e.message)]
    return none

end Join

/-- Fills one family with the samples of a registration record. -/
structure Generator where
  descriptor : Descriptor
  samples : Companions → ManagedClusterInfo → Computation (List Sample)

namespace Generator

/-- Publishes the record of a cluster under the identifier of a hub. -/
def clusterInfo (hub : String) : Generator where
  descriptor := Record.descriptor
  samples c info := do
    let r ← Join.join hub c info
    return (r.map Record.sample).toList

def family (g : Generator) (c : Companions) (info : ManagedClusterInfo) :
    Computation Family := do
  let samples ← g.samples c info
  return ⟨g.descriptor, samples⟩

/-- The families of several generators, in order. -/
def families (c : Companions) (info : ManagedClusterInfo) :
    List Generator → Computation (List Family)
  | [] => return []
  | g :: rest => do
    let f ← g.family c info
    let fs ← families c info rest
    return f :: fs

end Generator

end FleetExporter
