import FleetExporter.Directory
import FleetExporter.HubIdentity
import FleetExporter.Settings.Basic
import FleetExporter.Watch.Run

/-! A hub in a text: one object to a line, told apart by kind. Publishing it means one complete list
of the registration records, with the other objects as their companions. -/
namespace FleetExporter

structure Snapshot where
  directory : Directory := {}
  infos : List Untyped := []
  version : Option Untyped := none

namespace Snapshot

/-- Takes an object of a kind; kinds that do not matter are passed over. -/
def add (s : Snapshot) (kind : String) (o : Untyped) : Snapshot :=
  let name := o.metadata.nameAny
  if kind = Kind.managedClusterInfo.name then { s with infos := s.infos ++ [o] }
  else if kind = Kind.managedCluster.name then
    { s with directory := s.directory.setCluster name (some (.object o)) }
  else if kind = Kind.clusterDeployment.name then
    let ns := o.metadata.namespaceName.getD ""
    { s with directory := s.directory.setDeployment ns name (some (.object o)) }
  else if kind = Kind.clusterVersion.name then { s with version := some o }
  else s

def addLine (s : Snapshot) (line : String) : Except Error Snapshot :=
  match Json.parse line with
  | .error _ => .error (.config "a line of the snapshot is not JSON")
  | .ok j =>
    let kind := ((j.get? "kind").bind (·.string?)).getD ""
    match Untyped.read j with
    | .error m => .error (.decode kind "" m.message)
    | .ok o => .ok (s.add kind o)

def ofLines (lines : List String) : Except Error Snapshot := lines.foldlM addLine {}

/-- The identifier of the hub: the configured one, else that of its ClusterVersion. -/
def hubId (s : Snapshot) (settings : Settings) : Except Error String :=
  match settings.hubClusterId, s.version with
  | some id, _ => .ok id
  | none, some o => HubIdentity.ofResult (.ok o)
  | none, none => .error (.config HubIdentity.notFoundMessage)

/-- The list of one watch: it covers one namespace, or all of them. -/
def deliveries (s : Snapshot) (ns : Option String) : List Watch.Delivery :=
  let covered := s.infos.filter fun o => ns.all fun n => o.metadata.namespaceName = some n
  .ok .started :: covered.map (fun o => .ok (.listed o)) ++ [.ok .completed]

/-- A list for each watch. -/
def transcripts (s : Snapshot) (namespaces : List String) : List Watch.Transcript :=
  (Watch.Fleet.targets namespaces).map fun ns => ⟨[], (s.deliveries ns).map (⟨0, ·⟩)⟩

/-- The samples of a snapshot in text form. -/
def publish (s : Snapshot) (settings : Settings) :
    Computation (Except Error String) :=
  match s.hubId settings with
  | .error e => return .error e
  | .ok hub => do
    let fleet ← Watch.Fleet.run [.clusterInfo hub] s.directory.companions settings.namespaces
      (s.transcripts settings.namespaces) [Record.descriptor]
    return fleet.store.render

end Snapshot

end FleetExporter
