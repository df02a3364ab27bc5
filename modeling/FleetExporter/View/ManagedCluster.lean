import FleetExporter.View.Kind

/-! The cluster-scoped registration object of a managed cluster. Its status holds the capacity, a
quantity text by kind of resource. -/
namespace FleetExporter

structure ClusterSpec where
  hubAcceptsClient : Bool := false
  deriving DecidableEq, Repr

structure ClusterStatus where
  capacity : List (String × String) := []
  deriving DecidableEq, Repr

structure ManagedCluster where
  metadata : Metadata
  spec : ClusterSpec
  status : Option ClusterStatus

namespace ClusterSpec

def fields : List (Field ClusterSpec) :=
  [.make "hubAcceptsClient" .flag fun v s => { s with hubAcceptsClient := v }]

def read : Reader ClusterSpec := .record "ManagedClusterSpec" fields {}

def json (s : ClusterSpec) : Json := .ofEntries [("hubAcceptsClient", .bool s.hubAcceptsClient)]

end ClusterSpec

namespace ClusterStatus

def fields : List (Field ClusterStatus) :=
  [.make "capacity" (.map .text) fun v s => { s with capacity := v }]

def read : Reader ClusterStatus := .record "ManagedClusterStatus" fields {}

def json (s : ClusterStatus) : Json := .ofEntries [("capacity", .ofStringMap s.capacity)]

end ClusterStatus

namespace ManagedCluster

def kind : Kind := .managedCluster

def fields : List (Field (Parts ClusterSpec ClusterStatus)) :=
  [Parts.specField ClusterSpec.read, Parts.statusField ClusterStatus.read]

def decode (o : Untyped) : Except Error ManagedCluster :=
  match Parts.read fields o with
  | .error m => .error (kind.mismatch o m)
  | .ok (spec, status) => .ok ⟨o.metadata, spec, status⟩

def json (c : ManagedCluster) : Json :=
  .ofEntries <|
    [("apiVersion", .string kind.apiVersion), ("kind", .string kind.name),
     ("metadata", c.metadata.json), ("spec", c.spec.json)] ++
    optionalEntry "status" ClusterStatus.json c.status

/-- The quantity reported for a kind of resource. -/
def quantity? (c : ManagedCluster) (resource : String) : Option String :=
  c.status.bind fun s => s.capacity.lookup resource

end ManagedCluster

end FleetExporter
