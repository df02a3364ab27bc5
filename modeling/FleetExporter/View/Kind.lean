import FleetExporter.Object.Untyped
import FleetExporter.Error

/-! Kinds of objects the hub serves: how they are named in paths and messages, and the decoding
that all typed views share. -/
namespace FleetExporter

structure Kind where
  group : String
  version : String
  name : String
  plural : String
  deriving DecidableEq, Repr

namespace Kind

def apiVersion (k : Kind) : String := k.group ++ "/" ++ k.version

def managedClusterInfo : Kind :=
  ⟨"internal.open-cluster-management.io", "v1beta1", "ManagedClusterInfo", "managedclusterinfos"⟩

def managedCluster : Kind :=
  ⟨"cluster.open-cluster-management.io", "v1", "ManagedCluster", "managedclusters"⟩

def clusterDeployment : Kind :=
  ⟨"hive.openshift.io", "v1", "ClusterDeployment", "clusterdeployments"⟩

def clusterVersion : Kind :=
  ⟨"config.openshift.io", "v1", "ClusterVersion", "clusterversions"⟩

/-- A failure to decode an object of this kind; it is named by its own name only. -/
def mismatch (k : Kind) (o : Untyped) (m : Mismatch) : Error :=
  .decode k.name (o.metadata.name.getD "") m.message

end Kind

/-- The parts of a typed view under construction: the specification is required. -/
structure Parts (Spec Status : Type) where
  spec : Option Spec := none
  status : Option Status := none

namespace Parts

variable {Spec Status : Type}

def specField (r : Reader Spec) : Field (Parts Spec Status) :=
  .make "spec" r fun v p => { p with spec := some v }

def statusField (r : Reader Status) : Field (Parts Spec Status) :=
  .make "status" (.nullable r) fun v p => { p with status := v }

/-- Visits the fields of an object in order; that the specification is missing is told last. -/
def read (fields : List (Field (Parts Spec Status))) (o : Untyped) :
    Except Mismatch (Spec × Option Status) :=
  match Field.visit fields o.fields {} with
  | .error m => .error m
  | .ok p =>
    match p.spec with
    | none => .error (.missingField "spec")
    | some spec => .ok (spec, p.status)

end Parts

end FleetExporter
