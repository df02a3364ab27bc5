import FleetExporter.View.Kind
import FleetExporter.View.Vendor

/-! The registration record of a managed cluster: identifier, vendor, cloud, versions and nodes as
the cluster reports them. Every field has a default, so a report may be incomplete. -/
namespace FleetExporter

structure OcpDistribution where
  version : String := ""
  deriving DecidableEq, Repr

structure Distribution where
  kind : String := ""
  ocp : OcpDistribution := {}
  deriving DecidableEq, Repr

structure Node where
  name : String := ""
  labels : List (String × String) := []
  deriving DecidableEq, Repr

structure InfoSpec where
  masterEndpoint : Option String := none
  deriving DecidableEq, Repr

structure InfoStatus where
  clusterId : String := ""
  vendor : Vendor := .unknown
  cloud : String := ""
  version : String := ""
  distribution : Distribution := {}
  nodes : List Node := []
  deriving DecidableEq, Repr

structure ManagedClusterInfo where
  metadata : Metadata
  spec : InfoSpec
  status : Option InfoStatus

namespace OcpDistribution

def fields : List (Field OcpDistribution) :=
  [.make "version" .text fun v d => { d with version := v }]

def read : Reader OcpDistribution := .record "OcpDistributionInfo" fields {}

def json (d : OcpDistribution) : Json := .ofEntries [("version", .string d.version)]

end OcpDistribution

namespace Distribution

def fields : List (Field Distribution) :=
  [.make "type" .text fun v d => { d with kind := v },
   .make "ocp" OcpDistribution.read fun v d => { d with ocp := v }]

def read : Reader Distribution := .record "DistributionInfo" fields {}

def json (d : Distribution) : Json :=
  .ofEntries <|
    (if d.kind = "" then [] else [("type", .string d.kind)]) ++ [("ocp", d.ocp.json)]

end Distribution

namespace Node

def fields : List (Field Node) :=
  [.make "name" .text fun v n => { n with name := v },
   .make "labels" (.map .text) fun v n => { n with labels := v }]

def read : Reader Node := .record "NodeStatus" fields {}

def json (n : Node) : Json :=
  .ofEntries <|
    [("name", .string n.name)] ++
    (if n.labels = [] then [] else [("labels", .ofStringMap n.labels)])

/-- Whether a label is set, to whatever value. -/
def hasLabel (n : Node) (key : String) : Bool := n.labels.any (·.1 = key)

end Node

namespace InfoSpec

def fields : List (Field InfoSpec) :=
  [.make "masterEndpoint" (.nullable .text) fun v s => { s with masterEndpoint := v }]

def read : Reader InfoSpec := .record "ManagedClusterInfoSpec" fields {}

def json (s : InfoSpec) : Json :=
  .ofEntries (optionalEntry "masterEndpoint" .string s.masterEndpoint)

end InfoSpec

namespace InfoStatus

def fields : List (Field InfoStatus) :=
  [.make "clusterID" .text fun v s => { s with clusterId := v },
   .make "kubeVendor" Vendor.read fun v s => { s with vendor := v },
   .make "cloudVendor" .text fun v s => { s with cloud := v },
   .make "version" .text fun v s => { s with version := v },
   .make "distributionInfo" Distribution.read fun v s => { s with distribution := v },
   .make "nodeList" (.list Node.read) fun v s => { s with nodes := v }]

def read : Reader InfoStatus := .record "ManagedClusterInfoStatus" fields {}

def json (s : InfoStatus) : Json :=
  .ofEntries
    [("clusterID", .string s.clusterId), ("kubeVendor", .string s.vendor.text),
     ("cloudVendor", .string s.cloud), ("version", .string s.version),
     ("distributionInfo", s.distribution.json), ("nodeList", .array (s.nodes.map (·.json)))]

end InfoStatus

namespace ManagedClusterInfo

def kind : Kind := .managedClusterInfo

def fields : List (Field (Parts InfoSpec InfoStatus)) :=
  [Parts.specField InfoSpec.read, Parts.statusField InfoStatus.read]

def decode (o : Untyped) : Except Error ManagedClusterInfo :=
  match Parts.read fields o with
  | .error m => .error (kind.mismatch o m)
  | .ok (spec, status) => .ok ⟨o.metadata, spec, status⟩

def json (i : ManagedClusterInfo) : Json :=
  .ofEntries <|
    [("apiVersion", .string kind.apiVersion), ("kind", .string kind.name),
     ("metadata", i.metadata.json), ("spec", i.spec.json)] ++
    optionalEntry "status" InfoStatus.json i.status

/-- The status, or an empty one when none was reported. -/
def report (i : ManagedClusterInfo) : InfoStatus := i.status.getD {}

def name (i : ManagedClusterInfo) : String := i.metadata.nameAny

def key (i : ManagedClusterInfo) : String := i.metadata.key

end ManagedClusterInfo

end FleetExporter
