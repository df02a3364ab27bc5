import FleetExporter.View.Kind

/-! The object that a provisioner keeps for each cluster it made. It has no status here. -/
namespace FleetExporter

structure DeploymentSpec where
  clusterName : Option String := none
  baseDomain : Option String := none
  deriving DecidableEq, Repr

structure ClusterDeployment where
  metadata : Metadata
  spec : DeploymentSpec

namespace DeploymentSpec

def fields : List (Field DeploymentSpec) :=
  [.make "clusterName" (.nullable .text) fun v s => { s with clusterName := v },
   .make "baseDomain" (.nullable .text) fun v s => { s with baseDomain := v }]

def read : Reader DeploymentSpec := .record "ClusterDeploymentSpec" fields {}

def json (s : DeploymentSpec) : Json :=
  .ofEntries <|
    optionalEntry "clusterName" .string s.clusterName ++
    optionalEntry "baseDomain" .string s.baseDomain

end DeploymentSpec

namespace ClusterDeployment

def kind : Kind := .clusterDeployment

def fields : List (Field (Parts DeploymentSpec Unit)) := [Parts.specField DeploymentSpec.read]

def decode (o : Untyped) : Except Error ClusterDeployment :=
  match Parts.read fields o with
  | .error m => .error (kind.mismatch o m)
  | .ok (spec, _) => .ok ⟨o.metadata, spec⟩

def json (d : ClusterDeployment) : Json :=
  .ofEntries
    [("apiVersion", .string kind.apiVersion), ("kind", .string kind.name),
     ("metadata", d.metadata.json), ("spec", d.spec.json)]

end ClusterDeployment

end FleetExporter
