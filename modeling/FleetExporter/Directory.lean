import FleetExporter.Join

/-! Companion objects held in memory: for each name an object that is decoded when it is asked for,
or the error that asking for it gives. -/
namespace FleetExporter

/-- What is known about one companion. -/
inductive Entry where
  | object (o : Untyped)
  | failing (e : Error)

structure Directory where
  clusters : List (String × Entry) := []
  deployments : List ((String × String) × Entry) := []

namespace Directory

/-- The newest entry of a name counts, also one that says that there is nothing. -/
def setCluster (d : Directory) (name : String) (e : Option Entry) : Directory :=
  let others := d.clusters.filter (·.1 ≠ name)
  { d with clusters := e.toList.map (name, ·) ++ others }

def setDeployment (d : Directory) (ns name : String) (e : Option Entry) : Directory :=
  let others := d.deployments.filter (·.1 ≠ (ns, name))
  { d with deployments := e.toList.map ((ns, name), ·) ++ others }

def decode {α : Type} (f : Untyped → Except Error α) :
    Option Entry → Except Error (Option α)
  | none => .ok none
  | some (.failing e) => .error e
  | some (.object o) => (f o).map some

def companions (d : Directory) : Companions where
  cluster name := do
    Traced.lookup (.cluster name)
    return decode ManagedCluster.decode (d.clusters.lookup name)
  deployment ns name := do
    Traced.lookup (.deployment ns name)
    return decode ClusterDeployment.decode (d.deployments.lookup (ns, name))

end Directory

end FleetExporter
