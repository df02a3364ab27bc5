import FleetExporter.View.ManagedClusterInfo

/-! When enough is known about a cluster to publish it, and how its identifier and version are
chosen among the facts reported. -/
namespace FleetExporter

namespace ManagedClusterInfo

/-- The label that marks a node as a worker. -/
def workerLabel : String := "node-role.kubernetes.io/worker"

/-- The reported identifier; a cluster of another vendor without one goes by its name. -/
def resolvedId (i : ManagedClusterInfo) : String :=
  if i.report.clusterId = "" ∧ !i.report.vendor.isOpenShift then i.name else i.report.clusterId

/-- Which version counts depends on the vendor; without a vendor none does. -/
def resolvedVersion (i : ManagedClusterInfo) : String :=
  match i.report.vendor with
  | .unknown => ""
  | .openShift => i.report.distribution.ocp.version
  | .other _ => i.report.version

def hasWorker (i : ManagedClusterInfo) : Bool := i.report.nodes.any (·.hasLabel workerLabel)

end ManagedClusterInfo

/-- The facts a cluster is judged by. -/
structure Facts where
  clusterId : String
  vendor : Vendor
  cloud : String
  version : String
  cpu : Int
  cpuWorker : Int
  hasWorker : Bool
  deriving DecidableEq, Repr

/-- A label that cannot be filled, or a count that cannot be true yet, holds a cluster back. No
worker capacity is true of a cluster without worker nodes. -/
def Facts.isComplete (f : Facts) : Bool :=
  !(f.clusterId = "" || f.vendor.isUnknown || f.cloud = "" || f.version = "" || f.cpu = 0 ||
    (f.cpuWorker = 0 && f.hasWorker))

theorem Facts.isComplete_iff (f : Facts) : f.isComplete = true ↔
    f.clusterId ≠ "" ∧ f.vendor ≠ .unknown ∧ f.cloud ≠ "" ∧ f.version ≠ "" ∧ f.cpu ≠ 0 ∧
      (f.cpuWorker ≠ 0 ∨ f.hasWorker = false) := by
  simp [Facts.isComplete, Vendor.isUnknown, and_assoc]

end FleetExporter
