import FleetExporter.Capacity
import FleetExporter.Exposition.Family

/-! What is published about a managed cluster: one sample of value 1 whose twelve labels say who
the cluster is, where it runs, how it came to be and how large it is. -/
namespace FleetExporter

/-- How a managed cluster came to exist. -/
inductive Provenance where
  | hive
  | other
  deriving DecidableEq, Repr

def Provenance.text : Provenance → String
  | hive => "Hive"
  | other => "Other"

/-- What the search for a deployment showed. -/
inductive Provisioning where
  | found
  | notFound
  | unavailable
  deriving DecidableEq, Repr

/-- A search that failed says as little as one that found nothing. -/
def Provisioning.provenance : Provisioning → Provenance
  | found => .hive
  | notFound => .other
  | unavailable => .other

structure Record where
  hubClusterId : String
  managedClusterId : String
  vendor : String
  cloud : String
  version : String
  createdVia : Provenance
  capacity : Capacity
  deriving DecidableEq, Repr

namespace Record

def familyName : String := "acm_managed_cluster_info"

def familyHelp : String := "Managed cluster information"

def descriptor : Descriptor := ⟨familyName, familyHelp⟩

/-- The label keys in order. -/
def labels : List String :=
  ["hub_cluster_id", "managed_cluster_id", "vendor", "cloud", "version", "created_via", "cpu",
   "cpu_worker", "core", "core_worker", "socket", "socket_worker"]

/-- The label values in the order of the keys. -/
def values (r : Record) : List String :=
  [r.hubClusterId, r.managedClusterId, r.vendor, r.cloud, r.version, r.createdVia.text,
   toString r.capacity.cpu, toString r.capacity.cpuWorker, toString r.capacity.core,
   toString r.capacity.coreWorker, toString r.capacity.socket, toString r.capacity.socketWorker]

def sample (r : Record) : Sample := .ofColumns labels r.values (.ofNat 1)

theorem length_values (r : Record) : r.values.length = labels.length := rfl

theorem keys_sample (r : Record) : r.sample.keys = labels :=
  Sample.keys_ofColumns _ _ _ r.length_values.symm

end Record

end FleetExporter
