import FleetExporter.Computation
import FleetExporter.Quantity
import FleetExporter.View.ManagedCluster

/-! The capacity of a managed cluster: six counts, each the value of the quantity reported under
its own name, and zero where nothing is reported or the text is no quantity. To derive it is a
computation in machine words, which one of the quantities may overflow. -/
namespace FleetExporter

inductive Resource where
  | cpu
  | cpuWorker
  | core
  | coreWorker
  | socket
  | socketWorker
  deriving DecidableEq, Repr

namespace Resource

/-- The name in a capacity map and in labels. -/
def name : Resource → String
  | cpu => "cpu"
  | cpuWorker => "cpu_worker"
  | core => "core"
  | coreWorker => "core_worker"
  | socket => "socket"
  | socketWorker => "socket_worker"

/-- In the order of labels and log fields. -/
def all : List Resource := [cpu, cpuWorker, core, coreWorker, socket, socketWorker]

theorem mem_all (r : Resource) : r ∈ all := by cases r <;> decide

end Resource

structure Capacity where
  cpu : Int := 0
  cpuWorker : Int := 0
  core : Int := 0
  coreWorker : Int := 0
  socket : Int := 0
  socketWorker : Int := 0
  deriving DecidableEq, Repr

namespace Capacity

def count (c : Capacity) : Resource → Int
  | .cpu => c.cpu
  | .cpuWorker => c.cpuWorker
  | .core => c.core
  | .coreWorker => c.coreWorker
  | .socket => c.socket
  | .socketWorker => c.socketWorker

def ofCounts (count : Resource → Int) : Capacity :=
  ⟨count .cpu, count .cpuWorker, count .core, count .coreWorker, count .socket,
   count .socketWorker⟩

@[simp] theorem count_ofCounts (f : Resource → Int) (r : Resource) :
    (ofCounts f).count r = f r := by
  cases r <;> rfl

/-- The names and counts in order. -/
def entries (c : Capacity) : List (String × Int) := Resource.all.map fun r => (r.name, c.count r)

/-- The count of one resource: zero stands for what is absent or no quantity. -/
def countOf (cluster : ManagedCluster) (r : Resource) : Nat :=
  ((cluster.quantity? r.name).bind Quantity.wrapped?).getD 0

/-- What is logged about one resource. -/
def complaints (cluster : ManagedCluster) (r : Resource) : List LogEntry :=
  match cluster.quantity? r.name with
  | none => []
  | some q =>
    match Quantity.wrapped? q with
    | some _ => []
    | none =>
      [⟨.debug, "unparsable capacity, using 0", [("resource", r.name), ("quantity", q)]⟩]

def derive (cluster : ManagedCluster) : Computation Capacity where
  value := ofCounts fun r => countOf cluster r
  logs := Resource.all.flatMap (complaints cluster)
  overflowed := Resource.all.any fun r => (cluster.quantity? r.name).any Quantity.ends

theorem countOf_le (cluster : ManagedCluster) (r : Resource) :
    countOf cluster r ≤ Quantity.valueLimit := by
  unfold countOf
  cases h : (cluster.quantity? r.name).bind Quantity.wrapped? with
  | none => exact Nat.zero_le _
  | some v =>
    obtain ⟨q, -, hq⟩ := Option.bind_eq_some_iff.mp h
    exact Quantity.wrapped?_le hq

@[simp] theorem count_derive (cluster : ManagedCluster) (r : Resource) :
    (derive cluster).value.count r = countOf cluster r := by simp [derive]

end Capacity

end FleetExporter
