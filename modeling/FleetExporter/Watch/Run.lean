import FleetExporter.Watch.Session

/-! Several watches on one sample store: one for all namespaces, or one for each selected
namespace. Every watch has a handler of its own; their deliveries are taken in the order of time,
those of the same second in the order of the watches. -/
namespace FleetExporter.Watch

open Traced (log)

namespace Handler

/-- A handler takes what a watch delivers; a failure is only logged. -/
def take (generators : List Generator) (c : Companions) (h : Handler) (s : SampleStore) :
    Delivery → Computation (Handler × SampleStore)
  | .ok e => h.handle generators c s e
  | .error f => do
    log .warn "ManagedClusterInfo watcher error, will retry" [("error", f.message)]
    return (h, s)

end Handler

/-- The handlers of several watches and the store they share. -/
structure Fleet where
  handlers : List Handler
  store : SampleStore

namespace Fleet

/-- What the watches are opened for: each namespace that is selected; when none is, all of them. -/
def targets : List String → List (Option String)
  | [] => [none]
  | namespaces => namespaces.map some

def handlersFor (namespaces : List String) : List Handler := (targets namespaces).map .forTarget

def start (namespaces : List String) (descriptors : List Descriptor) : Fleet :=
  ⟨handlersFor namespaces, .empty descriptors⟩

/-- The delivery of one watch; what comes for a watch that does not exist changes nothing. -/
def take (generators : List Generator) (c : Companions) (f : Fleet) (i : Nat) (d : Delivery) :
    Computation Fleet :=
  match f.handlers[i]? with
  | none => return f
  | some h => do
    let (h, store) ← h.take generators c f.store d
    return ⟨f.handlers.set i h, store⟩

/-- Deliveries one after the other, each with the number of its watch. -/
def takeAll (generators : List Generator) (c : Companions) :
    Fleet → List (Nat × Delivery) → Computation Fleet
  | f, [] => return f
  | f, (i, d) :: rest => do
    let f ← f.take generators c i d
    takeAll generators c f rest

/-- The deliveries of several watches in the order of time. -/
def interleave (transcripts : List Transcript) : List (Nat × Delivery) :=
  let timed := transcripts.zipIdx.flatMap fun (t, i) =>
    t.deliveries.map fun d => (d.second, i, d.what)
  (timed.mergeSort fun a b => a.1 ≤ b.1).map (·.2)

def opening : List String → LogEntry
  | [] => ⟨.info, "watching ManagedClusterInfo in all namespaces", []⟩
  | namespaces =>
    ⟨.info, "watching ManagedClusterInfo in selected namespaces",
      [("namespaces", ", ".intercalate namespaces)]⟩

/-- The watches of the selected namespaces, each with the transcript of what it is opened for. -/
def run (generators : List Generator) (c : Companions) (namespaces : List String)
    (transcripts : List Transcript) (descriptors : List Descriptor) : Computation Fleet :=
  let followed := takeAll generators c (start namespaces descriptors) (interleave transcripts)
  { followed with logs := opening namespaces :: followed.logs }

end Fleet

end FleetExporter.Watch
