import FleetExporter.Join
import FleetExporter.SampleStore

/-! How events about registration records change the sample store. A handler owns the keys of one
scope. While a re-list is in progress it remembers the keys it has seen, and at the end it prunes
the others of its scope. What an event does to the store is decided without looking at the store. -/
namespace FleetExporter.Watch

/-- A re-list starts, lists an object or completes; an object changed or was removed. -/
inductive Event where
  | started
  | listed (o : Untyped)
  | completed
  | changed (o : Untyped)
  | removed (o : Untyped)

structure Handler where
  scope : String
  relisted : Option (List String) := none
  deriving DecidableEq, Repr

namespace Handler

open Traced (log)

def forAll : Handler := ⟨"", none⟩

def forNamespace (name : String) : Handler := ⟨name ++ "/", none⟩

/-- The handler of a watch that is opened for a namespace, or for all of them. -/
def forTarget : Option String → Handler
  | none => forAll
  | some name => forNamespace name

/-- Notes a key while a re-list is in progress. -/
def see (h : Handler) (key : String) : Handler :=
  { h with relisted := h.relisted.map fun seen => if key ∈ seen then seen else key :: seen }

/-- An object that decodes replaces its samples; one that does not loses them. -/
def refresh (generators : List Generator) (c : Companions) (o : Untyped) :
    Computation (SampleStore.Edit × Bool) :=
  match ManagedClusterInfo.decode o with
  | .error e => do
    log .warn "skipping undecodable ManagedClusterInfo" [("key", o.key), ("error", e.message)]
    return (.drop o.key, false)
  | .ok info => do
    let families ← Generator.families c info generators
    return (.put o.key families, true)

/-- The handler after an event, and the change it asks for. -/
def plan (generators : List Generator) (c : Companions) (h : Handler) :
    Event → Computation (Handler × SampleStore.Edit)
  | .started => do
    log .debug "re-list started" [("scope", h.scope)]
    return ({ h with relisted := some [] }, .keep)
  | .listed o => do
    let (edit, decoded) ← refresh generators c o
    return (if decoded then h.see o.key else h, edit)
  | .completed =>
    match h.relisted with
    | none => return (h, .keep)
    | some seen => return ({ h with relisted := none }, .prune h.scope seen)
  | .changed o => do
    let (edit, _) ← refresh generators c o
    return (h, edit)
  | .removed o => return (h, .drop o.key)

/-- What is logged once the change is made and the number of lost objects is known. -/
def aftermath (h : Handler) (lost : Nat) : Event → List LogEntry
  | .completed =>
    match h.relisted with
    | none => []
    | some seen =>
      [⟨.info, "re-list complete", [("scope", h.scope), ("objects", toString seen.length),
        ("pruned", toString lost)]⟩]
  | .removed o =>
    if lost = 0 then []
    else [⟨.debug, "ManagedClusterInfo deleted, samples dropped", [("key", o.key)]⟩]
  | _ => []

/-- One event applied to a handler and the store it writes to. -/
def handle (generators : List Generator) (c : Companions) (h : Handler) (s : SampleStore)
    (e : Event) : Computation (Handler × SampleStore) :=
  let planned := h.plan generators c e
  let (store, lost) := s.apply planned.value.2
  { planned with
    value := (planned.value.1, store)
    logs := planned.logs ++ h.aftermath lost e }

@[simp] theorem scope_see (h : Handler) (key : String) : (h.see key).scope = h.scope := rfl

theorem scope_plan (generators : List Generator) (c : Companions) (h : Handler) (e : Event) :
    (h.plan generators c e).value.1.scope = h.scope := by
  cases e with
  | started => rfl
  | listed o =>
    simp only [plan, Computation.value_bind, Computation.value_pure]
    split <;> simp
  | completed =>
    simp only [plan]
    split <;> rfl
  | changed o => rfl
  | removed o => rfl

end Handler

end FleetExporter.Watch
