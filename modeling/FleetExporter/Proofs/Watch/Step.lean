import FleetExporter.Watch.Run

/-! What one delivery does to a handler and to the store it writes to, and what a history of them
does. Each kind of delivery has one equation; what follows is stated through these and through the
lookups of the store, so that no later proof opens a handler. -/
namespace FleetExporter

namespace Untyped

/-- Whether an object is a registration record that can be read. -/
def decodes (o : Untyped) : Bool := (ManagedClusterInfo.decode o).isOk

/-- An object with nothing but a specification, or without even that. -/
def bare (ns name : String) (specified : Bool) : Untyped where
  metadata := { name := some name, namespaceName := some ns }
  fields := if specified then [("spec", .object [])] else []

end Untyped

namespace SampleStore

/-- The slots that an object fills for registered descriptors, if it decodes. -/
def slotsOf (generators : List Generator) (descriptors : List Descriptor) (c : Companions)
    (o : Untyped) : Option Slots :=
  match ManagedClusterInfo.decode o with
  | .error _ => none
  | .ok info => some (slots descriptors (Generator.families c info generators).value)

theorem isSome_slotsOf (generators : List Generator) (descriptors : List Descriptor)
    (c : Companions) (o : Untyped) :
    (slotsOf generators descriptors c o).isSome = o.decodes := by
  unfold slotsOf Untyped.decodes
  cases ManagedClusterInfo.decode o <;> rfl

/-- The store after an object was read anew. -/
def refreshed (generators : List Generator) (c : Companions) (o : Untyped) (s : SampleStore) :
    SampleStore :=
  (s.apply (Watch.Handler.refresh generators c o).value.1).1

/-- Reading an object anew replaces what is under its key, and nothing else. -/
theorem get?_refreshed (generators : List Generator) (c : Companions) (o : Untyped)
    (s : SampleStore) (k : String) :
    (s.refreshed generators c o).get? k =
      if o.key = k then slotsOf generators s.descriptors c o else s.get? k := by
  unfold refreshed slotsOf Watch.Handler.refresh
  cases ManagedClusterInfo.decode o with
  | error e => exact get?_drop s o.key k
  | ok info => exact get?_put s o.key _ k

end SampleStore

namespace Watch

open SampleStore (slotsOf)

namespace Handler

variable (generators : List Generator) (c : Companions) (h : Handler) (s : SampleStore)

theorem value_refresh_snd (o : Untyped) : (refresh generators c o).value.2 = o.decodes := by
  unfold refresh Untyped.decodes
  cases ManagedClusterInfo.decode o <;> rfl

/-! ## One delivery -/

@[simp] theorem take_started :
    (h.take generators c s (.ok .started)).value = ({ h with relisted := some [] }, s) := rfl

@[simp] theorem take_listed (o : Untyped) :
    (h.take generators c s (.ok (.listed o))).value =
      (if o.decodes then h.see o.key else h, s.refreshed generators c o) := by
  rw [← value_refresh_snd generators c o]
  rfl

@[simp] theorem take_changed (o : Untyped) :
    (h.take generators c s (.ok (.changed o))).value = (h, s.refreshed generators c o) := rfl

@[simp] theorem take_removed (o : Untyped) :
    (h.take generators c s (.ok (.removed o))).value = (h, s.drop o.key) := rfl

@[simp] theorem take_completed :
    (h.take generators c s (.ok .completed)).value =
      ({ h with relisted := none },
        h.relisted.elim s fun seen => s.prune h.scope seen.contains) := by
  obtain ⟨scope, _ | seen⟩ := h <;> rfl

@[simp] theorem take_error (f : Failure) :
    (h.take generators c s (.error f)).value = (h, s) := rfl

/-! ## The keys seen in a re-list -/

/-- Whether a re-list is in progress that has not seen a key. -/
def misses (h : Handler) (k : String) : Bool := h.relisted.any fun seen => !seen.contains k

@[simp] theorem misses_fresh (scope k : String) : (Handler.mk scope none).misses k = false := rfl

@[simp] theorem misses_started (scope k : String) : (Handler.mk scope (some [])).misses k = true :=
  rfl

theorem misses_see (key k : String) :
    (h.see key).misses k = (h.misses k && !decide (key = k)) := by
  obtain ⟨scope, _ | seen⟩ := h
  · rfl
  · by_cases hk : key = k
    · subst hk
      by_cases hm : key ∈ seen <;> simp [see, misses, hm]
    · have hk' : k ≠ key := fun e => hk e.symm
      by_cases hm : key ∈ seen <;> simp [see, misses, hm, hk, hk']

/-- The end of a re-list drops the keys of the scope that it did not see. -/
theorem get?_take_completed (k : String) :
    (h.take generators c s (.ok .completed)).value.2.get? k =
      if SampleStore.inScope h.scope k ∧ h.misses k = true then none else s.get? k := by
  rw [take_completed]
  obtain ⟨scope, _ | seen⟩ := h
  · simp [misses]
  · simp [SampleStore.get?_prune, misses]

@[simp] theorem scope_take (d : Delivery) : (h.take generators c s d).value.1.scope = h.scope := by
  cases d with
  | error f => rfl
  | ok e => exact scope_plan generators c h e

@[simp] theorem descriptors_take (d : Delivery) :
    (h.take generators c s d).value.2.descriptors = s.descriptors := by
  cases d with
  | error f => rfl
  | ok e => exact SampleStore.descriptors_apply s _

end Handler

/-! ## A history of deliveries -/

/-- A delivery, with the answers about companions that hold when it is taken. -/
structure Moment where
  companions : Companions
  delivery : Delivery

namespace Handler

/-- A handler takes deliveries one after the other, each under its own answers. -/
def takeAll (generators : List Generator) :
    Handler → SampleStore → List Moment → Computation (Handler × SampleStore)
  | h, s, [] => return (h, s)
  | h, s, m :: rest => do
    let (h, s) ← h.take generators m.companions s m.delivery
    takeAll generators h s rest

variable (generators : List Generator) (h : Handler) (s : SampleStore)

@[simp] theorem takeAll_nil : (h.takeAll generators s []).value = (h, s) := rfl

@[simp] theorem takeAll_cons (m : Moment) (rest : List Moment) :
    (h.takeAll generators s (m :: rest)).value =
      ((h.take generators m.companions s m.delivery).value.1.takeAll generators
        (h.take generators m.companions s m.delivery).value.2 rest).value := rfl

theorem takeAll_append (past later : List Moment) :
    (h.takeAll generators s (past ++ later)).value =
      ((h.takeAll generators s past).value.1.takeAll generators
        (h.takeAll generators s past).value.2 later).value := by
  induction past generalizing h s with
  | nil => rfl
  | cons m past ih => simp only [List.cons_append, takeAll_cons, ih]

theorem takeAll_concat (past : List Moment) (m : Moment) :
    (h.takeAll generators s (past ++ [m])).value =
      ((h.takeAll generators s past).value.1.take generators m.companions
        (h.takeAll generators s past).value.2 m.delivery).value := by
  rw [takeAll_append]
  rfl

@[simp] theorem scope_takeAll (history : List Moment) :
    (h.takeAll generators s history).value.1.scope = h.scope := by
  induction history generalizing h s with
  | nil => rfl
  | cons m rest ih => simp [ih]

@[simp] theorem descriptors_takeAll (history : List Moment) :
    (h.takeAll generators s history).value.2.descriptors = s.descriptors := by
  induction history generalizing h s with
  | nil => rfl
  | cons m rest ih => simp [ih]

end Handler

namespace Fleet

variable (generators : List Generator) (c : Companions) (h : Handler) (s : SampleStore)

theorem value_takeAll_alone (ds : List Delivery) :
    (takeAll generators c ⟨[h], s⟩ (ds.map (0, ·))).value =
      ⟨[(h.takeAll generators s (ds.map (⟨c, ·⟩))).value.1],
        (h.takeAll generators s (ds.map (⟨c, ·⟩))).value.2⟩ := by
  induction ds generalizing h s with
  | nil => rfl
  | cons d ds ih => exact ih _ _

theorem overflowed_takeAll_alone (ds : List Delivery) :
    (takeAll generators c ⟨[h], s⟩ (ds.map (0, ·))).overflowed =
      (h.takeAll generators s (ds.map (⟨c, ·⟩))).overflowed := by
  induction ds generalizing h s with
  | nil => rfl
  | cons d ds ih =>
    have htake : (take generators c ⟨[h], s⟩ 0 d).overflowed =
        (h.take generators c s d).overflowed := by simp [take]
    rw [List.map_cons, List.map_cons, takeAll, Handler.takeAll, Computation.overflowed_bind,
      Computation.overflowed_bind, htake]
    exact congrArg _ (ih _ _)

/-- The deliveries of the only watch of a fleet, under answers that stay the same, are a history. -/
theorem checked_takeAll_alone (ds : List Delivery) :
    (takeAll generators c ⟨[h], s⟩ (ds.map (0, ·))).checked =
      (h.takeAll generators s (ds.map (⟨c, ·⟩))).checked.map fun x => ⟨[x.1], x.2⟩ := by
  simp only [Computation.checked, value_takeAll_alone, overflowed_takeAll_alone]
  split <;> rfl

end Fleet

end Watch

end FleetExporter
