import FleetExporter.Watch.Run

/-! The work of a handler, one question at a time. An inquiry is a computation that stops at each
question about a companion and goes on with the answer, so that other work can take place between
them. Answered throughout by the same companions, it comes to what the handler plans at once. -/
namespace FleetExporter

/-- What a question about a companion is answered with. -/
@[reducible] def Lookup.Answer : Lookup → Type
  | .cluster _ => Except Error (Option ManagedCluster)
  | .deployment _ _ => Except Error (Option ClusterDeployment)

def Companions.answer (c : Companions) : (l : Lookup) → l.Answer
  | .cluster name => (c.cluster name).value
  | .deployment ns name => (c.deployment ns name).value

/-- A computation that stops at each of its questions. -/
inductive Inquiry (α : Type) where
  | done (a : α)
  | ask (l : Lookup) (next : l.Answer → Inquiry α)

namespace Inquiry

variable {α β : Type}

def bind (x : Inquiry α) (f : α → Inquiry β) : Inquiry β :=
  match x with
  | done a => f a
  | ask l next => ask l fun answer => (next answer).bind f

def map (f : α → β) (x : Inquiry α) : Inquiry β := x.bind fun a => done (f a)

/-- What an inquiry comes to when the same companions answer throughout. -/
def answered (c : Companions) : Inquiry α → α
  | done a => a
  | ask l next => (next (c.answer l)).answered c

@[simp] theorem answered_done (c : Companions) (a : α) : (done a).answered c = a := rfl

@[simp] theorem answered_ask (c : Companions) (l : Lookup) (next : l.Answer → Inquiry α) :
    (ask l next).answered c = (next (c.answer l)).answered c := rfl

@[simp] theorem answered_bind (c : Companions) (x : Inquiry α) (f : α → Inquiry β) :
    (x.bind f).answered c = (f (x.answered c)).answered c := by
  induction x with
  | done a => rfl
  | ask l next ih => exact ih (c.answer l)

@[simp] theorem answered_map (c : Companions) (f : α → β) (x : Inquiry α) :
    (x.map f).answered c = f (x.answered c) := answered_bind c x _

end Inquiry

/-! ## The join -/

namespace Join

def provisioningOf : Except Error (Option ClusterDeployment) → Provisioning
  | .ok (some _) => .found
  | .ok none => .notFound
  | .error _ => .unavailable

theorem value_provisioning (c : Companions) (name : String) :
    (provisioning c name).value = provisioningOf (c.deployment name name).value := by
  unfold provisioning provisioningOf
  simp only [Traced.value_bind]
  rcases (c.deployment name name).value with e | _ | d <;> rfl

/-- The join asks for the managed cluster, and for the deployment only if there is one. -/
def inquiry (hub : String) (info : ManagedClusterInfo) : Inquiry (Option Record) :=
  .ask (.cluster info.name) fun found =>
    match found with
    | .ok (some cluster) =>
      .ask (.deployment info.name info.name) fun deployment =>
        .done (assemble hub info (provisioningOf deployment).provenance
          (Capacity.derive cluster).value).value
    | .ok none => .done none
    | .error _ => .done none

theorem answered_inquiry (hub : String) (c : Companions) (info : ManagedClusterInfo) :
    (inquiry hub info).answered c = (join hub c info).value := by
  simp only [inquiry, join, Inquiry.answered_ask, Computation.value_bind,
    Computation.toTraced_lift, Companions.answer]
  rcases (c.cluster info.name).value with e | _ | cluster
  · rfl
  · rfl
  · simp only [Inquiry.answered_ask, Inquiry.answered_done, Companions.answer,
      Computation.value_bind, Computation.toTraced_lift, value_provisioning]

end Join

/-- A generator that is known by its questions. -/
structure Inquirer extends Generator where
  inquiry : ManagedClusterInfo → Inquiry (List Sample)
  answered_inquiry : ∀ c info, (inquiry info).answered c = (samples c info).value

namespace Inquirer

def clusterInfo (hub : String) : Inquirer where
  toGenerator := .clusterInfo hub
  inquiry info := (Join.inquiry hub info).map fun r => (r.map Record.sample).toList
  answered_inquiry c info := by
    rw [Inquiry.answered_map, Join.answered_inquiry]
    rfl

/-- The families of several generators, one question after the other. -/
def families (info : ManagedClusterInfo) : List Inquirer → Inquiry (List Family)
  | [] => .done []
  | g :: rest =>
    (g.inquiry info).bind fun samples =>
      (families info rest).map (⟨g.descriptor, samples⟩ :: ·)

theorem answered_families (c : Companions) (info : ManagedClusterInfo) (gs : List Inquirer) :
    (families info gs).answered c =
      (Generator.families c info (gs.map (·.toGenerator))).value := by
  induction gs with
  | nil => rfl
  | cons g rest ih =>
    simp only [families, Inquiry.answered_bind, Inquiry.answered_map, ih, g.answered_inquiry]
    rfl

end Inquirer

/-! ## The handler -/

namespace Watch.Handler

/-- Reading an object anew, and whether it decodes. -/
def inquireInto (gs : List Inquirer) (o : Untyped) : Inquiry (SampleStore.Edit × Bool) :=
  match ManagedClusterInfo.decode o with
  | .error _ => .done (.drop o.key, false)
  | .ok info => (Inquirer.families info gs).map fun families => (.put o.key families, true)

theorem answered_inquireInto (gs : List Inquirer) (c : Companions) (o : Untyped) :
    (inquireInto gs o).answered c = (refresh (gs.map (·.toGenerator)) c o).value := by
  unfold inquireInto refresh
  cases ManagedClusterInfo.decode o with
  | error e => rfl
  | ok info => rw [Inquiry.answered_map, Inquirer.answered_families]; rfl

/-- The plan of a handler for an event. -/
def inquire (gs : List Inquirer) (h : Handler) : Event → Inquiry (Handler × SampleStore.Edit)
  | .started => .done ({ h with relisted := some [] }, .keep)
  | .listed o => (inquireInto gs o).map fun r => (if r.2 then h.see o.key else h, r.1)
  | .completed =>
    match h.relisted with
    | none => .done (h, .keep)
    | some seen => .done ({ h with relisted := none }, .prune h.scope seen)
  | .changed o => (inquireInto gs o).map fun r => (h, r.1)
  | .removed o => .done (h, .drop o.key)

/-- To ask one question at a time changes no plan. -/
theorem answered_inquire (gs : List Inquirer) (c : Companions) (h : Handler) (e : Event) :
    (h.inquire gs e).answered c = (h.plan (gs.map (·.toGenerator)) c e).value := by
  cases e with
  | started => rfl
  | listed o => rw [inquire, Inquiry.answered_map, answered_inquireInto]; rfl
  | completed =>
    unfold inquire plan
    cases h.relisted <;> rfl
  | changed o => rw [inquire, Inquiry.answered_map, answered_inquireInto]; rfl
  | removed o => rfl

end Watch.Handler

end FleetExporter
