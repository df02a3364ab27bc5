import FleetExporter.Proofs.Watch.Overflow
import FleetExporter.Proofs.WellFormed

/-! What a scrape depends on. Two runs of the same watches that are shown nothing different in what
the join reads have the same scrapes at each time, whatever else they are shown. -/
namespace FleetExporter

namespace Watch

open SampleStore

/-- A fleet takes a delivery as its effect, so it cannot tell deliveries of one effect apart. -/
theorem Fleet.take_congr (generators : List Generator) (f : Fleet) (i : Nat) {m m' : Moment}
    (h : m.effect generators f.store.descriptors = m'.effect generators f.store.descriptors) :
    (f.take generators m.companions i m.delivery).value =
      (f.take generators m'.companions i m'.delivery).value := by
  unfold Fleet.take
  split
  · rfl
  · rename_i handler _
    have htake := Handler.take_eq_apply generators handler f.store m
    rw [h, ← Handler.take_eq_apply] at htake
    simp only [Computation.value_bind, htake]

/-- Histories of several watches that show the join the same, delivery by delivery. -/
def Resembling : List (Nat × Moment) → List (Nat × Moment) → Prop :=
  List.Forall₂ fun e e' => e.1 = e'.1 ∧ e.2.Resembles e'.2

/-- Two runs that are shown the same keep the same handlers and the same store. -/
theorem Fleet.follow_of_resembling {hub : String} {f : Fleet} (hf : Exports hub f.store)
    {past past' : List (Nat × Moment)} (h : Resembling past past') :
    f.follow [.clusterInfo hub] past = f.follow [.clusterInfo hub] past' := by
  induction h generalizing f with
  | nil => rfl
  | @cons e e' _ _ hhead _ ih =>
    obtain ⟨i, m⟩ := e
    obtain ⟨i', m'⟩ := e'
    obtain ⟨rfl, hm⟩ := hhead
    have heffect : m.effect [.clusterInfo hub] f.store.descriptors =
        m'.effect [.clusterInfo hub] f.store.descriptors := by
      rw [hf.descriptors_eq, hm.effect_eq hub _]
    simp only [Fleet.follow]
    rw [← take_congr _ f i heffect]
    exact ih (hf.fleetTake i m)

/-- **A scrape depends on what the join reads.** Two runs of the same handlers, whose deliveries are
of the same shape and agree in the namespace, the name and the facts that are read of each object,
under answers that agree in what is found and in the texts of the quantities: at each time, every
request is answered the same, and a scrape gives the same text. Checked arithmetic ends both by then
or neither. -/
theorem scrapes_of_resembling_runs (hub : String) (handlers : List Handler)
    (past past' : List (Nat × Moment)) (h : Resembling past past') (n : Nat) :
    let s := (Fleet.follow [.clusterInfo hub] ⟨handlers, .empty [Record.descriptor]⟩
      (past.take n)).store
    let s' := (Fleet.follow [.clusterInfo hub] ⟨handlers, .empty [Record.descriptor]⟩
      (past'.take n)).store
    (∀ r, Scrape.respond s r = Scrape.respond s' r) ∧
    ((∃ e ∈ past.take n, e.2.Overflows) ↔ ∃ e ∈ past'.take n, e.2.Overflows) ∧
    ∃ text, Scrape.respond s ⟨"GET", Scrape.metricsPath⟩ =
        pure ⟨200, some Exposition.contentType, none, text⟩ ∧
      Scrape.respond s' ⟨"GET", Scrape.metricsPath⟩ =
        pure ⟨200, some Exposition.contentType, none, text⟩ := by
  intro s s'
  have hempty : Exports hub (Fleet.mk handlers (.empty [Record.descriptor])).store := .empty hub
  have hsame : s = s' :=
    congrArg Fleet.store (Fleet.follow_of_resembling hempty (List.forall₂_take n h))
  have hanswer := Scrape.respond_of_render (hempty.follow (past.take n)).readsByLine.text
  have hends := exists_mem_congr (p := fun e : Nat × Moment => e.2.Overflows)
    (fun _ _ he => he.2.overflows_iff) (List.forall₂_take n h)
  exact ⟨fun r => by rw [hsame], hends, _, hanswer, hsame ▸ hanswer⟩

/-! The same cluster told briefly and at length. At length, its report has a version of Kubernetes
too, its worker stands behind another node and its quantities stand in another order; other errors
are met, and other objects cannot be read or are removed. -/

def terseReport : Untyped where
  metadata := { name := some "c1", namespaceName := some "c1" }
  fields := [("spec", .object []), ("status", .object [("clusterID", .string "id-1"),
    ("cloudVendor", .string "Amazon"),
    ("distributionInfo", .object [("ocp", .object [("version", .string "4.14.2")])]),
    ("kubeVendor", .string "OpenShift"),
    ("nodeList", .array [.object [("labels",
      .object [("node-role.kubernetes.io/worker", .string "")])]])])]

def terseInfo : ManagedClusterInfo where
  metadata := terseReport.metadata
  spec := {}
  status := some
    { clusterId := "id-1", vendor := .openShift, cloud := "Amazon"
      distribution := { ocp := { version := "4.14.2" } }
      nodes := [{ labels := [("node-role.kubernetes.io/worker", "")] }] }

def wordyReport : Untyped where
  metadata := { name := some "c1", namespaceName := some "c1", generation := some 7
                annotations := some [("note", "at length")] }
  fields := [("extra", .bool true), ("spec", .object [("masterEndpoint", .string "host")]),
    ("status", .object [("clusterID", .string "id-1"), ("cloudVendor", .string "Amazon"),
      ("conditions", .array []),
      ("distributionInfo", .object [("ocp", .object [("version", .string "4.14.2")]),
        ("type", .string "OCP")]),
      ("kubeVendor", .string "OpenShift"),
      ("nodeList", .array [.object [("name", .string "m0")],
        .object [("labels", .object [("node-role.kubernetes.io/worker", .string "no")]),
          ("name", .string "w0")]]),
      ("version", .string "v1.27.6")])]

def wordyInfo : ManagedClusterInfo where
  metadata := wordyReport.metadata
  spec := { masterEndpoint := some "host" }
  status := some
    { clusterId := "id-1", vendor := .openShift, cloud := "Amazon", version := "v1.27.6"
      distribution := { kind := "OCP", ocp := { version := "4.14.2" } }
      nodes := [{ name := "m0" },
        { name := "w0", labels := [("node-role.kubernetes.io/worker", "no")] }] }

/-- A hub with one cluster and a deployment of it, and another cluster that it cannot look up. -/
def hubWith (quantities : List (String × String)) (domain : Json) (e : RequestError) : Directory :=
  let cluster : Untyped :=
    { fields := [("spec", .object []),
        ("status", .object [("capacity", .ofStringMap quantities)])] }
  { clusters := [("c1", .object cluster), ("c2", .failing (.request e))]
    deployments := [(("c1", "c1"),
      .object { fields := [("spec", .object [("baseDomain", domain)])] })] }

def terseHub : Directory :=
  hubWith [("cpu", "16"), ("cpu_worker", "8000m")] .null .unreadable

def wordyHub : Directory :=
  hubWith [("cpu_worker", "8000m"), ("memory", "64Gi"), ("cpu", "16")] (.string "example")
    (.unreachable "refused")

def terseHistory : List (Nat × Moment) :=
  [.ok .started, .ok (.listed terseReport), .ok .completed, .error .noVersion,
    .ok (.changed (.bare "c2" "c2" true)), .ok (.removed (.bare "c3" "c3" true))].map
    (0, ⟨terseHub.companions, ·⟩)

def wordyHistory : List (Nat × Moment) :=
  [.ok .started, .ok (.listed wordyReport), .ok .completed, .error (.interrupted .unreadable),
    .ok (.changed (.bare "c2" "c2" true)), .ok (.removed (.bare "c3" "c3" false))].map
    (0, ⟨wordyHub.companions, ·⟩)

theorem terse_resembles_wordy : terseReport.Resembles wordyReport where
  namespace_eq := rfl
  nameAny_eq := rfl
  decodes_eq := rfl
  report := by
    intro info info' hinfo hinfo'
    obtain rfl : terseInfo = info := Except.ok.inj hinfo
    obtain rfl : wordyInfo = info' := Except.ok.inj hinfo'
    refine ⟨rfl, rfl, rfl, fun _ => rfl, ?_⟩
    rw [← Join.hasWorker_iff, ← Join.hasWorker_iff]
    decide +kernel

theorem resemble_hubs (name : String) :
    terseHub.companions.Resemble name wordyHub.companions := by
  by_cases hone : name = "c1"
  · subst hone
    exact ⟨congrArg some (funext fun r => by cases r <;> rfl), rfl⟩
  · by_cases htwo : name = "c2"
    · subst htwo
      exact ⟨rfl, rfl⟩
    · have hclusters : ∀ quantities domain e,
          (hubWith quantities domain e).clusters.lookup name = none := by
        intro quantities domain e
        simp [hubWith, List.lookup_cons, beq_false_of_ne hone, beq_false_of_ne htwo]
      have hdeployments : ∀ quantities domain e,
          (hubWith quantities domain e).deployments.lookup (name, name) = none := by
        intro quantities domain e
        have hne : (name, name) ≠ ("c1", "c1") := fun h => hone (Prod.mk.inj h).1
        simp [hubWith, List.lookup_cons, beq_false_of_ne hne]
      constructor <;>
        simp [Directory.companions, terseHub, wordyHub, hclusters, hdeployments, Directory.decode]

theorem resembling_terse_wordy : Resembling terseHistory wordyHistory := by
  have hmoment : ∀ {d d' : Delivery}, d.Resembles d' →
      Moment.Resembles ⟨terseHub.companions, d⟩ ⟨wordyHub.companions, d'⟩ :=
    fun hd => ⟨hd, fun o _ => resemble_hubs o.metadata.nameAny⟩
  exact .cons ⟨rfl, hmoment .started⟩ <|
    .cons ⟨rfl, hmoment (.listed terse_resembles_wordy)⟩ <|
    .cons ⟨rfl, hmoment .completed⟩ <| .cons ⟨rfl, hmoment (.failed _ _)⟩ <|
    .cons ⟨rfl, hmoment (.changed (.refl _))⟩ <|
    .cons ⟨rfl, hmoment (.removed ⟨rfl, rfl⟩)⟩ .nil

/-- Both are scraped alike, and it is one cluster that is scraped. -/
theorem scrapes_of_resembling_runs_terse_wordy :
    let s := (Fleet.follow [.clusterInfo "hub"] ⟨[.forAll], .empty [Record.descriptor]⟩
      (terseHistory.take 6)).store
    let s' := (Fleet.follow [.clusterInfo "hub"] ⟨[.forAll], .empty [Record.descriptor]⟩
      (wordyHistory.take 6)).store
    Resembling terseHistory wordyHistory ∧
    (∀ r, Scrape.respond s r = Scrape.respond s' r) ∧
    s.get? "c1/c1" = some (slotsOfRecord (some ⟨"hub", "id-1", "OpenShift", "Amazon", "4.14.2",
      .hive, { cpu := 16, cpuWorker := 8 }⟩)) := by
  intro s s'
  obtain ⟨hanswers, -⟩ := scrapes_of_resembling_runs "hub" [.forAll] terseHistory wordyHistory
    resembling_terse_wordy 6
  refine ⟨resembling_terse_wordy, hanswers, ?_⟩
  decide +kernel

end Watch

end FleetExporter
