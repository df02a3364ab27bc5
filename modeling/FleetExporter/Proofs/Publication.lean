import FleetExporter.Api.Client
import FleetExporter.Directory
import FleetExporter.Proofs.Quantity.Exactness
import FleetExporter.Proofs.Reading
import FleetExporter.Proofs.Watch.Inquiry

/-! Which clusters are published, and with what. A cluster that the hub knows is published exactly
when the report about it is complete; its deployment and the capacities that are not judged only
decide what its record says. -/
namespace FleetExporter

/-! ## Vendors as they are read -/

namespace Vendor

/-- A vendor as a text gives it, so that an empty text names none. -/
def Canonical (v : Vendor) : Prop := v = ofText v.text

theorem canonical_ofText (s : String) : (ofText s).Canonical := by
  rw [Canonical, text_ofText]

theorem canonical_of_read {j : Json} {v : Vendor} (h : read j = .ok v) : v.Canonical := by
  change ((Reader.nullable .text j).map fun s => ofText (s.getD "")) = .ok v at h
  cases hs : Reader.nullable .text j with
  | error m => rw [hs] at h; cases h
  | ok s =>
    rw [hs] at h
    cases h
    exact canonical_ofText _

theorem Canonical.eq_unknown_iff {v : Vendor} (h : v.Canonical) : v = .unknown ↔ v.text = "" := by
  constructor
  · rintro rfl
    rfl
  · intro ht
    rw [h, ht]
    rfl

theorem Canonical.eq_openShift_iff {v : Vendor} (h : v.Canonical) :
    v = .openShift ↔ v.text = openShiftName := by
  constructor
  · rintro rfl
    rfl
  · intro ht
    rw [h, ht]
    rfl

end Vendor

namespace ManagedClusterInfo

theorem canonical_of_readStatus {j : Json} {s : InfoStatus} (h : InfoStatus.read j = .ok s) :
    s.vendor.Canonical := by
  have keeps : ∀ f ∈ InfoStatus.fields, f.Keeps fun s => s.vendor.Canonical := by
    simp only [InfoStatus.fields, List.forall_mem_cons, List.not_mem_nil, false_implies,
      implies_true, and_true]
    refine ⟨Field.keeps_make fun _ _ _ _ hs => hs, Field.keeps_make fun _ _ _ hv _ => ?_,
      Field.keeps_make fun _ _ _ _ hs => hs, Field.keeps_make fun _ _ _ _ hs => hs,
      Field.keeps_make fun _ _ _ _ hs => hs, Field.keeps_make fun _ _ _ _ hs => hs⟩
    exact Vendor.canonical_of_read hv
  exact Reader.keeps_record (P := fun s => s.vendor.Canonical) keeps h (Vendor.canonical_ofText "")

/-- The vendor of a report that was read is empty only when none is reported. -/
theorem canonical_of_decode {o : Untyped} {info : ManagedClusterInfo} (h : decode o = .ok info) :
    info.report.vendor.Canonical := by
  have keeps : ∀ f ∈ fields, f.Keeps fun p => ∀ s, p.status = some s → s.vendor.Canonical := by
    simp only [fields, List.forall_mem_cons, List.not_mem_nil, false_implies, implies_true,
      and_true]
    refine ⟨Field.keeps_make fun _ _ _ _ hp => hp, Field.keeps_make fun j v _ hv _ s hs => ?_⟩
    simp only at hs
    subst hs
    exact canonical_of_readStatus (Reader.eq_ok_of_nullable hv)
  unfold decode at h
  split at h
  · cases h
  · rename_i spec status hread
    cases h
    obtain ⟨p, hp, -, hstatus⟩ := Parts.exists_visit hread
    have hkept := Field.keeps_visit keeps hp fun s hs => by cases hs
    cases status with
    | none => exact Vendor.canonical_ofText ""
    | some s => exact hkept s hstatus

/-- A typed view keeps the metadata of its object. -/
theorem metadata_of_decode {o : Untyped} {info : ManagedClusterInfo} (h : decode o = .ok info) :
    info.metadata = o.metadata := by
  unfold decode at h
  split at h
  · cases h
  · cases h
    rfl

theorem name_of_decode {o : Untyped} {info : ManagedClusterInfo} (h : decode o = .ok info) :
    info.name = o.metadata.nameAny := by
  rw [name, metadata_of_decode h]

end ManagedClusterInfo

/-! ## Complete clusters -/

/-- The count reported under a key; zero when nothing is, or no quantity. Of a quantity that
overflows it is the count of arithmetic that wraps around. -/
def ManagedCluster.reported (cluster : ManagedCluster) (key : String) : Nat :=
  ((cluster.quantity? key).bind Quantity.wrapped?).getD 0

namespace InfoStatus

/-- The version that counts: of the distribution, or of Kubernetes for all other vendors. -/
def selectedVersion (s : InfoStatus) : String :=
  if s.vendor = .openShift then s.distribution.ocp.version else s.version

/-- Some node bears the label of workers, to whatever value. -/
def HasWorker (s : InfoStatus) : Prop :=
  ∃ node ∈ s.nodes, ManagedClusterInfo.workerLabel ∈ node.labels.map (·.1)

end InfoStatus

/-- Enough is reported about a cluster, and of its capacity, to publish it. -/
structure Complete (info : ManagedClusterInfo) (cluster : ManagedCluster) : Prop where
  vendor : info.report.vendor ≠ .unknown
  cloud : info.report.cloud ≠ ""
  version : info.report.selectedVersion ≠ ""
  identifier : info.report.clusterId ≠ "" ∨ (info.report.vendor ≠ .openShift ∧ info.name ≠ "")
  cpu : cluster.reported "cpu" ≠ 0
  workers : ¬ info.report.HasWorker ∨ cluster.reported "cpu_worker" ≠ 0

namespace Join

/-- What is published about a complete cluster, given the answer about its deployment. -/
def published (hub : String) (info : ManagedClusterInfo) (cluster : ManagedCluster)
    (deployment : Except Error (Option ClusterDeployment)) : Record where
  hubClusterId := hub
  managedClusterId := if info.report.clusterId = "" then info.name else info.report.clusterId
  vendor := info.report.vendor.text
  cloud := info.report.cloud
  version := info.report.selectedVersion
  createdVia :=
    match deployment with
    | .ok (some _) => .hive
    | _ => .other
  capacity :=
    { cpu := cluster.reported "cpu"
      cpuWorker := cluster.reported "cpu_worker"
      core := cluster.reported "core"
      coreWorker := cluster.reported "core_worker"
      socket := cluster.reported "socket"
      socketWorker := cluster.reported "socket_worker" }

theorem countOf_eq_reported (cluster : ManagedCluster) (r : Resource) :
    Capacity.countOf cluster r = cluster.reported r.name := rfl

theorem hasWorker_iff (info : ManagedClusterInfo) :
    info.hasWorker = true ↔ info.report.HasWorker := by
  simp [ManagedClusterInfo.hasWorker, InfoStatus.HasWorker, Node.hasLabel]

theorem resolvedVersion_of_vendor {info : ManagedClusterInfo}
    (h : info.report.vendor ≠ .unknown) : info.resolvedVersion = info.report.selectedVersion := by
  unfold ManagedClusterInfo.resolvedVersion InfoStatus.selectedVersion
  cases hv : info.report.vendor with
  | unknown => exact absurd hv h
  | openShift => rfl
  | other name => rfl

theorem resolvedId_ne_empty_iff (info : ManagedClusterInfo) :
    info.resolvedId ≠ "" ↔
      info.report.clusterId ≠ "" ∨ (info.report.vendor ≠ .openShift ∧ info.name ≠ "") := by
  unfold ManagedClusterInfo.resolvedId Vendor.isOpenShift
  by_cases hid : info.report.clusterId = "" <;>
    by_cases hv : info.report.vendor = .openShift <;> simp [hid, hv]

theorem resolvedId_of_ne_empty {info : ManagedClusterInfo} (h : info.resolvedId ≠ "") :
    info.resolvedId =
      if info.report.clusterId = "" then info.name else info.report.clusterId := by
  unfold ManagedClusterInfo.resolvedId Vendor.isOpenShift at h ⊢
  by_cases hid : info.report.clusterId = "" <;>
    by_cases hv : info.report.vendor = .openShift <;> simp_all

/-- The facts pass exactly when the cluster is complete. -/
theorem isComplete_facts_iff (info : ManagedClusterInfo) (cluster : ManagedCluster) :
    (facts info (Capacity.derive cluster).value).isComplete = true ↔ Complete info cluster := by
  have hcpu : (Capacity.derive cluster).value.cpu = cluster.reported "cpu" :=
    congrArg Nat.cast (countOf_eq_reported cluster .cpu)
  have hworker : (Capacity.derive cluster).value.cpuWorker = cluster.reported "cpu_worker" :=
    congrArg Nat.cast (countOf_eq_reported cluster .cpuWorker)
  rw [Facts.isComplete_iff]
  simp only [facts, hcpu, hworker, resolvedId_ne_empty_iff]
  constructor
  · rintro ⟨hid, hvendor, hcloud, hversion, hcpu, hworkers⟩
    rw [resolvedVersion_of_vendor hvendor] at hversion
    refine ⟨hvendor, hcloud, hversion, hid, by omega, ?_⟩
    rw [← hasWorker_iff, Bool.not_eq_true]
    exact hworkers.symm.imp_right fun h => by omega
  · rintro ⟨hvendor, hcloud, hversion, hid, hcpu, hworkers⟩
    rw [resolvedVersion_of_vendor hvendor]
    refine ⟨hid, hvendor, hcloud, hversion, by omega, ?_⟩
    rw [← hasWorker_iff, Bool.not_eq_true] at hworkers
    exact hworkers.symm.imp_left fun h => by omega

theorem record_eq_published (hub : String) {info : ManagedClusterInfo} {cluster : ManagedCluster}
    (h : Complete info cluster) (deployment : Except Error (Option ClusterDeployment)) :
    record hub info (provisioningOf deployment).provenance (Capacity.derive cluster).value =
      published hub info cluster deployment := by
  have hid : info.resolvedId ≠ "" := (resolvedId_ne_empty_iff info).mpr h.identifier
  have hvia : (provisioningOf deployment).provenance =
      (published hub info cluster deployment).createdVia := by
    rcases deployment with e | _ | d <;> rfl
  have hcapacity : (Capacity.derive cluster).value =
      (published hub info cluster deployment).capacity := by
    simp [Capacity.derive, Capacity.ofCounts, countOf_eq_reported, published, Resource.name]
  simp only [record, hvia, hcapacity, resolvedId_of_ne_empty hid,
    resolvedVersion_of_vendor h.vendor]
  rfl

theorem value_assemble (hub : String) (info : ManagedClusterInfo) (cluster : ManagedCluster)
    (deployment : Except Error (Option ClusterDeployment)) (r : Record) :
    (assemble hub info (provisioningOf deployment).provenance
      (Capacity.derive cluster).value).value = some r ↔
      Complete info cluster ∧ r = published hub info cluster deployment := by
  unfold assemble
  simp only
  split
  · rename_i hcomplete
    have h : Complete info cluster := (isComplete_facts_iff info cluster).mp hcomplete
    rw [← record_eq_published hub h deployment]
    simp [h, eq_comm]
  · rename_i hcomplete
    rw [isComplete_facts_iff] at hcomplete
    simp [hcomplete]

/-- A cluster is published when it is found and complete, if no quantity ends the join. -/
theorem join_eq_some_iff (hub : String) (c : Companions) (info : ManagedClusterInfo)
    (r : Record) :
    (join hub c info).value = some r ↔
      ∃ cluster, (c.cluster info.name).value = .ok (some cluster) ∧ Complete info cluster ∧
        r = published hub info cluster (c.deployment info.name info.name).value := by
  unfold join
  simp only [Computation.value_bind, Computation.toTraced_lift]
  rcases (c.cluster info.name).value with e | _ | cluster
  · simp
  · simp
  · simp only [Computation.value_bind, Computation.toTraced_lift, value_provisioning,
      value_assemble]
    simp

/-- Of what a join does, only the capacity is arithmetic. -/
theorem overflowed_join (hub : String) (c : Companions) (info : ManagedClusterInfo) :
    (join hub c info).overflowed = true ↔
      ∃ cluster, (c.cluster info.name).value = .ok (some cluster) ∧ cluster.Overflows := by
  unfold join
  simp only [Computation.overflowed_bind, Computation.toTraced_lift, Computation.overflowed_lift,
    Bool.false_or]
  rcases (c.cluster info.name).value with e | _ | cluster
  · simp
  · simp
  · simp [Capacity.overflowed_derive]

theorem checked_join_eq_some_iff (hub : String) (c : Companions) (info : ManagedClusterInfo)
    (r : Record) :
    (join hub c info).checked = some (some r) ↔
      ∃ cluster, (c.cluster info.name).value = .ok (some cluster) ∧ ¬ cluster.Overflows ∧
        Complete info cluster ∧
        r = published hub info cluster (c.deployment info.name info.name).value := by
  rw [Computation.checked_eq_some_iff, ← Bool.not_eq_true, overflowed_join, join_eq_some_iff]
  constructor
  · rintro ⟨hends, cluster, hfound, h⟩
    exact ⟨cluster, hfound, fun hoverflows => hends ⟨cluster, hfound, hoverflows⟩, h⟩
  · rintro ⟨cluster, hfound, hkept, h⟩
    refine ⟨?_, cluster, hfound, h⟩
    rintro ⟨cluster', hfound', hoverflows⟩
    rw [hfound] at hfound'
    cases hfound'
    exact hkept hoverflows

theorem createdVia_published (hub : String) (info : ManagedClusterInfo) (cluster : ManagedCluster)
    (deployment : Except Error (Option ClusterDeployment)) :
    (published hub info cluster deployment).createdVia = .hive ↔ ∃ d, deployment = .ok (some d) := by
  rcases deployment with e | _ | d <;> simp [published]

end Join

/-- Answers that do not differ for a cluster: they give the same managed cluster, and both give a
deployment or neither does. -/
structure Companions.Alike (name : String) (c c' : Companions) : Prop where
  cluster : (c.cluster name).value = (c'.cluster name).value
  deployment : (∃ d, (c.deployment name name).value = .ok (some d)) ↔
    ∃ d, (c'.deployment name name).value = .ok (some d)

/-! ## What is asked -/

/-- Every question is recorded, and nothing else is. -/
structure Companions.Recorded (c : Companions) : Prop where
  cluster : ∀ name, (c.cluster name).lookups = [.cluster name]
  deployment : ∀ ns name, (c.deployment ns name).lookups = [.deployment ns name]

theorem Directory.recorded (d : Directory) : d.companions.Recorded :=
  ⟨fun _ => rfl, fun _ _ => rfl⟩

theorem Api.lookups_fetch {α : Type} (server : Http.Target → Api.Response) (k : Kind)
    (ns : Option String) (name : String) (decode : Untyped → Except Error α) :
    (fetch server k ns name decode).lookups = [] := by
  unfold fetch
  split
  · rfl
  · split <;> rfl
  · rfl

theorem Api.recorded (server : Http.Target → Api.Response) : (companions server).Recorded where
  cluster name := by simp [companions, lookups_fetch, Traced.lookup]
  deployment ns name := by simp [companions, lookups_fetch, Traced.lookup]

namespace Join

theorem lookups_provisioning (c : Companions) (name : String) :
    (provisioning c name).lookups = (c.deployment name name).lookups := by
  unfold provisioning
  simp only [Traced.lookups_bind]
  rcases (c.deployment name name).value with e | _ | d <;> simp

/-- The deployment is asked for only when the cluster was found. -/
theorem lookups_join (hub : String) (c : Companions) (info : ManagedClusterInfo) :
    (join hub c info).lookups = (c.cluster info.name).lookups ++
      match (c.cluster info.name).value with
      | .ok (some _) => (c.deployment info.name info.name).lookups
      | _ => [] := by
  unfold join
  simp only [Computation.lookups_bind, Computation.toTraced_lift, Traced.lookups_log,
    List.nil_append]
  rcases (c.cluster info.name).value with e | _ | cluster
  · simp
  · simp
  · have hassemble : ∀ via capacity, (assemble hub info via capacity).lookups = [] := by
      intro via capacity
      unfold assemble
      simp only
      split <;> rfl
    simp [lookups_provisioning, hassemble, Capacity.derive]

/-- **What is published is what is complete.** A record comes of the join exactly when the managed
cluster is found and enough is reported, and it says what is reported; the deployment decides how
the cluster came to be, and no answer about it stops the rest. Only a quantity that overflows does:
checked arithmetic ends the join of a cluster that reports one, and of no other, complete or not,
and arithmetic that wraps around publishes by what it comes to. What is asked for is the cluster,
and then the deployment if the cluster is there, and a server is asked nothing else. Of a report
that was read, no vendor is the same as an empty one. -/
theorem join_publishes_complete (hub : String) (c : Companions) (info : ManagedClusterInfo) :
    (∀ r, (join hub c info).checked = some (some r) ↔
      ∃ cluster, (c.cluster info.name).value = .ok (some cluster) ∧ ¬ cluster.Overflows ∧
        Complete info cluster ∧
        r = published hub info cluster (c.deployment info.name info.name).value) ∧
    ((join hub c info).checked = none ↔
      ∃ cluster, (c.cluster info.name).value = .ok (some cluster) ∧ cluster.Overflows) ∧
    (∀ r, (join hub c info).value = some r ↔
      ∃ cluster, (c.cluster info.name).value = .ok (some cluster) ∧ Complete info cluster ∧
        r = published hub info cluster (c.deployment info.name info.name).value) ∧
    (c.Recorded → (join hub c info).lookups =
      match (c.cluster info.name).value with
      | .ok (some _) => [.cluster info.name, .deployment info.name info.name]
      | _ => [.cluster info.name]) ∧
    (∀ server, (Api.companions server).Recorded) ∧
    (∀ o, ManagedClusterInfo.decode o = .ok info →
      (info.report.vendor = .unknown ↔ info.report.vendor.text = "") ∧
      (info.report.vendor = .openShift ↔ info.report.vendor.text = Vendor.openShiftName)) := by
  refine ⟨checked_join_eq_some_iff hub c info, ?_, join_eq_some_iff hub c info, fun hc => ?_,
    Api.recorded, fun o ho => ?_⟩
  · rw [Computation.checked_eq_none_iff, overflowed_join]
  · rw [lookups_join, hc.cluster, hc.deployment]
    rcases (c.cluster info.name).value with e | _ | cluster <;> rfl
  · have hvendor := ManagedClusterInfo.canonical_of_decode ho
    exact ⟨hvendor.eq_unknown_iff, hvendor.eq_openShift_iff⟩

/-! An imported cluster that reports no identifier and goes by its name. -/

def importedReport : Untyped where
  metadata := { name := some "c1", namespaceName := some "c1" }
  fields := [("spec", .object []), ("status", .object [("kubeVendor", .string "AKS"),
    ("cloudVendor", .string "Azure"), ("version", .string "v1.24.6")])]

def importedInfo : ManagedClusterInfo where
  metadata := importedReport.metadata
  spec := {}
  status := some { vendor := .other "AKS", cloud := "Azure", version := "v1.24.6" }

def importedObject : Untyped where
  metadata := { name := some "c1" }
  fields := [("spec", .object []),
    ("status", .object [("capacity", .object [("core", .string "lots"), ("cpu", .string "4")])])]

def importedCluster : ManagedCluster where
  metadata := importedObject.metadata
  spec := {}
  status := some { capacity := [("core", "lots"), ("cpu", "4")] }

def importedHub : Directory where
  clusters := [("c1", .object importedObject)]

/-- Nothing but the cpus of the cluster is wanting. -/
theorem complete_imported {cluster : ManagedCluster} (hcpu : cluster.reported "cpu" ≠ 0) :
    Complete importedInfo cluster where
  vendor := by decide
  cloud := by decide
  version := by decide
  identifier := Or.inr (by decide)
  cpu := hcpu
  workers := Or.inl fun ⟨_, hnode, _⟩ => by cases hnode

/-- No capacity is reported but a count that is no quantity and one that does not overflow. -/
theorem not_overflows_imported : ¬ importedCluster.Overflows := by
  rw [← Capacity.overflowed_derive]
  decide +kernel

theorem join_publishes_complete_imported :
    importedHub.companions.Recorded ∧
    ManagedClusterInfo.decode importedReport = .ok importedInfo ∧
    (importedInfo.report.vendor = .unknown ↔ importedInfo.report.vendor.text = "") ∧
    (join "hub" importedHub.companions importedInfo).checked =
      some (some ⟨"hub", "c1", "AKS", "Azure", "v1.24.6", .other, { cpu := 4 }⟩) ∧
    (join "hub" importedHub.companions importedInfo).lookups =
      [.cluster "c1", .deployment "c1" "c1"] := by
  obtain ⟨hrecord, -, -, hasked, -, hvendor⟩ :=
    join_publishes_complete "hub" importedHub.companions importedInfo
  have hdecode : ManagedClusterInfo.decode importedReport = .ok importedInfo := rfl
  have hfound : (importedHub.companions.cluster "c1").value = .ok (some importedCluster) := rfl
  have hpublished : (⟨"hub", "c1", "AKS", "Azure", "v1.24.6", .other, { cpu := 4 }⟩ : Record) =
      published "hub" importedInfo importedCluster (.ok none) := by decide +kernel
  exact ⟨Directory.recorded _, hdecode, (hvendor _ hdecode).1,
    (hrecord _).mpr ⟨importedCluster, hfound, not_overflows_imported,
      complete_imported (by decide +kernel), hpublished⟩,
    hasked (Directory.recorded _)⟩

/-- A cluster with a tenth of the least power of ten for its sockets. -/
def finelyCounted (name : String) : Untyped where
  metadata := { name := some name }
  fields := [("spec", .object []),
    ("status", .object [("capacity", .object [("cpu", .string "4"),
      ("socket", .string "0.1E-2147483648")])])]

def finelyCountedCluster : ManagedCluster where
  metadata := { name := some "c1" }
  spec := {}
  status := some { capacity := [("cpu", "4"), ("socket", "0.1E-2147483648")] }

def finelyCountedHub : Directory where
  clusters := [("c1", .object (finelyCounted "c1"))]

/-- The imported cluster with such sockets is complete, but checked arithmetic ends before a record
comes of it; arithmetic that wraps around publishes as many sockets as can be told. -/
theorem join_ends_of_finelyCounted :
    (finelyCountedHub.companions.cluster importedInfo.name).value =
      .ok (some finelyCountedCluster) ∧
    Complete importedInfo finelyCountedCluster ∧
    (join "hub" finelyCountedHub.companions importedInfo).checked = none ∧
    (join "hub" finelyCountedHub.companions importedInfo).value =
      some ⟨"hub", "c1", "AKS", "Azure", "v1.24.6", .other,
        { cpu := 4, socket := 2 ^ 63 - 1 }⟩ := by
  exact ⟨rfl, complete_imported (by decide +kernel), by decide +kernel, by decide +kernel⟩

end Join

end FleetExporter
