import FleetExporter.Proofs.Publication
import FleetExporter.Proofs.Watch.Step

/-! What the join does not see. Of a report it reads five facts, of a managed cluster the texts of
six quantities, and of a deployment that it is there: reports and answers that agree in these are
joined to the same record, or to none. -/
namespace FleetExporter

/-! ## What is read -/

/-- Reports of which the join reads the same; without a vendor it reads no version. -/
structure InfoStatus.Resembles (s s' : InfoStatus) : Prop where
  clusterId_eq : s.clusterId = s'.clusterId
  vendor_eq : s.vendor = s'.vendor
  cloud_eq : s.cloud = s'.cloud
  version_eq : s.vendor ≠ .unknown → s.selectedVersion = s'.selectedVersion
  hasWorker_iff : s.HasWorker ↔ s'.HasWorker

/-- The text given for each resource that is counted. -/
def ManagedCluster.texts (cluster : ManagedCluster) (r : Resource) : Option String :=
  cluster.quantity? r.name

/-- The companion that an answer gives; a search that failed gives none. -/
def Companions.given? {α : Type} : Except Error (Option α) → Option α
  | .ok a => a
  | .error _ => none

/-- Answers about one name of which the join reads the same. -/
structure Companions.Resemble (name : String) (c c' : Companions) : Prop where
  cluster_eq : (given? (c.cluster name).value).map ManagedCluster.texts =
    (given? (c'.cluster name).value).map ManagedCluster.texts
  deployment_eq : (given? (c.deployment name name).value).isSome =
    (given? (c'.deployment name name).value).isSome

/-- Objects of one namespace and one name. -/
structure Untyped.Namesake (o o' : Untyped) : Prop where
  namespace_eq : o.metadata.namespaceName.getD "" = o'.metadata.namespaceName.getD ""
  nameAny_eq : o.metadata.nameAny = o'.metadata.nameAny

/-- Objects that both decode or both do not, and of which the join reads the same if they do. -/
structure Untyped.Resembles (o o' : Untyped) : Prop extends o.Namesake o' where
  decodes_eq : o.decodes = o'.decodes
  report : ∀ info info', ManagedClusterInfo.decode o = .ok info →
    ManagedClusterInfo.decode o' = .ok info' → info.report.Resembles info'.report

theorem InfoStatus.Resembles.symm {s s' : InfoStatus} (h : s.Resembles s') : s'.Resembles s where
  clusterId_eq := h.clusterId_eq.symm
  vendor_eq := h.vendor_eq.symm
  cloud_eq := h.cloud_eq.symm
  version_eq hvendor := (h.version_eq (h.vendor_eq ▸ hvendor)).symm
  hasWorker_iff := h.hasWorker_iff.symm

theorem Untyped.Resembles.refl (o : Untyped) : o.Resembles o where
  namespace_eq := rfl
  nameAny_eq := rfl
  decodes_eq := rfl
  report info info' h h' := by
    obtain rfl : info = info' := Except.ok.inj (h.symm.trans h')
    exact ⟨rfl, rfl, rfl, fun _ => rfl, Iff.rfl⟩

/-- Resembling objects fail to decode both, or as views that differ in nothing the join reads. -/
theorem Untyped.Resembles.decode_cases {o o' : Untyped} (h : o.Resembles o') :
    (∃ e e', ManagedClusterInfo.decode o = .error e ∧ ManagedClusterInfo.decode o' = .error e') ∨
    ∃ info info', ManagedClusterInfo.decode o = .ok info ∧
      ManagedClusterInfo.decode o' = .ok info' ∧ info.name = o.metadata.nameAny ∧
      info.name = info'.name ∧ info.report.Resembles info'.report := by
  have hdecodes := h.decodes_eq
  unfold Untyped.decodes at hdecodes
  cases ho : ManagedClusterInfo.decode o with
  | error e =>
    cases ho' : ManagedClusterInfo.decode o' with
    | error e' => exact Or.inl ⟨e, e', rfl, rfl⟩
    | ok info' => simp [ho, ho'] at hdecodes
  | ok info =>
    cases ho' : ManagedClusterInfo.decode o' with
    | error e' => simp [ho, ho'] at hdecodes
    | ok info' =>
      have hname := ManagedClusterInfo.name_of_decode ho
      have hname' := ManagedClusterInfo.name_of_decode ho'
      exact Or.inr ⟨info, info', rfl, rfl, hname, hname.trans (h.nameAny_eq.trans hname'.symm),
        h.report info info' ho ho'⟩

theorem Untyped.Namesake.key_eq {o o' : Untyped} (h : o.Namesake o') : o.key = o'.key := by
  simp only [Untyped.key, Metadata.key, h.namespace_eq, h.nameAny_eq]

namespace Companions

theorem given?_eq_some_iff {α : Type} {x : Except Error (Option α)} {a : α} :
    given? x = some a ↔ x = .ok (some a) := by
  cases x <;> simp [given?]

theorem isSome_given?_iff {α : Type} {x : Except Error (Option α)} :
    (given? x).isSome = true ↔ ∃ a, x = .ok (some a) := by
  simp only [Option.isSome_iff_exists, given?_eq_some_iff]

variable {name : String} {c c' : Companions}

theorem Alike.resemble (h : c.Alike name c') : c.Resemble name c' where
  cluster_eq := by rw [h.cluster]
  deployment_eq := by
    rw [Bool.eq_iff_iff, isSome_given?_iff, isSome_given?_iff]
    exact h.deployment

theorem Resemble.symm (h : c.Resemble name c') : c'.Resemble name c :=
  ⟨h.cluster_eq.symm, h.deployment_eq.symm⟩

/-- A managed cluster that one run finds is found in the other, with the same texts. -/
theorem Resemble.exists_cluster (h : c.Resemble name c') {cluster : ManagedCluster}
    (hcluster : (c.cluster name).value = .ok (some cluster)) :
    ∃ cluster', (c'.cluster name).value = .ok (some cluster') ∧
      cluster'.texts = cluster.texts := by
  have htexts := h.cluster_eq
  rw [given?_eq_some_iff.mpr hcluster, Option.map_some] at htexts
  obtain ⟨cluster', hgiven, heq⟩ := Option.map_eq_some_iff.mp htexts.symm
  exact ⟨cluster', given?_eq_some_iff.mp hgiven, heq⟩

end Companions

/-! ## What is published -/

theorem ManagedCluster.reported_of_texts {cluster cluster' : ManagedCluster}
    (h : cluster.texts = cluster'.texts) (r : Resource) :
    cluster.reported r.name = cluster'.reported r.name := by
  have htext : cluster.quantity? r.name = cluster'.quantity? r.name := congrFun h r
  rw [reported, reported, htext]

theorem ManagedCluster.overflows_congr {cluster cluster' : ManagedCluster}
    (h : cluster.texts = cluster'.texts) : cluster.Overflows ↔ cluster'.Overflows := by
  have htext : ∀ r : Resource, cluster.quantity? r.name = cluster'.quantity? r.name := congrFun h
  simp only [Overflows, htext]

variable {info info' : ManagedClusterInfo} {cluster cluster' : ManagedCluster}

theorem Complete.of_resembles (hname : info.name = info'.name)
    (hreport : info.report.Resembles info'.report) (htexts : cluster.texts = cluster'.texts)
    (h : Complete info cluster) : Complete info' cluster' where
  vendor := hreport.vendor_eq ▸ h.vendor
  cloud := hreport.cloud_eq ▸ h.cloud
  version := hreport.version_eq h.vendor ▸ h.version
  identifier := by
    rw [← hreport.clusterId_eq, ← hreport.vendor_eq, ← hname]
    exact h.identifier
  cpu := ManagedCluster.reported_of_texts htexts .cpu ▸ h.cpu
  workers := by
    have hworkers : cluster.reported "cpu_worker" = cluster'.reported "cpu_worker" :=
      ManagedCluster.reported_of_texts htexts .cpuWorker
    rw [← hreport.hasWorker_iff, ← hworkers]
    exact h.workers

namespace Join

theorem capacity_published (hub : String) (info : ManagedClusterInfo) (cluster : ManagedCluster)
    (deployment : Except Error (Option ClusterDeployment)) :
    (published hub info cluster deployment).capacity =
      .ofCounts fun r => cluster.reported r.name := rfl

theorem published_of_resembles (hub : String) (hname : info.name = info'.name)
    (hreport : info.report.Resembles info'.report) (hvendor : info.report.vendor ≠ .unknown)
    (htexts : cluster.texts = cluster'.texts)
    {deployment deployment' : Except Error (Option ClusterDeployment)}
    (hdeployment : (Companions.given? deployment).isSome =
      (Companions.given? deployment').isSome) :
    published hub info cluster deployment = published hub info' cluster' deployment' := by
  have hid : (published hub info cluster deployment).managedClusterId =
      (published hub info' cluster' deployment').managedClusterId := by
    simp only [published, hreport.clusterId_eq, hname]
  have hvia : (published hub info cluster deployment).createdVia =
      (published hub info' cluster' deployment').createdVia := by
    rcases deployment with e | _ | d <;> rcases deployment' with e' | _ | d' <;>
      first | rfl | cases hdeployment
  have hcapacity : (published hub info cluster deployment).capacity =
      (published hub info' cluster' deployment').capacity := by
    simp only [capacity_published, ManagedCluster.reported_of_texts htexts]
  have htext : info.report.vendor.text = info'.report.vendor.text := by rw [hreport.vendor_eq]
  unfold published
  rw [Record.mk.injEq]
  exact ⟨rfl, hid, htext, hreport.cloud_eq, hreport.version_eq hvendor, hvia, hcapacity⟩

theorem join_eq_some_of_resembles {hub : String} {c c' : Companions} {r : Record}
    (hname : info.name = info'.name) (hreport : info.report.Resembles info'.report)
    (hanswers : c.Resemble info.name c') (h : (join hub c info).value = some r) :
    (join hub c' info').value = some r := by
  obtain ⟨cluster, hcluster, hcomplete, rfl⟩ := (join_eq_some_iff hub c info r).mp h
  obtain ⟨cluster', hcluster', htexts⟩ := hanswers.exists_cluster hcluster
  refine (join_eq_some_iff hub c' info' _).mpr ⟨cluster', ?_, ?_, ?_⟩
  · rw [← hname]
    exact hcluster'
  · exact hcomplete.of_resembles hname hreport htexts.symm
  · rw [← hname]
    exact published_of_resembles hub hname hreport hcomplete.vendor htexts.symm
      hanswers.deployment_eq

/-- Reports and answers that the join cannot tell apart are joined to the same record, or none. -/
theorem value_join_of_resembles (hub : String) {c c' : Companions} (hname : info.name = info'.name)
    (hreport : info.report.Resembles info'.report) (hanswers : c.Resemble info.name c') :
    (join hub c info).value = (join hub c' info').value := by
  refine Option.ext fun r => ⟨join_eq_some_of_resembles hname hreport hanswers,
    join_eq_some_of_resembles hname.symm hreport.symm ?_⟩
  rw [← hname]
  exact hanswers.symm

theorem overflowed_join_of_resemble {hub : String} {c c' : Companions}
    (hname : info.name = info'.name) (hanswers : c.Resemble info.name c')
    (h : (join hub c info).overflowed = true) : (join hub c' info').overflowed = true := by
  obtain ⟨cluster, hcluster, hoverflows⟩ := (overflowed_join hub c info).mp h
  obtain ⟨cluster', hcluster', htexts⟩ := hanswers.exists_cluster hcluster
  refine (overflowed_join hub c' info').mpr ⟨cluster', ?_, ?_⟩
  · rw [← hname]
    exact hcluster'
  · exact (ManagedCluster.overflows_congr htexts).mpr hoverflows

/-- Checked arithmetic ends both joins or neither. -/
theorem overflowed_join_congr (hub : String) {c c' : Companions} (hname : info.name = info'.name)
    (hanswers : c.Resemble info.name c') :
    (join hub c info).overflowed = (join hub c' info').overflowed := by
  rw [Bool.eq_iff_iff]
  refine ⟨overflowed_join_of_resemble hname hanswers,
    overflowed_join_of_resemble hname.symm ?_⟩
  rw [← hname]
  exact hanswers.symm

end Join

end FleetExporter
