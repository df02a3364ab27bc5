import FleetExporter.Proofs.Watch.Overflow

/-! What an existing deployment decides. It makes its cluster one of the provisioner's only if its
specification can be read, although nothing of it is used; a deployment that cannot be read counts
as none. Between deployments that can be read there is no difference. -/
namespace FleetExporter

/-! ## Deployments that can be read -/

/-- What an optional text may stand as. -/
def Json.IsOptionalText (j : Json) : Prop := j = .null ∨ ∃ s, j = .string s

/-- A specification that can be read: its two texts where they are there, by key or by position. -/
def DeploymentSpec.Conforms : Json → Prop
  | .object entries =>
    ∀ e ∈ entries, e.1 = "clusterName" ∨ e.1 = "baseDomain" → e.2.IsOptionalText
  | .array items => items.length ≤ 2 ∧ ∀ j ∈ items, j.IsOptionalText
  | _ => False

/-- A deployment that can be read: there is a specification, and none that is not readable. -/
structure ClusterDeployment.Conforms (o : Untyped) : Prop where
  present : ∃ j, ("spec", j) ∈ o.fields
  readable : ∀ j, ("spec", j) ∈ o.fields → DeploymentSpec.Conforms j

namespace DeploymentSpec

theorem accepts_iff (key : String) (j : Json) :
    Field.Accepts fields key j ↔
      (key = "clusterName" ∨ key = "baseDomain" → j.IsOptionalText) := by
  simp only [fields, Field.accepts_cons, Field.key_make, Field.isOk_read_make,
    Reader.isOk_nullable_text, Field.accepts_nil, Json.IsOptionalText]
  by_cases hname : key = "clusterName" <;> by_cases hdomain : key = "baseDomain" <;>
    simp_all [eq_comm]

/-- Of an array, each item is read as the text of its place. -/
theorem isOk_places_iff (items : List Json) :
    (items.length ≤ fields.length ∧ ∀ p ∈ fields.zip items, (p.1.read p.2).isOk = true) ↔
      items.length ≤ 2 ∧ ∀ j ∈ items, j.IsOptionalText := by
  rcases items with _ | ⟨x, _ | ⟨y, _ | ⟨z, rest⟩⟩⟩
  · simp
  · simp [fields, Json.IsOptionalText, Reader.isOk_nullable_text]
  · simp only [fields, List.zip_cons_cons, List.zip_nil_left, List.forall_mem_cons,
      Field.isOk_read_make, Reader.isOk_nullable_text, Json.IsOptionalText]
    simp
  · simp [fields]

theorem isOk_read_iff (j : Json) : (read j).isOk = true ↔ Conforms j := by
  rw [read, Reader.isOk_record]
  cases j with
  | object entries => simp [Conforms, accepts_iff]
  | array items => simpa [Conforms] using isOk_places_iff items
  | null => simp [Conforms]
  | bool b => simp [Conforms]
  | integer n => simp [Conforms]
  | real x => simp [Conforms]
  | string s => simp [Conforms]

end DeploymentSpec

namespace ClusterDeployment

theorem isOk_decode_iff (o : Untyped) : (decode o).isOk = true ↔ Conforms o := by
  have hread : (decode o).isOk = (Parts.read fields o).isOk := by
    unfold decode
    cases Parts.read fields o <;> rfl
  have hspec : ∀ key j, Field.Accepts fields key j ↔
      (key = "spec" → DeploymentSpec.Conforms j) := by
    intro key j
    simp only [fields, Field.accepts_cons, Field.accepts_nil, Parts.specField, Field.key_make,
      Field.isOk_read_make, DeploymentSpec.isOk_read_iff]
    by_cases hkey : key = "spec" <;> simp_all [eq_comm]
  rw [hread, Parts.isOk_read (r := DeploymentSpec.read) rfl]
  · simp only [hspec]
    constructor
    · rintro ⟨hpresent, hreadable⟩
      obtain ⟨⟨key, j⟩, he, rfl⟩ := List.mem_map.mp hpresent
      exact ⟨⟨j, he⟩, fun j' hj' => hreadable ("spec", j') hj' rfl⟩
    · rintro ⟨⟨j, hj⟩, hreadable⟩
      refine ⟨List.mem_map.mpr ⟨("spec", j), hj, rfl⟩, ?_⟩
      rintro ⟨key, j'⟩ he rfl
      exact hreadable j' he
  · intro f hf
    obtain rfl := List.mem_singleton.mp hf
    exact Field.keeps_make fun _ _ _ _ _ => rfl
  · intro f hf hne
    obtain rfl := List.mem_singleton.mp hf
    exact absurd rfl hne

theorem exists_decode_iff (o : Untyped) : (∃ d, decode o = .ok d) ↔ Conforms o := by
  rw [← isOk_decode_iff]
  cases decode o <;> simp

end ClusterDeployment

/-! ## What a server says of a deployment -/

namespace Api

/-- A server gives the deployment of a cluster, in whatever form. -/
def Gives (server : Http.Target → Response) (name : String) (o : Untyped) : Prop :=
  getObject server .clusterDeployment (some name) name = .ok o

/-- Two servers that differ for a cluster in nothing but what its deployment holds, which can be
read. -/
structure SameExistence (name : String) (server server' : Http.Target → Response) : Prop where
  cluster : ((companions server).cluster name).value = ((companions server').cluster name).value
  deployment :
    getObject server .clusterDeployment (some name) name =
      getObject server' .clusterDeployment (some name) name ∨
    ∃ o o', Gives server name o ∧ Gives server' name o' ∧
      ClusterDeployment.Conforms o ∧ ClusterDeployment.Conforms o'

theorem value_deployment (server : Http.Target → Response) (ns name : String) :
    ((companions server).deployment ns name).value =
      (fetch server .clusterDeployment (some ns) name ClusterDeployment.decode).value := rfl

theorem value_cluster (server : Http.Target → Response) (name : String) :
    ((companions server).cluster name).value =
      (fetch server .managedCluster none name ManagedCluster.decode).value := rfl

theorem value_fetch_congr {α : Type} {server server' : Http.Target → Response} {k : Kind}
    {ns : Option String} {name : String} (h : getObject server k ns name =
      getObject server' k ns name) (decode : Untyped → Except Error α) :
    (fetch server k ns name decode).value = (fetch server' k ns name decode).value := by
  unfold fetch
  rw [h]

theorem value_deployment_of_gives {server : Http.Target → Response} {name : String} {o : Untyped}
    (h : Gives server name o) : ((companions server).deployment name name).value =
      (ClusterDeployment.decode o).map some := by
  rw [Gives] at h
  rw [value_deployment, fetch, h]
  rfl

/-- A deployment that is given is found when it can be read. -/
theorem found_iff_of_gives {server : Http.Target → Response} {name : String} {o : Untyped}
    (h : Gives server name o) :
    (∃ d, ((companions server).deployment name name).value = .ok (some d)) ↔
      ClusterDeployment.Conforms o := by
  rw [value_deployment_of_gives h, ← ClusterDeployment.exists_decode_iff]
  cases ClusterDeployment.decode o <;> simp [Except.map]

theorem SameExistence.alike {name : String} {server server' : Http.Target → Response}
    (h : SameExistence name server server') :
    (companions server).Alike name (companions server') := by
  refine ⟨h.cluster, ?_⟩
  rcases h.deployment with heq | ⟨o, o', ho, ho', hconforms, hconforms'⟩
  · rw [value_deployment, value_deployment, value_fetch_congr heq]
  · rw [found_iff_of_gives ho, found_iff_of_gives ho']
    exact ⟨fun _ => hconforms', fun _ => hconforms⟩

end Api

namespace Watch

open Api

/-- A delivery that is taken while one of two servers answers. -/
structure Choice where
  one : Http.Target → Response
  other : Http.Target → Response
  delivery : Delivery

/-- **A deployment counts when it can be read.** A complete cluster whose deployment is given by the
server is published, whatever the deployment holds, in checked arithmetic if no quantity overflows;
but it is published as one of the provisioner's only if there is a specification in it that can be
read. What else such deployments hold is never seen in what is stored, nor in whether checked
arithmetic comes to a store. -/
theorem createdVia_of_existing_deployment (hub : String) :
    (∀ server info cluster o,
      ((companions server).cluster info.name).value = .ok (some cluster) →
      Complete info cluster → Gives server info.name o →
      ∃ r, (Join.join hub (companions server) info).value = some r ∧
        (¬ cluster.Overflows →
          (Join.join hub (companions server) info).checked = some (some r)) ∧
        (r.createdVia = .hive ↔ ClusterDeployment.Conforms o)) ∧
    ∀ scope (choices : List Choice),
      (∀ e ∈ choices, ∀ o, e.delivery.object? = some o →
        SameExistence o.metadata.nameAny e.one e.other) →
      exported hub scope (choices.map fun e => ⟨companions e.one, e.delivery⟩) =
        exported hub scope (choices.map fun e => ⟨companions e.other, e.delivery⟩) ∧
      exported? hub scope (choices.map fun e => ⟨companions e.one, e.delivery⟩) =
        exported? hub scope (choices.map fun e => ⟨companions e.other, e.delivery⟩) := by
  refine ⟨fun server info cluster o hcluster hcomplete hgives => ?_, fun scope choices hsame => ?_⟩
  · refine ⟨_, (Join.join_eq_some_iff _ _ _ _).mpr ⟨cluster, hcluster, hcomplete, rfl⟩,
      fun hkept => (Join.checked_join_eq_some_iff _ _ _ _).mpr
        ⟨cluster, hcluster, hkept, hcomplete, rfl⟩, ?_⟩
    rw [Join.createdVia_published, found_iff_of_gives hgives]
  · refine exported_congr ?_
    rw [List.forall₂_map_left_iff, List.forall₂_map_right_iff, List.forall₂_same]
    exact fun e he => .of_alike rfl fun o ho => (hsame e he o ho).alike

/-! A hub with one imported cluster and a deployment of its name. -/

def clusterText : String :=
  "\x7b\"metadata\":\x7b\"name\":\"c1\"\x7d,\"spec\":\x7b\x7d," ++
    "\"status\":\x7b\"capacity\":\x7b\"core\":\"lots\",\"cpu\":\"4\"\x7d\x7d\x7d"

def deploymentText (name : String) : String :=
  "\x7b\"metadata\":\x7b\"name\":\"c1\"\x7d,\"spec\":\x7b\"clusterName\":" ++ name ++ "\x7d\x7d"

def deploymentTarget : Http.Target where
  path := "/apis/hive.openshift.io/v1/namespaces/c1/clusterdeployments/c1"

/-- The deployment gives the name of its cluster as a JSON text. -/
def hubNaming (name : String) (target : Http.Target) : Response :=
  if target = deploymentTarget then .answered 200 (deploymentText name)
  else .answered 200 clusterText

/-- A deployment whose name of the cluster is a number is there, and does not count; if it is a text
or null, it counts. -/
theorem createdVia_of_numbered_deployment :
    (getObject (hubNaming "5") .clusterDeployment (some "c1") "c1").isOk = true ∧
    (Join.join "hub" (companions (hubNaming "5")) Join.importedInfo).value =
      some ⟨"hub", "c1", "AKS", "Azure", "v1.24.6", .other, { cpu := 4 }⟩ ∧
    (Join.join "hub" (companions (hubNaming "null")) Join.importedInfo).value =
      some ⟨"hub", "c1", "AKS", "Azure", "v1.24.6", .hive, { cpu := 4 }⟩ := by
  decide +kernel

theorem getObject_cluster_hubNaming (name name' : String) :
    getObject (hubNaming name) .managedCluster none "c1" =
      getObject (hubNaming name') .managedCluster none "c1" := by
  have htarget : objectTarget .managedCluster none "c1" =
      .ok ⟨"/apis/cluster.open-cluster-management.io/v1/managedclusters/c1", none⟩ := by
    decide +kernel
  have hother : (⟨"/apis/cluster.open-cluster-management.io/v1/managedclusters/c1", none⟩ :
      Http.Target) ≠ deploymentTarget := by decide +kernel
  simp only [getObject, htarget, hubNaming, if_neg hother]

theorem exists_conforming_of_found (server : Http.Target → Response) (name : String)
    (h : (match getObject server .clusterDeployment (some name) name with
      | .ok o => (ClusterDeployment.decode o).isOk
      | .error _ => false) = true) :
    ∃ o, Gives server name o ∧ ClusterDeployment.Conforms o := by
  split at h
  · rename_i o ho
    exact ⟨o, ho, (ClusterDeployment.isOk_decode_iff o).mp h⟩
  · cases h

theorem exists_complete_of_found (server : Http.Target → Response)
    (h : (match ((companions server).cluster "c1").value with
      | .ok (some cluster) =>
        cluster.reported "cpu" != 0 && !(Capacity.derive cluster).overflowed
      | _ => false) = true) :
    ∃ cluster, ((companions server).cluster "c1").value = .ok (some cluster) ∧
      Complete Join.importedInfo cluster ∧ ¬ cluster.Overflows := by
  split at h
  · rename_i cluster hcluster
    rw [Bool.and_eq_true, Bool.not_eq_true'] at h
    refine ⟨cluster, hcluster, Join.complete_imported (by simpa using h.1), ?_⟩
    rw [← Capacity.overflowed_derive, h.2]
    exact Bool.false_ne_true
  · cases h

theorem createdVia_of_readable_deployment :
    (∃ o cluster, ((companions (hubNaming "null")).cluster "c1").value = .ok (some cluster) ∧
      Complete Join.importedInfo cluster ∧ Gives (hubNaming "null") "c1" o ∧
      ¬ cluster.Overflows ∧
      ∃ r, (Join.join "hub" (companions (hubNaming "null")) Join.importedInfo).checked =
        some (some r) ∧ r.createdVia = .hive) ∧
    SameExistence "c1" (hubNaming "null") (hubNaming "\"c2\"") ∧
    exported "hub" "" [⟨companions (hubNaming "null"), .ok (.changed Join.importedReport)⟩] =
      exported "hub" ""
        [⟨companions (hubNaming "\"c2\""), .ok (.changed Join.importedReport)⟩] := by
  obtain ⟨hrecord, hstore⟩ := createdVia_of_existing_deployment "hub"
  obtain ⟨o, ho, hconforms⟩ :=
    exists_conforming_of_found (hubNaming "null") "c1" (by decide +kernel)
  obtain ⟨o', ho', hconforms'⟩ :=
    exists_conforming_of_found (hubNaming "\"c2\"") "c1" (by decide +kernel)
  obtain ⟨cluster, hcluster, hcomplete, hkept⟩ :=
    exists_complete_of_found (hubNaming "null") (by decide +kernel)
  obtain ⟨r, -, hr, hvia⟩ := hrecord _ Join.importedInfo cluster o hcluster hcomplete ho
  have hsame : SameExistence "c1" (hubNaming "null") (hubNaming "\"c2\"") := by
    refine ⟨?_, Or.inr ⟨o, o', ho, ho', hconforms, hconforms'⟩⟩
    rw [value_cluster, value_cluster]
    exact value_fetch_congr (getObject_cluster_hubNaming _ _) _
  refine ⟨⟨o, cluster, hcluster, hcomplete, ho, hkept, r, hr hkept, hvia.mpr hconforms⟩, hsame,
    ?_⟩
  have hstores := hstore ""
    [⟨hubNaming "null", hubNaming "\"c2\"", .ok (.changed Join.importedReport)⟩]
  rw [List.map_singleton, List.map_singleton] at hstores
  refine (hstores ?_).1
  intro e he o hobject
  obtain rfl := List.mem_singleton.mp he
  obtain rfl : Join.importedReport = o := Option.some.inj hobject
  exact hsame

end Watch

end FleetExporter
