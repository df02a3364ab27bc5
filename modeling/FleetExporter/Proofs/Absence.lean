import FleetExporter.Proofs.Decoding
import FleetExporter.Proofs.Deployment
import FleetExporter.Proofs.HubIdentity

/-! When a companion counts as missing. That there is no such object is told by the reason that an
answer gives, and an answer that refuses the request with the code of a missing object but another
reason, or with no reason that can be read, counts as a search that failed. Both spare the cluster
the same: no sample, or one that is of no provisioner. -/
namespace FleetExporter

namespace Api

/-! ## Answers -/

/-- An answer refuses the request, with a status that its body holds. -/
def States (r : Response) (status : ApiStatus) : Prop :=
  ∃ code body, r = .answered code body ∧ isRefusal code = true ∧ statusOf? body = some status

/-- An answer gives as the reason that there is no such object. -/
def SaysNotFound (r : Response) : Prop := ∃ status, States r status ∧ status.reason = "NotFound"

/-- An answer bears the code of a missing object and does not give that as the reason: the status in
its body says otherwise, or there is none in it. -/
def OnlyCoded (r : Response) : Prop :=
  (∃ status, States r status ∧ status.code = 404 ∧ status.reason ≠ "NotFound") ∨
    ∃ body, r = .answered 404 body ∧ statusOf? body = none

theorem refusal_of_status {body : String} {status : ApiStatus} (h : statusOf? body = some status)
    (code : Nat) : refusal code body = status := by
  rw [refusal, h, Option.getD_some]

theorem reason_refusal_of_none {body : String} (h : statusOf? body = none) (code : Nat) :
    (refusal code body).reason = "Failed to parse error data" := by
  rw [refusal, h, Option.getD_none]

theorem code_refusal_of_none {body : String} (h : statusOf? body = none) (code : Nat) :
    (refusal code body).code = code := by
  rw [refusal, h, Option.getD_none]

theorem decodeAnswer_eq_refused_iff {α : Type} (reader : Reader α) (r : Response)
    (status : ApiStatus) : decodeAnswer reader r = .error (.refused status) ↔
      ∃ code body, r = .answered code body ∧ isRefusal code = true ∧
        refusal code body = status := by
  cases r with
  | failed reason => simp [decodeAnswer]
  | answered code body =>
    by_cases hcode : isRefusal code = true
    · simp [decodeAnswer, hcode]
    · cases hread : reader.ofText body <;> simp [decodeAnswer, hcode, hread]

theorem saysNotFound_iff {α : Type} (reader : Reader α) (r : Response) :
    SaysNotFound r ↔
      ∃ status, decodeAnswer reader r = .error (.refused status) ∧ status.reason = "NotFound" := by
  simp only [decodeAnswer_eq_refused_iff]
  constructor
  · rintro ⟨status, ⟨code, body, rfl, hcode, hstatus⟩, hreason⟩
    exact ⟨status, ⟨code, body, rfl, hcode, refusal_of_status hstatus code⟩, hreason⟩
  · rintro ⟨status, ⟨code, body, rfl, hcode, rfl⟩, hreason⟩
    cases hbody : statusOf? body with
    | none =>
      rw [reason_refusal_of_none hbody] at hreason
      exact absurd hreason (by decide)
    | some status =>
      rw [refusal_of_status hbody] at hreason
      exact ⟨status, ⟨code, body, rfl, hcode, hbody⟩, hreason⟩

theorem onlyCoded_iff {α : Type} (reader : Reader α) (r : Response) :
    OnlyCoded r ↔ ∃ status, decodeAnswer reader r = .error (.refused status) ∧
      status.code = 404 ∧ status.reason ≠ "NotFound" := by
  simp only [decodeAnswer_eq_refused_iff]
  constructor
  · rintro (⟨status, ⟨code, body, rfl, hcode, hstatus⟩, h⟩ | ⟨body, rfl, hbody⟩)
    · exact ⟨status, ⟨code, body, rfl, hcode, refusal_of_status hstatus code⟩, h⟩
    · refine ⟨_, ⟨404, body, rfl, by decide, rfl⟩, code_refusal_of_none hbody 404, ?_⟩
      rw [reason_refusal_of_none hbody]
      decide
  · rintro ⟨status, ⟨code, body, rfl, hcode, rfl⟩, h404, hreason⟩
    cases hbody : statusOf? body with
    | none =>
      rw [code_refusal_of_none hbody] at h404
      exact Or.inr ⟨body, by rw [h404], hbody⟩
    | some status =>
      rw [refusal_of_status hbody] at h404 hreason
      exact Or.inl ⟨status, ⟨code, body, rfl, hcode, hbody⟩, h404, hreason⟩

/-! ## Lookups -/

/-- There is a request for an object, and the answer to it has a property. -/
def Answers (server : Http.Target → Response) (k : Kind) (ns : Option String) (name : String)
    (p : Response → Prop) : Prop :=
  ∃ target, objectTarget k ns name = .ok target ∧ p (server target)

section

variable {server : Http.Target → Response} {k : Kind} {ns : Option String} {name : String}

theorem objectTarget_ne_refused (status : ApiStatus) :
    objectTarget k ns name ≠ .error (.refused status) := by
  unfold objectTarget
  split
  · exact fun h => by cases h
  · split <;> exact fun h => by cases h

theorem getObject_eq_refused_iff {status : ApiStatus} :
    getObject server k ns name = .error (.refused status) ↔
      Answers server k ns name fun r => decodeAnswer Untyped.read r = .error (.refused status) := by
  unfold getObject Answers
  cases htarget : objectTarget k ns name with
  | ok target => simp
  | error e =>
    have hne : e ≠ .refused status := by
      rintro rfl
      exact objectTarget_ne_refused status htarget
    simp [hne]

theorem exists_refused_iff {p : ApiStatus → Prop} :
    (∃ status, getObject server k ns name = .error (.refused status) ∧ p status) ↔
      Answers server k ns name fun r =>
        ∃ status, decodeAnswer Untyped.read r = .error (.refused status) ∧ p status := by
  simp only [getObject_eq_refused_iff, Answers]
  constructor
  · rintro ⟨status, ⟨target, htarget, hstatus⟩, hp⟩
    exact ⟨target, htarget, status, hstatus, hp⟩
  · rintro ⟨target, htarget, status, hstatus, hp⟩
    exact ⟨status, ⟨target, htarget, hstatus⟩, hp⟩

variable {View : Type} {decode : Untyped → Except Error View}

theorem value_fetch_eq (server : Http.Target → Response) (k : Kind) (ns : Option String)
    (name : String) (decode : Untyped → Except Error View) :
    (fetch server k ns name decode).value =
      match getObject server k ns name with
      | .ok o => (decode o).map some
      | .error (.refused status) =>
        if status.reason = "NotFound" then .ok none else .error (.request (.refused status))
      | .error e => .error (.request e) := by
  unfold fetch
  cases getObject server k ns name with
  | ok o => rfl
  | error e =>
    cases e with
    | refused status => by_cases hreason : status.reason = "NotFound" <;> simp [hreason]
    | _ => rfl

/-- A lookup finds that there is nothing exactly when the answer gives this as its reason. -/
theorem fetch_eq_none_iff : (fetch server k ns name decode).value = .ok none ↔
    Answers server k ns name SaysNotFound := by
  have hanswer : Answers server k ns name SaysNotFound ↔
      ∃ status, getObject server k ns name = .error (.refused status) ∧
        status.reason = "NotFound" := by
    rw [exists_refused_iff]
    simp only [Answers, saysNotFound_iff Untyped.read]
  rw [hanswer, value_fetch_eq]
  cases getObject server k ns name with
  | ok o => cases hview : decode o <;> simp [hview, Except.map]
  | error e =>
    cases e with
    | refused status => simp
    | _ => simp

/-- The error of a lookup says that the object is missing exactly when the answer bears this code
and gives another reason. -/
theorem fetch_isNotFound_iff (hdecode : ∀ o e, decode o = .error e → e.isNotFound = false) :
    (∃ e, (fetch server k ns name decode).value = .error e ∧ e.isNotFound = true) ↔
      Answers server k ns name OnlyCoded := by
  have hanswer : Answers server k ns name OnlyCoded ↔
      ∃ status, getObject server k ns name = .error (.refused status) ∧
        status.code = 404 ∧ status.reason ≠ "NotFound" := by
    rw [exists_refused_iff]
    simp only [Answers, onlyCoded_iff Untyped.read]
  rw [hanswer, value_fetch_eq]
  cases getObject server k ns name with
  | ok o =>
    cases hview : decode o with
    | ok view => simp [hview, Except.map]
    | error e => simp [hview, Except.map, hdecode o e hview]
  | error e =>
    cases e with
    | refused status =>
      by_cases hreason : status.reason = "NotFound" <;>
        simp [hreason, Error.isNotFound]
    | _ => simp [Error.isNotFound]

end

/-- That an object cannot be decoded is never taken for its absence. -/
theorem isNotFound_of_decode {View : Type} {k : Kind} {schema : List (String × Shape)}
    {decode : Untyped → Except Error View} {of : Untyped → View} (h : k.DecodesBy schema decode of)
    (o : Untyped) (e : Error) (he : decode o = .error e) : e.isNotFound = false := by
  have hrefused : ¬ o.Conforms schema := by
    intro hconforms
    have hok := (h.decodes o (of o)).mpr ⟨hconforms, rfl⟩
    rw [he] at hok
    cases hok
  obtain ⟨m, hm⟩ := h.refuses o hrefused
  obtain rfl := Except.error.inj (he.symm.trans hm)
  rfl

theorem cluster_isNotFound_iff (server : Http.Target → Response) (name : String) :
    (∃ e, ((companions server).cluster name).value = .error e ∧ e.isNotFound = true) ↔
      Answers server .managedCluster none name OnlyCoded :=
  fetch_isNotFound_iff (isNotFound_of_decode ManagedCluster.decodesBy)

theorem deployment_isNotFound_iff (server : Http.Target → Response) (ns name : String) :
    (∃ e, ((companions server).deployment ns name).value = .error e ∧ e.isNotFound = true) ↔
      Answers server .clusterDeployment (some ns) name OnlyCoded :=
  fetch_isNotFound_iff (isNotFound_of_decode ClusterDeployment.decodesBy)

/-- Who looks for the hub itself takes the code alone for word that there is no object. -/
theorem OnlyCoded.isMissing {r : Response} (h : OnlyCoded r) : HubIdentity.IsMissing r := by
  obtain ⟨status, hstatus, hcode, -⟩ := (onlyCoded_iff Untyped.read r).mp h
  refine ⟨status, ?_, hcode⟩
  rw [HubIdentity.request, hstatus]
  rfl

end Api

/-! ## What comes of a failed search -/

namespace Join

variable {c : Companions} {e : Error}

theorem join_of_error (hub : String) {info : ManagedClusterInfo}
    (h : (c.cluster info.name).value = .error e) :
    (join hub c info).checked = some none ∧
      ⟨.error, "failed to fetch ManagedCluster, skipping", [("error", e.message)]⟩ ∈
        (join hub c info).logs := by
  unfold join
  rw [Computation.checked_eq_some_iff]
  simp only [Computation.value_bind, Computation.overflowed_bind, Computation.logs_bind,
    Computation.toTraced_lift, h]
  simp [Traced.log]

theorem provisioning_of_error {name : String} (h : (c.deployment name name).value = .error e) :
    (provisioning c name).value = .unavailable ∧
      ⟨.warn, "failed to fetch ClusterDeployment, assuming other means", [("error", e.message)]⟩ ∈
        (provisioning c name).logs := by
  unfold provisioning
  simp only [Traced.value_bind, Traced.logs_bind, h]
  simp [Traced.log]

end Join

namespace Api

/-- **A missing object is told by its reason.** A companion is not found exactly when the answer
gives this as its reason. An error that itself says that the object is missing comes of just those
answers that bear the code of a missing object and not its reason. Of them the search for the hub
makes out that there is no object, but a cluster is given up as one that could not be fetched, and
a deployment is taken for one that is not available. -/
theorem missing_told_by_reason (server : Http.Target → Response) :
    (∀ name,
      (((companions server).cluster name).value = .ok none ↔
        Answers server .managedCluster none name SaysNotFound) ∧
      ((∃ e, ((companions server).cluster name).value = .error e ∧ e.isNotFound = true) ↔
        Answers server .managedCluster none name OnlyCoded)) ∧
    (∀ ns name,
      (((companions server).deployment ns name).value = .ok none ↔
        Answers server .clusterDeployment (some ns) name SaysNotFound) ∧
      ((∃ e, ((companions server).deployment ns name).value = .error e ∧ e.isNotFound = true) ↔
        Answers server .clusterDeployment (some ns) name OnlyCoded)) ∧
    (∀ hub info, Answers server .managedCluster none info.name OnlyCoded →
      (Join.join hub (companions server) info).checked = some none ∧
      ∃ e : Error, e.isNotFound = true ∧
        ⟨.error, "failed to fetch ManagedCluster, skipping", [("error", e.message)]⟩ ∈
          (Join.join hub (companions server) info).logs) ∧
    (∀ name, Answers server .clusterDeployment (some name) name OnlyCoded →
      (Join.provisioning (companions server) name).value = .unavailable ∧
      ∃ e : Error, e.isNotFound = true ∧
        ⟨.warn, "failed to fetch ClusterDeployment, assuming other means",
          [("error", e.message)]⟩ ∈ (Join.provisioning (companions server) name).logs) ∧
    ∀ r, OnlyCoded r → HubIdentity.IsMissing r := by
  refine ⟨fun name => ⟨fetch_eq_none_iff, cluster_isNotFound_iff server name⟩,
    fun ns name => ⟨fetch_eq_none_iff, deployment_isNotFound_iff server ns name⟩,
    fun hub info h => ?_, fun name h => ?_, fun r h => h.isMissing⟩
  · obtain ⟨e, he, hmissing⟩ := (cluster_isNotFound_iff server _).mpr h
    obtain ⟨hnone, hlog⟩ := Join.join_of_error hub (c := companions server) he
    exact ⟨hnone, e, hmissing, hlog⟩
  · obtain ⟨e, he, hmissing⟩ := (deployment_isNotFound_iff server _ _).mpr h
    obtain ⟨hvalue, hlog⟩ := Join.provisioning_of_error (c := companions server) he
    exact ⟨hvalue, e, hmissing, hlog⟩

/-! A server that does not serve the kinds of the companions. -/

def unservedText : String := "404 page not found\n"

def unservedHub (_ : Http.Target) : Response := .answered 404 unservedText

theorem onlyCoded_unserved : OnlyCoded (.answered 404 unservedText) :=
  Or.inr ⟨unservedText, rfl, by decide +kernel⟩

theorem answers_unserved_cluster :
    Answers unservedHub .managedCluster none "c1" OnlyCoded :=
  ⟨⟨"/apis/cluster.open-cluster-management.io/v1/managedclusters/c1", none⟩,
    by decide +kernel, onlyCoded_unserved⟩

theorem answers_unserved_deployment :
    Answers unservedHub .clusterDeployment (some "c1") "c1" OnlyCoded :=
  ⟨Watch.deploymentTarget, by decide +kernel, onlyCoded_unserved⟩

theorem missing_told_by_reason_unserved :
    (∃ e, ((companions unservedHub).cluster "c1").value = .error e ∧ e.isNotFound = true) ∧
    (Answers unservedHub .managedCluster none Join.importedInfo.name OnlyCoded ∧
      (Join.join "hub" (companions unservedHub) Join.importedInfo).checked = some none) ∧
    (Answers unservedHub .clusterDeployment (some "c1") "c1" OnlyCoded ∧
      (Join.provisioning (companions unservedHub) "c1").value = .unavailable) ∧
    (OnlyCoded (.answered 404 unservedText) ∧
      HubIdentity.IsMissing (.answered 404 unservedText)) := by
  obtain ⟨hclusters, -, hjoin, hprovisioning, hhub⟩ := missing_told_by_reason unservedHub
  have hname : Join.importedInfo.name = "c1" := rfl
  have himported : Answers unservedHub .managedCluster none Join.importedInfo.name OnlyCoded := by
    rw [hname]
    exact answers_unserved_cluster
  exact ⟨(hclusters "c1").2.mpr answers_unserved_cluster,
    ⟨himported, (hjoin "hub" Join.importedInfo himported).1⟩,
    ⟨answers_unserved_deployment, (hprovisioning "c1" answers_unserved_deployment).1⟩,
    onlyCoded_unserved, hhub _ onlyCoded_unserved⟩

/-- Of a deployment whose kind is not served, the error says that it is missing. -/
theorem isNotFound_of_unserved_deployment :
    ∃ e, ((companions unservedHub).deployment "c1" "c1").value = .error e ∧
      e.isNotFound = true :=
  (deployment_isNotFound_iff unservedHub "c1" "c1").mpr answers_unserved_deployment

end Api

end FleetExporter
