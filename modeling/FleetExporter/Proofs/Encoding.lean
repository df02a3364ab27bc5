import FleetExporter.Proofs.Decoding
import FleetExporter.Proofs.Metadata
import FleetExporter.Proofs.Publication

/-! Typed views written as JSON again. A view that was decoded is decoded again from what is written
of it, so the writing is a canonical form: it stays the same when read and written once more, and it
tells the view. -/
namespace FleetExporter

open Shape

/-! ## Records -/

namespace OcpDistribution

theorem restores (d : OcpDistribution) : (record schema).Restores of json d where
  conforms := by
    refine Holds.record ?_
    simp only [Holds, schema, List.forall_mem_cons, Json.last?_singleton, if_true]
    exact ⟨(restores_text _).always, List.forall_mem_nil _⟩
  value_write := by
    rw [of, json, part?_ofEntries]
    simp only [ofParts, Json.last?_singleton, if_true]
    rfl

theorem sorted_json (d : OcpDistribution) : d.json.sorted = d.json :=
  Json.sorted_ofEntries (List.forall_mem_cons.mpr ⟨rfl, List.forall_mem_nil _⟩)

end OcpDistribution

namespace Distribution

theorem restores (d : Distribution) : (record schema).Restores of json d where
  conforms := by
    refine Holds.record ?_
    simp only [Holds, schema, List.forall_mem_cons, Json.last?_append, last?_unless,
      Json.last?_singleton, String.reduceEq, if_true, if_false, Option.none_or, Option.or_none]
    exact ⟨(restores_text _).unless _, d.ocp.restores.always, List.forall_mem_nil _⟩
  value_write := by
    rw [of, json, part?_ofEntries]
    simp only [ofParts, Json.last?_append, last?_unless, Json.last?_singleton, String.reduceEq,
      if_true, if_false, Option.none_or, Option.or_none, (restores_text _).elim_unless,
      Option.elim_some, d.ocp.restores.value_write]

theorem sorted_json (d : Distribution) : d.json.sorted = d.json := by
  refine Json.sorted_ofEntries (List.forall_mem_append.mpr ⟨?_, ?_⟩)
  · split
    · exact List.forall_mem_nil _
    · exact List.forall_mem_cons.mpr ⟨rfl, List.forall_mem_nil _⟩
  · exact List.forall_mem_cons.mpr ⟨d.ocp.sorted_json, List.forall_mem_nil _⟩

end Distribution

namespace Node

theorem restores {n : Node} (h : Json.Ascending n.labels) : (record schema).Restores of json n where
  conforms := by
    refine Holds.record ?_
    simp only [Holds, schema, List.forall_mem_cons, Json.last?_append, last?_unless,
      Json.last?_singleton, String.reduceEq, if_true, if_false, Option.none_or, Option.or_none]
    exact ⟨(restores_text _).always, (restores_map h).unless _, List.forall_mem_nil _⟩
  value_write := by
    rw [of, json, part?_ofEntries]
    simp only [ofParts, Json.last?_append, last?_unless, Json.last?_singleton, String.reduceEq,
      if_true, if_false, Option.none_or, Option.or_none, (restores_map h).elim_unless,
      Option.elim_some]
    rfl

theorem sorted_json {n : Node} (h : Json.Ascending n.labels) : n.json.sorted = n.json := by
  refine Json.sorted_ofEntries (List.forall_mem_append.mpr ⟨?_, ?_⟩)
  · exact List.forall_mem_cons.mpr ⟨rfl, List.forall_mem_nil _⟩
  · split
    · exact List.forall_mem_nil _
    · exact List.forall_mem_cons.mpr ⟨Json.sorted_ofStringMap h, List.forall_mem_nil _⟩

theorem ascending_of (j : Json) : Json.Ascending (of j).labels :=
  ascending_elim_asMap _ (j.part? schema "labels")

end Node

namespace InfoSpec

theorem restores (s : InfoSpec) : (record schema).Restores of json s where
  conforms := by
    refine Holds.record ?_
    simp only [Holds, schema, List.forall_mem_cons, last?_optionalEntry, if_true]
    exact ⟨(restores_part_text _).conforms, List.forall_mem_nil _⟩
  value_write := by
    rw [of, json, part?_ofEntries]
    simp only [ofParts, last?_optionalEntry, if_true, (restores_part_text _).value_write]

theorem sorted_json (s : InfoSpec) : s.json.sorted = s.json :=
  Json.sorted_ofEntries (sorted_of_mem_optionalEntry fun _ _ => rfl)

end InfoSpec

namespace Vendor

theorem restores {v : Vendor} (h : v.Canonical) :
    (nullable .text).Restores of (.string ·.text) v where
  conforms := Or.inr ⟨v.text, rfl⟩
  value_write := h.symm

theorem canonical_of (j : Json) : (of j).Canonical := canonical_ofText _

end Vendor

namespace InfoStatus

/-- A status as it is read: the vendor as a text gives it, the labels of nodes ascending. -/
structure Canonical (s : InfoStatus) : Prop where
  vendor : s.vendor.Canonical
  nodes : ∀ n ∈ s.nodes, Json.Ascending n.labels

theorem restores {s : InfoStatus} (h : s.Canonical) : (record schema).Restores of json s := by
  have hvendor := Vendor.restores h.vendor
  have hnodes : (list (.record Node.schema)).Restores (Json.asList Node.of)
      (fun nodes => .array (nodes.map (·.json))) s.nodes :=
    restores_list fun n hn => Node.restores (h.nodes n hn)
  constructor
  · refine Holds.record ?_
    simp only [Holds, schema, List.forall_mem_cons, Json.last?_cons, Json.last?_nil,
      String.reduceEq, if_true, if_false, Option.none_or, Option.or_none]
    exact ⟨(restores_text _).always, hvendor.always, (restores_text _).always,
      (restores_text _).always, s.distribution.restores.always, hnodes.always,
      List.forall_mem_nil _⟩
  · rw [of, json, part?_ofEntries]
    simp only [ofParts, Json.last?_cons, Json.last?_nil, String.reduceEq, if_true, if_false,
      Option.none_or, Option.or_none, Option.elim_some, hvendor.value_write,
      s.distribution.restores.value_write, hnodes.value_write]
    rfl

theorem sorted_json {s : InfoStatus} (h : s.Canonical) : s.json.sorted = s.json := by
  have hnodes : (Json.array (s.nodes.map (·.json))).sorted = .array (s.nodes.map (·.json)) := by
    have hitem : ∀ n ∈ s.nodes, n.json.sorted = n.json :=
      fun n hn => Node.sorted_json (h.nodes n hn)
    rw [Json.sorted, Json.sortedItems_eq, List.map_map]
    exact congrArg Json.array (List.map_congr_left hitem)
  refine Json.sorted_ofEntries ?_
  simp only [List.forall_mem_cons]
  exact ⟨rfl, rfl, rfl, rfl, s.distribution.sorted_json, hnodes, List.forall_mem_nil _⟩

theorem canonical_of (j : Json) : (of j).Canonical where
  vendor := by
    change ((j.part? schema "kubeVendor").elim .unknown Vendor.of).Canonical
    cases j.part? schema "kubeVendor" with
    | none => exact Vendor.canonical_ofText ""
    | some j' => exact Vendor.canonical_of j'
  nodes n hn := by
    change n ∈ (j.part? schema "nodeList").elim [] (Json.asList Node.of) at hn
    cases hpart : j.part? schema "nodeList" with
    | none =>
      rw [hpart] at hn
      cases hn
    | some j' =>
      rw [hpart] at hn
      cases j' with
      | array items =>
        obtain ⟨item, -, rfl⟩ := List.mem_map.mp hn
        exact Node.ascending_of item
      | _ => cases hn

end InfoStatus

namespace ClusterSpec

theorem restores (s : ClusterSpec) : (record schema).Restores of json s where
  conforms := by
    refine Holds.record ?_
    simp only [Holds, schema, List.forall_mem_cons, Json.last?_singleton, if_true]
    exact ⟨(restores_flag _).always, List.forall_mem_nil _⟩
  value_write := by
    rw [of, json, part?_ofEntries]
    simp only [ofParts, Json.last?_singleton, if_true]
    rfl

theorem sorted_json (s : ClusterSpec) : s.json.sorted = s.json :=
  Json.sorted_ofEntries (List.forall_mem_cons.mpr ⟨rfl, List.forall_mem_nil _⟩)

end ClusterSpec

namespace ClusterStatus

theorem restores {s : ClusterStatus} (h : Json.Ascending s.capacity) :
    (record schema).Restores of json s where
  conforms := by
    refine Holds.record ?_
    simp only [Holds, schema, List.forall_mem_cons, Json.last?_singleton, if_true]
    exact ⟨(restores_map h).always, List.forall_mem_nil _⟩
  value_write := by
    rw [of, json, part?_ofEntries]
    simp only [ofParts, Json.last?_singleton, if_true, Option.elim_some,
      (restores_map h).value_write]

theorem sorted_json {s : ClusterStatus} (h : Json.Ascending s.capacity) :
    s.json.sorted = s.json :=
  Json.sorted_ofEntries
    (List.forall_mem_cons.mpr ⟨Json.sorted_ofStringMap h, List.forall_mem_nil _⟩)

theorem ascending_of (j : Json) : Json.Ascending (of j).capacity :=
  ascending_elim_asMap _ (j.part? schema "capacity")

end ClusterStatus

namespace DeploymentSpec

theorem restores (s : DeploymentSpec) : (record schema).Restores of json s where
  conforms := by
    refine Holds.record ?_
    simp only [Holds, schema, List.forall_mem_cons, Json.last?_append, last?_optionalEntry,
      String.reduceEq, if_true, if_false, Option.none_or, Option.or_none]
    exact ⟨(restores_part_text _).conforms, (restores_part_text _).conforms, List.forall_mem_nil _⟩
  value_write := by
    rw [of, json, part?_ofEntries]
    simp only [ofParts, Json.last?_append, last?_optionalEntry, String.reduceEq, if_true, if_false,
      Option.none_or, Option.or_none, (restores_part_text _).value_write]

theorem sorted_json (s : DeploymentSpec) : s.json.sorted = s.json := by
  refine Json.sorted_ofEntries (List.forall_mem_append.mpr ⟨?_, ?_⟩)
  · exact sorted_of_mem_optionalEntry fun _ _ => rfl
  · exact sorted_of_mem_optionalEntry fun _ _ => rfl

end DeploymentSpec

/-! ## Objects -/

namespace Untyped

theorem frames : Frames [("metadata", .object Metadata.schema)] [metadataField]
    fun part? => (part? "metadata").elim {} Metadata.of where
  fits := .cons (fits_make Metadata.describes fun j values => by simp) .nil
  distinct := by decide
  others := by
    intro key hkey v values
    simp only [List.map_cons, List.map_nil, List.mem_cons, not_or] at hkey
    simp only [Function.update_apply, eq_comm (b := key), hkey, if_false]

/-- Metadata that is missing is canonical too. -/
theorem canonical_of_read {j : Json} {o : Untyped} (h : read j = .ok o) : o.metadata.Canonical := by
  cases j with
  | object entries =>
    simp only [read] at h
    split at h
    · cases h
    · split at h
      · cases h
      · rename_i m hm
        cases h
        obtain ⟨hentries, rfl⟩ := (frames.visit_eq_ok_iff entries m).mp hm
        change ((Json.last? "metadata" entries).elim {} Metadata.of).Canonical
        cases hlast : Json.last? "metadata" entries with
        | none => constructor <;> exact fun _ h => by cases h
        | some j =>
          have hconforms : (object Metadata.schema).Conforms j :=
            byKey_iff.mp hentries _ List.mem_cons_self j (Json.mem_of_last? hlast)
          exact Metadata.canonical_of hconforms
  | _ => cases h

/-- An object is read of entries as they are written: its metadata, and what is its own. -/
theorem exists_read {entries : List (String × Json)} {m : Metadata} (hm : m.Canonical)
    (hmetadata : Json.last? "metadata" entries = some m.json)
    (hsorted : ∀ e ∈ entries, commonKeys.contains e.1 = false → e.2.sorted = e.2) :
    ∃ o, read (.ofEntries entries) = .ok o ∧ o.metadata = m ∧ Json.Ascending o.fields ∧
      ∀ key, commonKeys.contains key = false →
        Json.last? key o.fields = Json.last? key entries := by
  have honce : Field.repeated? [metadataField] (Json.sortEntries entries) = none := by
    simp only [Field.repeated?, List.find?_eq_none, decide_eq_true_eq, not_lt]
    exact fun key _ => (Json.ascending_sortEntries entries).countP_le key
  have hvisit : Field.visit [metadataField] (Json.sortEntries entries) {} = .ok m := by
    have hm' := Metadata.restores hm
    refine (frames.visit_eq_ok_iff _ m).mpr ⟨byKey_sortEntries.mpr ?_, ?_⟩
    · simp only [Holds, List.forall_mem_cons, hmetadata]
      exact ⟨hm'.always, List.forall_mem_nil _⟩
    · simp only [Json.last?_sortEntries, hmetadata, Option.elim_some]
      exact hm'.value_write.symm
  obtain ⟨own, hown⟩ : ∃ own, Json.sortedEntries
      ((Json.sortEntries entries).filter fun e => !commonKeys.contains e.1) = own := ⟨_, rfl⟩
  have hread : read (.ofEntries entries) = .ok ⟨m, Json.sortEntries own⟩ := by
    simp only [Json.ofEntries, read, honce, hvisit, hown]
  refine ⟨_, hread, rfl, Json.ascending_sortEntries own, fun key hkey => ?_⟩
  have hfilter := Json.last?_filter key (fun k => !commonKeys.contains k) (Json.sortEntries entries)
  rw [Json.last?_sortEntries, hkey, Bool.not_false, if_pos rfl] at hfilter
  rw [Json.last?_sortEntries, ← hown, Json.sortedEntries_eq, Json.last?_map, hfilter]
  cases hlast : Json.last? key entries with
  | none => rfl
  | some j => exact congrArg some (hsorted (key, j) (Json.mem_of_last? hlast) hkey)

end Untyped

/-- A JSON value is read as an object and decoded as a view. -/
def Json.DecodesTo {View : Type} (decode : Untyped → Except Error View) (j : Json) (view : View) :
    Prop :=
  ∃ o, Untyped.read j = .ok o ∧ decode o = .ok view

/-- What is written of the view that a JSON value is decoded as, if it is one. -/
def Json.canonical? {View : Type} (decode : Untyped → Except Error View) (json : View → Json)
    (j : Json) : Option Json :=
  ((Untyped.read j).toOption.bind fun o => (decode o).toOption).map json

/-- Decoding undoes writing: a view that was decoded comes back of what is written of it. So what is
written is a canonical form of the JSON value, and it tells the view. -/
structure Restored {View : Type} (decode : Untyped → Except Error View) (json : View → Json) :
    Prop where
  returns : ∀ (j : Json) (view : View), j.DecodesTo decode view →
    (json view).DecodesTo decode view
  idempotent : ∀ j c : Json, j.canonical? decode json = some c → c.canonical? decode json = some c
  determines : ∀ (j j' : Json) (view view' : View), j.DecodesTo decode view →
    j'.DecodesTo decode view' → (view = view' ↔ json view = json view')

namespace Json

variable {View : Type} {decode : Untyped → Except Error View}

theorem canonical?_eq_some_iff {json : View → Json} {j c : Json} :
    j.canonical? decode json = some c ↔ ∃ view, j.DecodesTo decode view ∧ json view = c := by
  unfold canonical? DecodesTo
  cases Untyped.read j with
  | error m => simp [Except.toOption]
  | ok o => cases hdecode : decode o <;> simp [Except.toOption, hdecode]

theorem DecodesTo.unique {j : Json} {view view' : View} (h : j.DecodesTo decode view)
    (h' : j.DecodesTo decode view') : view = view' := by
  obtain ⟨o, hread, hdecode⟩ := h
  obtain ⟨o', hread', hdecode'⟩ := h'
  rw [hread, Except.ok.injEq] at hread'
  subst hread'
  rw [hdecode, Except.ok.injEq] at hdecode'
  exact hdecode'

end Json

theorem Restored.of_returns {View : Type} {decode : Untyped → Except Error View}
    {json : View → Json}
    (h : ∀ (j : Json) (view : View), j.DecodesTo decode view →
      (json view).DecodesTo decode view) :
    Restored decode json where
  returns := h
  idempotent j c hc := by
    obtain ⟨view, hview, rfl⟩ := Json.canonical?_eq_some_iff.mp hc
    exact Json.canonical?_eq_some_iff.mpr ⟨view, h j view hview, rfl⟩
  determines j j' view view' hview hview' := by
    refine ⟨congrArg json, fun heq => ?_⟩
    have hback := h j' view' hview'
    rw [← heq] at hback
    exact (h j view hview).unique hback

/-! ## Views -/

/-- The entries of a view: of what kind it is, its metadata and its parts. -/
def Kind.entries (k : Kind) (m : Metadata) (spec : Json) (status : Option Json) :
    List (String × Json) :=
  [("apiVersion", .string k.apiVersion), ("kind", .string k.name), ("metadata", m.json),
   ("spec", spec)] ++ optionalEntry "status" id status

/-- A view is decoded from its entries if its parts are what stands in them. -/
theorem Kind.DecodesBy.decodesTo {View : Type} {k : Kind} {schema : List (String × Shape)}
    {decode : Untyped → Except Error View} {of : Untyped → View}
    (h : k.DecodesBy schema decode of) {m : Metadata} {spec : Json} {status : Option Json}
    {view : View} (hm : m.Canonical) (hspec : spec.sorted = spec)
    (hstatus : ∀ j ∈ status, j.sorted = j)
    (hholds : ∀ entries, Json.last? "spec" entries = some spec →
      Json.last? "status" entries = status → Holds schema entries)
    (hof : ∀ o, o.metadata = m → Json.last? "spec" o.fields = some spec →
      Json.last? "status" o.fields = status → view = of o) :
    (Json.ofEntries (k.entries m spec status)).DecodesTo decode view := by
  have hmetadata : Json.last? "metadata" (k.entries m spec status) = some m.json := by
    simp [entries, Json.last?_cons, last?_optionalEntry]
  have hsorted : ∀ e ∈ k.entries m spec status, Untyped.commonKeys.contains e.1 = false →
      e.2.sorted = e.2 := by
    simp only [entries, List.forall_mem_append, List.forall_mem_cons]
    exact ⟨⟨fun _ => rfl, fun _ => rfl, fun hkey => absurd hkey (by decide), fun _ => hspec,
      List.forall_mem_nil _⟩, fun e he _ => sorted_of_mem_optionalEntry hstatus e he⟩
  obtain ⟨o, hread, hmetadata', hascending, hlast⟩ := Untyped.exists_read hm hmetadata hsorted
  have hspec' : Json.last? "spec" o.fields = some spec := by
    rw [hlast "spec" (by decide)]
    simp [entries, Json.last?_cons, last?_optionalEntry]
  have hstatus' : Json.last? "status" o.fields = status := by
    rw [hlast "status" (by decide)]
    simp [entries, Json.last?_cons, last?_optionalEntry]
  have hholds' : Holds schema o.fields := hholds _ hspec' hstatus'
  have hconforms : o.Conforms schema :=
    ⟨⟨spec, Json.mem_of_last? hspec'⟩,
      byKey_iff.mpr fun p hp j hj => hholds' p hp j ((hascending.mem_iff p.1 j).mp hj)⟩
  exact ⟨o, hread, (h.decodes o view).mpr ⟨hconforms, hof o hmetadata' hspec' hstatus'⟩⟩

/-- A view with a status is decoded from its entries if its parts are restored. -/
theorem Parts.decodesTo {View Spec Status : Type} {k : Kind} {specShape statusShape : Shape}
    {decode : Untyped → Except Error View} {specOf : Json → Spec} {statusOf : Json → Status}
    {specJson : Spec → Json} {statusJson : Status → Json}
    (view : Metadata → Spec → Option Status → View) (missing : Spec)
    (h : k.DecodesBy [("spec", specShape), ("status", .nullable statusShape)] decode fun o =>
      view o.metadata ((Json.last? "spec" o.fields).elim missing specOf)
        ((Json.last? "status" o.fields).bind (Json.asOption statusOf)))
    {m : Metadata} {spec : Spec} {status : Option Status} (hm : m.Canonical)
    (hspec : specShape.Restores specOf specJson spec)
    (hspecSorted : (specJson spec).sorted = specJson spec)
    (hstatus : statusShape.RestoresPart statusOf statusJson status)
    (hstatusSorted : ∀ s ∈ status, (statusJson s).sorted = statusJson s) :
    (Json.ofEntries (k.entries m (specJson spec) (status.map statusJson))).DecodesTo decode
      (view m spec status) := by
  refine h.decodesTo hm hspecSorted ?_ ?_ ?_
  · intro j hj
    obtain ⟨s, hs, rfl⟩ := Option.map_eq_some_iff.mp hj
    exact hstatusSorted s hs
  · intro entries hs hp
    simp only [Holds, List.forall_mem_cons, hs, hp]
    exact ⟨hspec.always, hstatus.conforms, List.forall_mem_nil _⟩
  · intro o ho hs hp
    simp only [ho, hs, hp, Option.elim_some, hspec.value_write, hstatus.value_write]

namespace ManagedClusterInfo

theorem json_eq (i : ManagedClusterInfo) : i.json =
    .ofEntries (kind.entries i.metadata i.spec.json (i.status.map InfoStatus.json)) := by
  unfold json Kind.entries
  cases i.status <;> rfl

theorem canonical_status {o : Untyped} {s : InfoStatus} (h : s ∈ (of o).status) : s.Canonical := by
  obtain ⟨j, -, hs⟩ := Option.bind_eq_some_iff.mp h
  cases j <;> cases hs <;> exact InfoStatus.canonical_of _

theorem restored : Restored decode json := by
  refine .of_returns fun j info ⟨o, hread, hdecode⟩ => ?_
  obtain ⟨-, hinfo⟩ := (decodesBy.decodes o info).mp hdecode
  have hmetadata : info.metadata.Canonical := hinfo ▸ Untyped.canonical_of_read hread
  have hcanonical : ∀ s ∈ info.status, s.Canonical := hinfo ▸ fun _ => canonical_status
  have hstatus :
      (record InfoStatus.schema).RestoresPart InfoStatus.of InfoStatus.json info.status :=
    restores_part (fun s hs => InfoStatus.restores (hcanonical s hs)) fun _ _ => Json.noConfusion
  rw [json_eq]
  exact Parts.decodesTo mk {} decodesBy hmetadata info.spec.restores info.spec.sorted_json hstatus
    fun s hs => InfoStatus.sorted_json (hcanonical s hs)

end ManagedClusterInfo

namespace ManagedCluster

theorem json_eq (c : ManagedCluster) : c.json =
    .ofEntries (kind.entries c.metadata c.spec.json (c.status.map ClusterStatus.json)) := by
  unfold json Kind.entries
  cases c.status <;> rfl

theorem ascending_capacity {o : Untyped} {s : ClusterStatus} (h : s ∈ (of o).status) :
    Json.Ascending s.capacity := by
  obtain ⟨j, -, hs⟩ := Option.bind_eq_some_iff.mp h
  cases j <;> cases hs <;> exact ClusterStatus.ascending_of _

theorem restored : Restored decode json := by
  refine .of_returns fun j cluster ⟨o, hread, hdecode⟩ => ?_
  obtain ⟨-, hcluster⟩ := (decodesBy.decodes o cluster).mp hdecode
  have hmetadata : cluster.metadata.Canonical := hcluster ▸ Untyped.canonical_of_read hread
  have hascending : ∀ s ∈ cluster.status, Json.Ascending s.capacity :=
    hcluster ▸ fun _ => ascending_capacity
  have hstatus : (record ClusterStatus.schema).RestoresPart ClusterStatus.of ClusterStatus.json
      cluster.status :=
    restores_part (fun s hs => ClusterStatus.restores (hascending s hs)) fun _ _ => Json.noConfusion
  rw [json_eq]
  exact Parts.decodesTo mk {} decodesBy hmetadata cluster.spec.restores cluster.spec.sorted_json
    hstatus fun s hs => ClusterStatus.sorted_json (hascending s hs)

end ManagedCluster

namespace ClusterDeployment

theorem restored : Restored decode json := by
  refine .of_returns fun j deployment ⟨o, hread, hdecode⟩ => ?_
  obtain ⟨-, hdeployment⟩ := (decodesBy.decodes o deployment).mp hdecode
  have hmetadata : deployment.metadata.Canonical := hdeployment ▸ Untyped.canonical_of_read hread
  have hjson : deployment.json =
      .ofEntries (kind.entries deployment.metadata deployment.spec.json none) := rfl
  rw [hjson]
  refine decodesBy.decodesTo hmetadata deployment.spec.sorted_json
    (fun j hj => absurd hj (Option.not_mem_none j)) ?_ ?_
  · intro entries hspec _
    simp only [Holds, schema, List.forall_mem_cons, hspec]
    exact ⟨deployment.spec.restores.always, List.forall_mem_nil _⟩
  · intro o hm hspec _
    simp only [of, hm, hspec, Option.elim_some, deployment.spec.restores.value_write]

end ClusterDeployment

/-- **Decoding undoes writing.** A view of any of the three kinds that was decoded is decoded again
of what is written of it: the same metadata, specification and status, down to the vendor, the
labels of nodes and the capacity, and no status where there was none. What is written stays the same
when it is decoded and written once more, and it is the same for two objects exactly when their
views are. -/
theorem decoding_undoes_writing :
    Restored ManagedClusterInfo.decode ManagedClusterInfo.json ∧
    Restored ManagedCluster.decode ManagedCluster.json ∧
    Restored ClusterDeployment.decode ClusterDeployment.json :=
  ⟨ManagedClusterInfo.restored, ManagedCluster.restored, ClusterDeployment.restored⟩

/-- Null for a vendor is written as no text, a specification without texts as an empty one, and
labels that are empty not at all. -/
example : (Json.object [("spec", .array [.null]), ("status", .object [("kubeVendor", .null),
      ("nodeList", .array [.object [("labels", .object [])]])])]).canonical?
      ManagedClusterInfo.decode ManagedClusterInfo.json =
    some (.object [("apiVersion", .string "internal.open-cluster-management.io/v1beta1"),
      ("kind", .string "ManagedClusterInfo"), ("metadata", .object []), ("spec", .object []),
      ("status", .object [("cloudVendor", .string ""), ("clusterID", .string ""),
        ("distributionInfo", .object [("ocp", .object [("version", .string "")])]),
        ("kubeVendor", .string ""), ("nodeList", .array [.object [("name", .string "")]]),
        ("version", .string "")])]) := by
  rfl

end FleetExporter
