import FleetExporter.Proofs.Shape
import FleetExporter.View.ClusterDeployment
import FleetExporter.View.ManagedCluster
import FleetExporter.View.ManagedClusterInfo

/-! The schemas of the typed views. A view is decoded from just the objects that have its schema:
its fields are what stands at their keys or places, and what no field asks for is never seen. -/
namespace FleetExporter

open Shape

/-! ## Records

Of each record: its schema, the record that some parts make, with defaults for those that are
missing, and the record that stands in a value. -/

namespace OcpDistribution

def schema : List (String × Shape) := [("version", .text)]

def ofParts (part? : String → Option Json) : OcpDistribution where
  version := (part? "version").elim "" Json.asText

def of (j : Json) : OcpDistribution := ofParts (j.part? schema)

theorem frames : Frames schema fields ofParts where
  fits := .cons (fits_make describes_text fun j values => by simp [ofParts]) .nil
  distinct := by decide
  others := by
    intro key hkey v values
    simp only [schema, List.map_cons, List.map_nil, List.mem_cons, not_or] at hkey
    simp only [ofParts, Function.update_apply, eq_comm (b := key), hkey, if_false]

theorem describes : (Shape.record schema).Describes read of := frames.record _

end OcpDistribution

namespace Distribution

def schema : List (String × Shape) := [("type", .text), ("ocp", .record OcpDistribution.schema)]

def ofParts (part? : String → Option Json) : Distribution where
  kind := (part? "type").elim "" Json.asText
  ocp := (part? "ocp").elim {} OcpDistribution.of

def of (j : Json) : Distribution := ofParts (j.part? schema)

theorem frames : Frames schema fields ofParts where
  fits :=
    .cons (fits_make describes_text fun j values => by simp [ofParts]) <|
    .cons (fits_make OcpDistribution.describes fun j values => by simp [ofParts]) .nil
  distinct := by decide
  others := by
    intro key hkey v values
    simp only [schema, List.map_cons, List.map_nil, List.mem_cons, not_or] at hkey
    simp only [ofParts, Function.update_apply, eq_comm (b := key), hkey, if_false]

theorem describes : (Shape.record schema).Describes read of := frames.record _

end Distribution

namespace Node

def schema : List (String × Shape) := [("name", .text), ("labels", .map .text)]

def ofParts (part? : String → Option Json) : Node where
  name := (part? "name").elim "" Json.asText
  labels := (part? "labels").elim [] (Json.asMap Json.asText)

def of (j : Json) : Node := ofParts (j.part? schema)

theorem frames : Frames schema fields ofParts where
  fits :=
    .cons (fits_make describes_text fun j values => by simp [ofParts]) <|
    .cons (fits_make describes_text.map fun j values => by simp [ofParts]) .nil
  distinct := by decide
  others := by
    intro key hkey v values
    simp only [schema, List.map_cons, List.map_nil, List.mem_cons, not_or] at hkey
    simp only [ofParts, Function.update_apply, eq_comm (b := key), hkey, if_false]

theorem describes : (Shape.record schema).Describes read of := frames.record _

end Node

namespace InfoSpec

def schema : List (String × Shape) := [("masterEndpoint", .nullable .text)]

def ofParts (part? : String → Option Json) : InfoSpec where
  masterEndpoint := (part? "masterEndpoint").bind (Json.asOption Json.asText)

def of (j : Json) : InfoSpec := ofParts (j.part? schema)

theorem frames : Frames schema fields ofParts where
  fits := .cons (fits_make describes_text.nullable fun j values => by simp [ofParts]) .nil
  distinct := by decide
  others := by
    intro key hkey v values
    simp only [schema, List.map_cons, List.map_nil, List.mem_cons, not_or] at hkey
    simp only [ofParts, Function.update_apply, eq_comm (b := key), hkey, if_false]

theorem describes : (Shape.record schema).Describes read of := frames.record _

end InfoSpec

/-- A vendor is read from a text, or from null as from an empty one. -/
def Vendor.of (j : Json) : Vendor := .ofText ((j.asOption Json.asText).getD "")

theorem Vendor.describes : (Shape.nullable .text).Describes Vendor.read Vendor.of :=
  describes_text.nullable.into _

namespace InfoStatus

def schema : List (String × Shape) :=
  [("clusterID", .text), ("kubeVendor", .nullable .text), ("cloudVendor", .text),
   ("version", .text), ("distributionInfo", .record Distribution.schema),
   ("nodeList", .list (.record Node.schema))]

def ofParts (part? : String → Option Json) : InfoStatus where
  clusterId := (part? "clusterID").elim "" Json.asText
  vendor := (part? "kubeVendor").elim .unknown Vendor.of
  cloud := (part? "cloudVendor").elim "" Json.asText
  version := (part? "version").elim "" Json.asText
  distribution := (part? "distributionInfo").elim {} Distribution.of
  nodes := (part? "nodeList").elim [] (Json.asList Node.of)

def of (j : Json) : InfoStatus := ofParts (j.part? schema)

theorem frames : Frames schema fields ofParts where
  fits :=
    .cons (fits_make describes_text fun j values => by simp [ofParts]) <|
    .cons (fits_make Vendor.describes fun j values => by simp [ofParts]) <|
    .cons (fits_make describes_text fun j values => by simp [ofParts]) <|
    .cons (fits_make describes_text fun j values => by simp [ofParts]) <|
    .cons (fits_make Distribution.describes fun j values => by simp [ofParts]) <|
    .cons (fits_make Node.describes.list fun j values => by simp [ofParts]) .nil
  distinct := by decide
  others := by
    intro key hkey v values
    simp only [schema, List.map_cons, List.map_nil, List.mem_cons, not_or] at hkey
    simp only [ofParts, Function.update_apply, eq_comm (b := key), hkey, if_false]

theorem describes : (Shape.record schema).Describes read of := frames.record _

end InfoStatus

namespace ClusterSpec

def schema : List (String × Shape) := [("hubAcceptsClient", .flag)]

def ofParts (part? : String → Option Json) : ClusterSpec where
  hubAcceptsClient := (part? "hubAcceptsClient").elim false Json.asFlag

def of (j : Json) : ClusterSpec := ofParts (j.part? schema)

theorem frames : Frames schema fields ofParts where
  fits := .cons (fits_make describes_flag fun j values => by simp [ofParts]) .nil
  distinct := by decide
  others := by
    intro key hkey v values
    simp only [schema, List.map_cons, List.map_nil, List.mem_cons, not_or] at hkey
    simp only [ofParts, Function.update_apply, eq_comm (b := key), hkey, if_false]

theorem describes : (Shape.record schema).Describes read of := frames.record _

end ClusterSpec

namespace ClusterStatus

def schema : List (String × Shape) := [("capacity", .map .text)]

def ofParts (part? : String → Option Json) : ClusterStatus where
  capacity := (part? "capacity").elim [] (Json.asMap Json.asText)

def of (j : Json) : ClusterStatus := ofParts (j.part? schema)

theorem frames : Frames schema fields ofParts where
  fits := .cons (fits_make describes_text.map fun j values => by simp [ofParts]) .nil
  distinct := by decide
  others := by
    intro key hkey v values
    simp only [schema, List.map_cons, List.map_nil, List.mem_cons, not_or] at hkey
    simp only [ofParts, Function.update_apply, eq_comm (b := key), hkey, if_false]

theorem describes : (Shape.record schema).Describes read of := frames.record _

end ClusterStatus

namespace DeploymentSpec

def schema : List (String × Shape) :=
  [("clusterName", .nullable .text), ("baseDomain", .nullable .text)]

def ofParts (part? : String → Option Json) : DeploymentSpec where
  clusterName := (part? "clusterName").bind (Json.asOption Json.asText)
  baseDomain := (part? "baseDomain").bind (Json.asOption Json.asText)

def of (j : Json) : DeploymentSpec := ofParts (j.part? schema)

theorem frames : Frames schema fields ofParts where
  fits :=
    .cons (fits_make describes_text.nullable fun j values => by simp [ofParts]) <|
    .cons (fits_make describes_text.nullable fun j values => by simp [ofParts]) .nil
  distinct := by decide
  others := by
    intro key hkey v values
    simp only [schema, List.map_cons, List.map_nil, List.mem_cons, not_or] at hkey
    simp only [ofParts, Function.update_apply, eq_comm (b := key), hkey, if_false]

theorem describes : (Shape.record schema).Describes read of := frames.record _

end DeploymentSpec

/-! ## Objects -/

namespace Untyped

/-- There is a specification, and every known key holds what conforms. -/
structure Conforms (schema : List (String × Shape)) (o : Untyped) : Prop where
  present : ∃ j, ("spec", j) ∈ o.fields
  known : ByKey schema o.fields

/-- What is left of an object without the keys that are not known, at any level. -/
def prune (schema : List (String × Shape)) (o : Untyped) : Untyped :=
  { o with fields := o.fields.filterMap fun e => pruneEntry schema e.1 e.2 }

theorem Conforms.exists_spec {schema : List (String × Shape)} {o : Untyped}
    (h : o.Conforms schema) : ∃ j, Json.last? "spec" o.fields = some j := by
  obtain ⟨j, hj⟩ := h.present
  have hkey : "spec" ∈ o.fields.map (·.1) := List.mem_map_of_mem hj
  rw [← Option.ne_none_iff_exists']
  exact fun hnone => Json.last?_eq_none_iff.mp hnone hkey

end Untyped

/-- A kind is decoded by a schema: just the objects that conform are accepted, each as the view that
stands in it; keys that are not known make no difference; and a refusal tells the kind and the name
of the object. -/
structure Kind.DecodesBy {View : Type} (k : Kind) (schema : List (String × Shape))
    (decode : Untyped → Except Error View) (of : Untyped → View) : Prop where
  decodes : ∀ o view, decode o = .ok view ↔ o.Conforms schema ∧ view = of o
  ignores : ∀ o, decode (o.prune schema) = decode o
  refuses : ∀ o, ¬ o.Conforms schema →
    ∃ m, decode o = .error (.decode k.name (o.metadata.name.getD "") m)

namespace Parts

variable {Spec Status View : Type}

/-- The parts that stand in an object. -/
def ofParts (specOf : Json → Spec) (statusOf : Json → Option Status)
    (part? : String → Option Json) : Parts Spec Status where
  spec := (part? "spec").map specOf
  status := (part? "status").bind statusOf

theorem frames {s s' : Shape} {r : Reader Spec} {r' : Reader Status} {specOf : Json → Spec}
    {statusOf : Json → Status} (hspec : s.Describes r specOf) (hstatus : s'.Describes r' statusOf) :
    Frames [("spec", s), ("status", .nullable s')] [specField r, statusField r']
      (ofParts specOf (Json.asOption statusOf)) where
  fits :=
    .cons (fits_make hspec fun j values => by simp [ofParts]) <|
    .cons (fits_make hstatus.nullable fun j values => by simp [ofParts]) .nil
  distinct := by simp
  others := by
    intro key hkey v values
    simp only [List.map_cons, List.map_nil, List.mem_cons, not_or] at hkey
    simp only [ofParts, Function.update_apply, eq_comm (b := key), hkey, if_false]

theorem frames_spec {s : Shape} {r : Reader Spec} {specOf : Json → Spec}
    (hspec : s.Describes r specOf) :
    Frames [("spec", s)] [(specField r : Field (Parts Spec Status))]
      (ofParts specOf fun _ => none) where
  fits := .cons (fits_make hspec fun j values => by simp [ofParts]) .nil
  distinct := by simp
  others := by
    intro key hkey v values
    simp only [List.map_cons, List.map_nil, List.mem_cons, not_or] at hkey
    simp [ofParts, Function.update_apply, eq_comm (b := key), hkey]

/-- The parts are read from an object that has a specification and holds what conforms. -/
theorem read_eq_ok_iff {schema : List (String × Shape)} {fields : List (Field (Parts Spec Status))}
    {specOf : Json → Spec} {statusOf : Json → Option Status}
    (h : Frames schema fields (ofParts specOf statusOf)) (o : Untyped) (spec : Spec)
    (status : Option Status) :
    read fields o = .ok (spec, status) ↔ o.Conforms schema ∧
      (Json.last? "spec" o.fields).map specOf = some spec ∧
      (Json.last? "status" o.fields).bind statusOf = status := by
  have hvisit := h.visit_eq_ok_iff o.fields
  change ∀ a, Field.visit fields o.fields {} = .ok a ↔ _ at hvisit
  unfold read
  cases hparts : Field.visit fields o.fields {} with
  | error m =>
    have hrefused : ¬ o.Conforms schema := by
      intro hconforms
      have hok := (hvisit _).mpr ⟨hconforms.known, rfl⟩
      rw [hparts] at hok
      cases hok
    simp [hrefused]
  | ok p =>
    obtain ⟨hknown, rfl⟩ := (hvisit p).mp hparts
    cases hlast : Json.last? "spec" o.fields with
    | none => simp [ofParts, hlast]
    | some j =>
      have hconforms : o.Conforms schema := ⟨⟨j, Json.mem_of_last? hlast⟩, hknown⟩
      simp [ofParts, hlast, hconforms]

/-- Keys that are not known make no difference to the parts, nor to why there are none. -/
theorem read_prune {schema : List (String × Shape)} {fields : List (Field (Parts Spec Status))}
    {of : (String → Option Json) → Parts Spec Status} (h : Frames schema fields of) (o : Untyped) :
    read fields (o.prune schema) = read fields o := by
  simp only [read, Untyped.prune, visit_prune h.fits]

/-- What is read as parts is decoded by their schema. -/
theorem decodesBy {schema : List (String × Shape)} {fields : List (Field (Parts Spec Status))}
    {specOf : Json → Spec} {statusOf : Json → Option Status}
    (k : Kind) (decode : Untyped → Except Error View)
    (view : Metadata → Spec → Option Status → View)
    (h : Frames schema fields (ofParts specOf statusOf))
    (hdecode : ∀ o, decode o =
      ((read fields o).mapError (k.mismatch o)).map fun p => view o.metadata p.1 p.2)
    (missing : Spec) :
    k.DecodesBy schema decode fun o => view o.metadata
      ((Json.last? "spec" o.fields).elim missing specOf)
      ((Json.last? "status" o.fields).bind statusOf) where
  decodes o v := by
    have hread := read_eq_ok_iff h o
    rw [hdecode]
    cases hparts : read fields o with
    | error m =>
      refine iff_of_false (fun hv => by cases hv) fun hv => ?_
      obtain ⟨j, hj⟩ := hv.1.exists_spec
      have hok := (hread (specOf j) _).mpr ⟨hv.1, by rw [hj]; rfl, rfl⟩
      rw [hparts] at hok
      cases hok
    | ok parts =>
      obtain ⟨spec, status⟩ := parts
      obtain ⟨hconforms, hspec, rfl⟩ := (hread spec status).mp hparts
      obtain ⟨j, hj, rfl⟩ := Option.map_eq_some_iff.mp hspec
      simp [Except.mapError, Except.map, hconforms, hj, eq_comm]
  ignores o := by
    rw [hdecode, hdecode, read_prune h]
    rfl
  refuses o ho := by
    rw [hdecode]
    cases hparts : read fields o with
    | error m => exact ⟨m.message, rfl⟩
    | ok parts => exact absurd ((read_eq_ok_iff h o _ _).mp hparts).1 ho

end Parts

/-! ## Views -/

namespace ManagedClusterInfo

def schema : List (String × Shape) :=
  [("spec", .record InfoSpec.schema), ("status", .nullable (.record InfoStatus.schema))]

/-- What stands in an object. Null is no status. -/
def of (o : Untyped) : ManagedClusterInfo where
  metadata := o.metadata
  spec := (Json.last? "spec" o.fields).elim {} InfoSpec.of
  status := (Json.last? "status" o.fields).bind (Json.asOption InfoStatus.of)

theorem decode_eq (o : Untyped) : decode o =
    ((Parts.read fields o).mapError (kind.mismatch o)).map fun p => ⟨o.metadata, p.1, p.2⟩ := by
  unfold decode
  cases Parts.read fields o <;> rfl

theorem decodesBy : kind.DecodesBy schema decode of :=
  Parts.decodesBy kind decode mk (Parts.frames InfoSpec.describes InfoStatus.describes)
    decode_eq {}

end ManagedClusterInfo

namespace ManagedCluster

def schema : List (String × Shape) :=
  [("spec", .record ClusterSpec.schema), ("status", .nullable (.record ClusterStatus.schema))]

def of (o : Untyped) : ManagedCluster where
  metadata := o.metadata
  spec := (Json.last? "spec" o.fields).elim {} ClusterSpec.of
  status := (Json.last? "status" o.fields).bind (Json.asOption ClusterStatus.of)

theorem decode_eq (o : Untyped) : decode o =
    ((Parts.read fields o).mapError (kind.mismatch o)).map fun p => ⟨o.metadata, p.1, p.2⟩ := by
  unfold decode
  cases Parts.read fields o <;> rfl

theorem decodesBy : kind.DecodesBy schema decode of :=
  Parts.decodesBy kind decode mk (Parts.frames ClusterSpec.describes ClusterStatus.describes)
    decode_eq {}

end ManagedCluster

namespace ClusterDeployment

def schema : List (String × Shape) := [("spec", .record DeploymentSpec.schema)]

def of (o : Untyped) : ClusterDeployment where
  metadata := o.metadata
  spec := (Json.last? "spec" o.fields).elim {} DeploymentSpec.of

theorem decode_eq (o : Untyped) : decode o =
    ((Parts.read fields o).mapError (kind.mismatch o)).map fun p => ⟨o.metadata, p.1⟩ := by
  unfold decode
  cases Parts.read fields o <;> rfl

theorem decodesBy : kind.DecodesBy schema decode of :=
  Parts.decodesBy kind decode (fun metadata spec _ => ⟨metadata, spec⟩)
    (Parts.frames_spec DeploymentSpec.describes) decode_eq {}

end ClusterDeployment

/-- **Just what has its schema is decoded.** Of any object, each of the three views is decoded
exactly when the object has a specification and all that stands under the known keys conforms; the
view is then what stands there, or a default where nothing does. Keys that are not known can be
taken away at every level without changing the answer, refusals included; and a refusal tells which
kind and which object it is about. -/
theorem decodes_by_schema :
    Kind.managedClusterInfo.DecodesBy ManagedClusterInfo.schema ManagedClusterInfo.decode
      ManagedClusterInfo.of ∧
    Kind.managedCluster.DecodesBy ManagedCluster.schema ManagedCluster.decode
      ManagedCluster.of ∧
    Kind.clusterDeployment.DecodesBy ClusterDeployment.schema ClusterDeployment.decode
      ClusterDeployment.of :=
  ⟨ManagedClusterInfo.decodesBy, ManagedCluster.decodesBy, ClusterDeployment.decodesBy⟩

/-- An array gives the fields of a status by their places; a key that is not known goes unseen. -/
example : ManagedClusterInfo.decode ⟨{}, [("other", .null), ("spec", .object []),
      ("status", .array [.string "c1-id", .null])]⟩ =
    .ok ⟨{}, {}, some { clusterId := "c1-id" }⟩ := by
  rfl

end FleetExporter
