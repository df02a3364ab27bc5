import FleetExporter.Proofs.Writing

/-! The metadata of objects as a schema. Metadata that was read is canonical, and canonical metadata
is read again as it was written. -/
namespace FleetExporter

open Shape

namespace OwnerReference

def schema : List (String × Shape) :=
  [("apiVersion", .nullable .text), ("kind", .nullable .text), ("name", .nullable .text),
   ("uid", .nullable .text), ("controller", .nullable .flag),
   ("blockOwnerDeletion", .nullable .flag)]

def ofParts (part? : String → Option Json) : OwnerReference where
  apiVersion := ((part? "apiVersion").bind (Json.asOption Json.asText)).getD ""
  kind := ((part? "kind").bind (Json.asOption Json.asText)).getD ""
  name := ((part? "name").bind (Json.asOption Json.asText)).getD ""
  uid := ((part? "uid").bind (Json.asOption Json.asText)).getD ""
  controller := (part? "controller").bind (Json.asOption Json.asFlag)
  blockOwnerDeletion := (part? "blockOwnerDeletion").bind (Json.asOption Json.asFlag)

def of (j : Json) : OwnerReference := ofParts (j.part? schema)

theorem frames : Frames schema fields ofParts where
  fits :=
    .cons (fits_make describes_text.nullable fun j values => by simp [ofParts]) <|
    .cons (fits_make describes_text.nullable fun j values => by simp [ofParts]) <|
    .cons (fits_make describes_text.nullable fun j values => by simp [ofParts]) <|
    .cons (fits_make describes_text.nullable fun j values => by simp [ofParts]) <|
    .cons (fits_make describes_flag.nullable fun j values => by simp [ofParts]) <|
    .cons (fits_make describes_flag.nullable fun j values => by simp [ofParts]) .nil
  distinct := by decide
  others := by
    intro key hkey v values
    simp only [schema, List.map_cons, List.map_nil, List.mem_cons, not_or] at hkey
    simp only [ofParts, Function.update_apply, eq_comm (b := key), hkey, if_false]

theorem describes : (object schema).Describes read of := frames.mapping _

theorem restores (o : OwnerReference) : (object schema).Restores of json o where
  conforms := by
    refine Holds.object ?_
    simp only [Holds, schema, List.forall_mem_cons, Json.last?_cons, Json.last?_append,
      last?_optionalEntry, Json.last?_nil, Option.none_or, Option.or_none,
      String.reduceEq, if_true, if_false]
    exact ⟨(restores_part_text (some _)).conforms, (restores_part_text (some _)).conforms,
      (restores_part_text (some _)).conforms, (restores_part_text (some _)).conforms,
      (restores_part_flag _).conforms, (restores_part_flag _).conforms, fun _ h => by cases h⟩
  value_write := by
    rw [of, json, part?_ofEntries]
    simp only [ofParts, Json.last?_cons, Json.last?_append, last?_optionalEntry, Json.last?_nil,
      Option.none_or, Option.or_none, String.reduceEq, if_true, if_false,
      (restores_part_flag _).value_write]
    rfl

end OwnerReference

namespace ManagedFields

def schema : List (String × Shape) :=
  [("apiVersion", .nullable .text), ("fieldsType", .nullable .text), ("fieldsV1", .nullable .any),
   ("manager", .nullable .text), ("operation", .nullable .text), ("subresource", .nullable .text),
   ("time", .nullable .time)]

def ofParts (part? : String → Option Json) : ManagedFields where
  apiVersion := (part? "apiVersion").bind (Json.asOption Json.asText)
  fieldsType := (part? "fieldsType").bind (Json.asOption Json.asText)
  fields := (part? "fieldsV1").bind (Json.asOption Json.sorted)
  manager := (part? "manager").bind (Json.asOption Json.asText)
  operation := (part? "operation").bind (Json.asOption Json.asText)
  subresource := (part? "subresource").bind (Json.asOption Json.asText)
  time := (part? "time").bind (Json.asOption Json.asTime)

def of (j : Json) : ManagedFields := ofParts (j.part? schema)

theorem frames : Frames schema keys ofParts where
  fits :=
    .cons (fits_make describes_text.nullable fun j values => by simp [ofParts]) <|
    .cons (fits_make describes_text.nullable fun j values => by simp [ofParts]) <|
    .cons (fits_make describes_any.nullable fun j values => by simp [ofParts]) <|
    .cons (fits_make describes_text.nullable fun j values => by simp [ofParts]) <|
    .cons (fits_make describes_text.nullable fun j values => by simp [ofParts]) <|
    .cons (fits_make describes_text.nullable fun j values => by simp [ofParts]) <|
    .cons (fits_make describes_time.nullable fun j values => by simp [ofParts]) .nil
  distinct := by decide
  others := by
    intro key hkey v values
    simp only [schema, List.map_cons, List.map_nil, List.mem_cons, not_or] at hkey
    simp only [ofParts, Function.update_apply, eq_comm (b := key), hkey, if_false]

theorem describes : (object schema).Describes read of := frames.mapping _

/-- Managed fields as they are read: each key of the fields once, and a time of the calendar. -/
structure Canonical (m : ManagedFields) : Prop where
  fields : ∀ j ∈ m.fields, j ≠ .null ∧ j.sorted = j
  time : ∀ t ∈ m.time, t.Valid

theorem restores {m : ManagedFields} (h : m.Canonical) : (object schema).Restores of json m := by
  have hfields : any.RestoresPart Json.sorted id m.fields :=
    restores_part (fun j hj => restores_any (h.fields j hj).2) fun j hj => (h.fields j hj).1
  have htime : Shape.time.RestoresPart Json.asTime (.string ·.text) m.time :=
    restores_part (fun t ht => restores_time (h.time t ht)) fun _ _ => Json.noConfusion
  constructor
  · refine Holds.object ?_
    simp only [Holds, schema, List.forall_mem_cons, Json.last?_append, last?_optionalEntry,
      Option.none_or, Option.or_none, String.reduceEq, if_true, if_false]
    exact ⟨(restores_part_text _).conforms, (restores_part_text _).conforms, hfields.conforms,
      (restores_part_text _).conforms, (restores_part_text _).conforms,
      (restores_part_text _).conforms, htime.conforms, fun _ h => by cases h⟩
  · rw [of, json, part?_ofEntries]
    simp only [ofParts, Json.last?_append, last?_optionalEntry, Option.none_or, Option.or_none,
      String.reduceEq, if_true, if_false, (restores_part_text _).value_write, hfields.value_write,
      htime.value_write]

theorem canonical_of {j : Json} (h : (object schema).Conforms j) : (of j).Canonical where
  fields v hv := by
    obtain ⟨j', hnull, -, rfl⟩ := exists_of_optional (s := .any) (by simp [schema]) h hv
    exact ⟨fun hsorted => hnull (Json.sorted_eq_null_iff.mp hsorted), Json.sorted_sorted j'⟩
  time t ht := by
    obtain ⟨j', -, htime, rfl⟩ := exists_of_optional (s := .time) (by simp [schema]) h ht
    exact valid_asTime htime

end ManagedFields

namespace Metadata

def schema : List (String × Shape) :=
  [("name", .nullable .text), ("generateName", .nullable .text), ("namespace", .nullable .text),
   ("labels", .nullable (.map .text)), ("annotations", .nullable (.map .text)),
   ("resourceVersion", .nullable .text), ("uid", .nullable .text), ("selfLink", .nullable .text),
   ("generation", .nullable .long), ("creationTimestamp", .nullable .time),
   ("deletionTimestamp", .nullable .time), ("deletionGracePeriodSeconds", .nullable .long),
   ("finalizers", .nullable (.list .text)),
   ("ownerReferences", .nullable (.list (.object OwnerReference.schema))),
   ("managedFields", .nullable (.list (.object ManagedFields.schema)))]

def ofParts (part? : String → Option Json) : Metadata where
  name := (part? "name").bind (Json.asOption Json.asText)
  generateName := (part? "generateName").bind (Json.asOption Json.asText)
  namespaceName := (part? "namespace").bind (Json.asOption Json.asText)
  labels := (part? "labels").bind (Json.asOption (Json.asMap Json.asText))
  annotations := (part? "annotations").bind (Json.asOption (Json.asMap Json.asText))
  resourceVersion := (part? "resourceVersion").bind (Json.asOption Json.asText)
  uid := (part? "uid").bind (Json.asOption Json.asText)
  selfLink := (part? "selfLink").bind (Json.asOption Json.asText)
  generation := (part? "generation").bind (Json.asOption Json.asLong)
  creationTimestamp := (part? "creationTimestamp").bind (Json.asOption Json.asTime)
  deletionTimestamp := (part? "deletionTimestamp").bind (Json.asOption Json.asTime)
  deletionGracePeriodSeconds :=
    (part? "deletionGracePeriodSeconds").bind (Json.asOption Json.asLong)
  finalizers := (part? "finalizers").bind (Json.asOption (Json.asList Json.asText))
  ownerReferences :=
    (part? "ownerReferences").bind (Json.asOption (Json.asList OwnerReference.of))
  managedFields := (part? "managedFields").bind (Json.asOption (Json.asList ManagedFields.of))

def of (j : Json) : Metadata := ofParts (j.part? schema)

theorem frames : Frames schema fields ofParts where
  fits :=
    .cons (fits_make describes_text.nullable fun j values => by simp [ofParts]) <|
    .cons (fits_make describes_text.nullable fun j values => by simp [ofParts]) <|
    .cons (fits_make describes_text.nullable fun j values => by simp [ofParts]) <|
    .cons (fits_make describes_text.map.nullable fun j values => by simp [ofParts]) <|
    .cons (fits_make describes_text.map.nullable fun j values => by simp [ofParts]) <|
    .cons (fits_make describes_text.nullable fun j values => by simp [ofParts]) <|
    .cons (fits_make describes_text.nullable fun j values => by simp [ofParts]) <|
    .cons (fits_make describes_text.nullable fun j values => by simp [ofParts]) <|
    .cons (fits_make describes_long.nullable fun j values => by simp [ofParts]) <|
    .cons (fits_make describes_time.nullable fun j values => by simp [ofParts]) <|
    .cons (fits_make describes_time.nullable fun j values => by simp [ofParts]) <|
    .cons (fits_make describes_long.nullable fun j values => by simp [ofParts]) <|
    .cons (fits_make describes_text.list.nullable fun j values => by simp [ofParts]) <|
    .cons (fits_make OwnerReference.describes.list.nullable fun j values => by simp [ofParts]) <|
    .cons (fits_make ManagedFields.describes.list.nullable fun j values => by simp [ofParts]) .nil
  distinct := by decide
  others := by
    intro key hkey v values
    simp only [schema, List.map_cons, List.map_nil, List.mem_cons, not_or] at hkey
    simp only [ofParts, Function.update_apply, eq_comm (b := key), hkey, if_false]

theorem describes : (object schema).Describes read of := frames.mapping _

/-- Metadata as it is read: maps in ascending order, numbers of 64 bits, times of the calendar. -/
structure Canonical (m : Metadata) : Prop where
  labels : ∀ es ∈ m.labels, Json.Ascending es
  annotations : ∀ es ∈ m.annotations, Json.Ascending es
  generation : ∀ n ∈ m.generation, IsLong n
  creationTimestamp : ∀ t ∈ m.creationTimestamp, t.Valid
  deletionTimestamp : ∀ t ∈ m.deletionTimestamp, t.Valid
  deletionGracePeriodSeconds : ∀ n ∈ m.deletionGracePeriodSeconds, IsLong n
  managedFields : ∀ ms ∈ m.managedFields, ∀ f ∈ ms, f.Canonical

theorem restores {m : Metadata} (h : m.Canonical) : (object schema).Restores of json m := by
  have hlabels : (map .text).RestoresPart (Json.asMap Json.asText) .ofStringMap m.labels :=
    restores_part (fun es hes => restores_map (h.labels es hes)) fun _ _ => Json.noConfusion
  have hannotations :
      (map .text).RestoresPart (Json.asMap Json.asText) .ofStringMap m.annotations :=
    restores_part (fun es hes => restores_map (h.annotations es hes)) fun _ _ => Json.noConfusion
  have hgeneration : long.RestoresPart Json.asLong .integer m.generation :=
    restores_part (fun n hn => restores_long (h.generation n hn)) fun _ _ => Json.noConfusion
  have hcreation : time.RestoresPart Json.asTime (.string ·.text) m.creationTimestamp :=
    restores_part (fun t ht => restores_time (h.creationTimestamp t ht)) fun _ _ => Json.noConfusion
  have hdeletion : time.RestoresPart Json.asTime (.string ·.text) m.deletionTimestamp :=
    restores_part (fun t ht => restores_time (h.deletionTimestamp t ht)) fun _ _ => Json.noConfusion
  have hgrace : long.RestoresPart Json.asLong .integer m.deletionGracePeriodSeconds :=
    restores_part (fun n hn => restores_long (h.deletionGracePeriodSeconds n hn))
      fun _ _ => Json.noConfusion
  have hfinalizers : (list .text).RestoresPart (Json.asList Json.asText)
      (fun xs => .array (xs.map .string)) m.finalizers :=
    restores_part (fun _ _ => restores_list fun s _ => restores_text s) fun _ _ => Json.noConfusion
  have howners : (list (.object OwnerReference.schema)).RestoresPart
      (Json.asList OwnerReference.of) (fun xs => .array (xs.map (·.json))) m.ownerReferences :=
    restores_part (fun _ _ => restores_list fun o _ => o.restores) fun _ _ => Json.noConfusion
  have hmanaged : (list (.object ManagedFields.schema)).RestoresPart
      (Json.asList ManagedFields.of) (fun xs => .array (xs.map (·.json))) m.managedFields :=
    restores_part (fun ms hms => restores_list fun f hf =>
      ManagedFields.restores (h.managedFields ms hms f hf)) fun _ _ => Json.noConfusion
  constructor
  · refine Holds.object ?_
    simp only [Holds, schema, List.forall_mem_cons, Json.last?_append, last?_optionalEntry,
      Option.none_or, Option.or_none, String.reduceEq, if_true, if_false]
    exact ⟨(restores_part_text _).conforms, (restores_part_text _).conforms,
      (restores_part_text _).conforms, hlabels.conforms, hannotations.conforms,
      (restores_part_text _).conforms, (restores_part_text _).conforms,
      (restores_part_text _).conforms, hgeneration.conforms, hcreation.conforms,
      hdeletion.conforms, hgrace.conforms, hfinalizers.conforms, howners.conforms,
      hmanaged.conforms, fun _ h => by cases h⟩
  · rw [of, json, part?_ofEntries]
    simp only [ofParts, Json.last?_append, last?_optionalEntry, Option.none_or, Option.or_none,
      String.reduceEq, if_true, if_false, (restores_part_text _).value_write, hlabels.value_write,
      hannotations.value_write, hgeneration.value_write, hcreation.value_write,
      hdeletion.value_write, hgrace.value_write, hfinalizers.value_write, howners.value_write,
      hmanaged.value_write]

theorem canonical_of {j : Json} (h : (object schema).Conforms j) : (of j).Canonical where
  labels es hes := by
    obtain ⟨j', -, -, rfl⟩ := exists_of_optional (s := .map .text) (by simp [schema]) h hes
    exact ascending_asMap _ j'
  annotations es hes := by
    obtain ⟨j', -, -, rfl⟩ := exists_of_optional (s := .map .text) (by simp [schema]) h hes
    exact ascending_asMap _ j'
  generation n hn := by
    obtain ⟨j', -, hlong, rfl⟩ := exists_of_optional (s := .long) (by simp [schema]) h hn
    exact isLong_asLong hlong
  creationTimestamp t ht := by
    obtain ⟨j', -, htime, rfl⟩ := exists_of_optional (s := .time) (by simp [schema]) h ht
    exact valid_asTime htime
  deletionTimestamp t ht := by
    obtain ⟨j', -, htime, rfl⟩ := exists_of_optional (s := .time) (by simp [schema]) h ht
    exact valid_asTime htime
  deletionGracePeriodSeconds n hn := by
    obtain ⟨j', -, hlong, rfl⟩ := exists_of_optional (s := .long) (by simp [schema]) h hn
    exact isLong_asLong hlong
  managedFields ms hms f hf := by
    obtain ⟨j', -, hlist, rfl⟩ := exists_of_optional
      (s := .list (.object ManagedFields.schema)) (by simp [schema]) h hms
    obtain ⟨items, rfl, hitems⟩ := hlist
    obtain ⟨item, hitem, rfl⟩ := List.mem_map.mp hf
    exact ManagedFields.canonical_of (hitems item hitem)

/-- Canonical metadata is read of what is written of it. -/
theorem read_json {m : Metadata} (h : m.Canonical) : read m.json = .ok m :=
  (describes.read_eq_ok_iff _ _).mpr ⟨(restores h).conforms, (restores h).value_write.symm⟩

end Metadata

end FleetExporter
