import FleetExporter.Object.Timestamp

/-! The metadata of an object: who it is, where it lives and how it is managed. Every field may be
absent, and null stands for absence. -/
namespace FleetExporter

structure OwnerReference where
  apiVersion : String := ""
  kind : String := ""
  name : String := ""
  uid : String := ""
  controller : Option Bool := none
  blockOwnerDeletion : Option Bool := none
  deriving DecidableEq, Repr

structure ManagedFields where
  apiVersion : Option String := none
  fieldsType : Option String := none
  fields : Option Json := none
  manager : Option String := none
  operation : Option String := none
  subresource : Option String := none
  time : Option Timestamp := none

structure Metadata where
  name : Option String := none
  generateName : Option String := none
  namespaceName : Option String := none
  labels : Option (List (String × String)) := none
  annotations : Option (List (String × String)) := none
  resourceVersion : Option String := none
  uid : Option String := none
  selfLink : Option String := none
  generation : Option Int := none
  creationTimestamp : Option Timestamp := none
  deletionTimestamp : Option Timestamp := none
  deletionGracePeriodSeconds : Option Int := none
  finalizers : Option (List String) := none
  ownerReferences : Option (List OwnerReference) := none
  managedFields : Option (List ManagedFields) := none

namespace OwnerReference

def fields : List (Field OwnerReference) :=
  [.make "apiVersion" (.nullable .text) fun v o => { o with apiVersion := v.getD "" },
   .make "kind" (.nullable .text) fun v o => { o with kind := v.getD "" },
   .make "name" (.nullable .text) fun v o => { o with name := v.getD "" },
   .make "uid" (.nullable .text) fun v o => { o with uid := v.getD "" },
   .make "controller" (.nullable .flag) fun v o => { o with controller := v },
   .make "blockOwnerDeletion" (.nullable .flag) fun v o => { o with blockOwnerDeletion := v }]

def read : Reader OwnerReference := .mapping "OwnerReference" fields {}

end OwnerReference

namespace ManagedFields

def keys : List (Field ManagedFields) :=
  [.make "apiVersion" (.nullable .text) fun v m => { m with apiVersion := v },
   .make "fieldsType" (.nullable .text) fun v m => { m with fieldsType := v },
   .make "fieldsV1" (.nullable .any) fun v m => { m with fields := v },
   .make "manager" (.nullable .text) fun v m => { m with manager := v },
   .make "operation" (.nullable .text) fun v m => { m with operation := v },
   .make "subresource" (.nullable .text) fun v m => { m with subresource := v },
   .make "time" (.nullable Timestamp.read) fun v m => { m with time := v }]

def read : Reader ManagedFields := .mapping "ManagedFieldsEntry" keys {}

end ManagedFields

/-- The entry of an optional field: none when it is absent. -/
def optionalEntry {α : Type} (key : String) (write : α → Json) :
    Option α → List (String × Json)
  | none => []
  | some a => [(key, write a)]

def OwnerReference.json (o : OwnerReference) : Json :=
  .ofEntries <|
    [("apiVersion", .string o.apiVersion), ("kind", .string o.kind), ("name", .string o.name),
     ("uid", .string o.uid)] ++
    optionalEntry "controller" .bool o.controller ++
    optionalEntry "blockOwnerDeletion" .bool o.blockOwnerDeletion

def ManagedFields.json (m : ManagedFields) : Json :=
  .ofEntries <|
    optionalEntry "apiVersion" .string m.apiVersion ++
    optionalEntry "fieldsType" .string m.fieldsType ++
    optionalEntry "fieldsV1" id m.fields ++
    optionalEntry "manager" .string m.manager ++
    optionalEntry "operation" .string m.operation ++
    optionalEntry "subresource" .string m.subresource ++
    optionalEntry "time" (.string ·.text) m.time

namespace Metadata

def fields : List (Field Metadata) :=
  [.make "name" (.nullable .text) fun v m => { m with name := v },
   .make "generateName" (.nullable .text) fun v m => { m with generateName := v },
   .make "namespace" (.nullable .text) fun v m => { m with namespaceName := v },
   .make "labels" (.nullable (.map .text)) fun v m => { m with labels := v },
   .make "annotations" (.nullable (.map .text)) fun v m => { m with annotations := v },
   .make "resourceVersion" (.nullable .text) fun v m => { m with resourceVersion := v },
   .make "uid" (.nullable .text) fun v m => { m with uid := v },
   .make "selfLink" (.nullable .text) fun v m => { m with selfLink := v },
   .make "generation" (.nullable .long) fun v m => { m with generation := v },
   .make "creationTimestamp" (.nullable Timestamp.read) fun v m =>
     { m with creationTimestamp := v },
   .make "deletionTimestamp" (.nullable Timestamp.read) fun v m =>
     { m with deletionTimestamp := v },
   .make "deletionGracePeriodSeconds" (.nullable .long) fun v m =>
     { m with deletionGracePeriodSeconds := v },
   .make "finalizers" (.nullable (.list .text)) fun v m => { m with finalizers := v },
   .make "ownerReferences" (.nullable (.list OwnerReference.read)) fun v m =>
     { m with ownerReferences := v },
   .make "managedFields" (.nullable (.list ManagedFields.read)) fun v m =>
     { m with managedFields := v }]

def read : Reader Metadata := .mapping "ObjectMeta" fields {}

/-- The present fields. -/
def json (m : Metadata) : Json :=
  .ofEntries <|
    optionalEntry "name" .string m.name ++
    optionalEntry "generateName" .string m.generateName ++
    optionalEntry "namespace" .string m.namespaceName ++
    optionalEntry "labels" .ofStringMap m.labels ++
    optionalEntry "annotations" .ofStringMap m.annotations ++
    optionalEntry "resourceVersion" .string m.resourceVersion ++
    optionalEntry "uid" .string m.uid ++
    optionalEntry "selfLink" .string m.selfLink ++
    optionalEntry "generation" .integer m.generation ++
    optionalEntry "creationTimestamp" (.string ·.text) m.creationTimestamp ++
    optionalEntry "deletionTimestamp" (.string ·.text) m.deletionTimestamp ++
    optionalEntry "deletionGracePeriodSeconds" .integer m.deletionGracePeriodSeconds ++
    optionalEntry "finalizers" (fun xs => .array (xs.map .string)) m.finalizers ++
    optionalEntry "ownerReferences" (fun xs => .array (xs.map (·.json))) m.ownerReferences ++
    optionalEntry "managedFields" (fun xs => .array (xs.map (·.json))) m.managedFields

/-- The name, else the stem a name is generated from, else nothing. -/
def nameAny (m : Metadata) : String := (m.name.orElse fun _ => m.generateName).getD ""

/-- What the object's samples are stored under: namespace, slash, name. -/
def key (m : Metadata) : String := m.namespaceName.getD "" ++ "/" ++ m.nameAny

end Metadata

end FleetExporter
