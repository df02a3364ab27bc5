import FleetExporter.Object.Metadata

/-! Objects as they come from the API: metadata, and whatever else they hold. The version and the
kind that an object states for itself are not read. -/
namespace FleetExporter

structure Untyped where
  metadata : Metadata := {}
  fields : List (String × Json) := []

namespace Untyped

def metadataField : Field Metadata := .make "metadata" Metadata.read fun v _ => v

/-- Keys that belong to every object and not to the data of its kind. -/
def commonKeys : List String := ["apiVersion", "kind", "metadata"]

/-- The metadata may be missing, but neither null nor of another type, nor given twice. -/
def read : Reader Untyped where
  scan := .object (.once (Field.known [metadataField]) (.keep .whole))
  read
    | .object entries =>
      match Field.repeated? [metadataField] entries with
      | some key => .error (.repeatedField key)
      | none =>
        match Field.visit [metadataField] entries {} with
        | .error m => .error m
        | .ok metadata =>
          let own := entries.filter fun e => !commonKeys.contains e.1
          .ok ⟨metadata, Json.sortEntries (Json.sortedEntries own)⟩
    | j => .error (.wrongType j "struct DynamicObject")

def key (o : Untyped) : String := o.metadata.key

end Untyped

end FleetExporter
