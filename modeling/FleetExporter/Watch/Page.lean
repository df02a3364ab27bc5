import FleetExporter.Object.Untyped

/-! A page of a list of objects: the objects, where the list goes on, and the version it shows. -/
namespace FleetExporter.Watch

structure Page where
  items : List Untyped := []
  nextPage : Option String := none
  version : Option String := none

namespace Page

structure Meta where
  nextPage : Option String := none
  version : Option String := none
  remaining : Option Int := none
  selfLink : Option String := none

def metaFields : List (Field Meta) :=
  [.make "continue" (.nullable .text) fun v m => { m with nextPage := v },
   .make "remainingItemCount" (.nullable .long) fun v m => { m with remaining := v },
   .make "resourceVersion" (.nullable .text) fun v m => { m with version := v },
   .make "selfLink" (.nullable .text) fun v m => { m with selfLink := v }]

structure Parts where
  about : Meta := {}
  items : Option (List Untyped) := none

def fields : List (Field Parts) :=
  [.make "metadata" (.mapping "ListMeta" metaFields {}) fun v p => { p with about := v },
   .make "items" (.nullable (.list Untyped.read)) fun v p => { p with items := some (v.getD []) }]

def readParts : Reader Parts := .once fields (.mapping "a map" fields {})

/-- An empty text says as little as a missing one. -/
def nonEmpty (s : Option String) : Option String := s.filter (· ≠ "")

/-- The items are required; null stands for none. Entries that mean nothing here still belong to the
page. -/
def read : Reader Page where
  scan := .object (.once (Field.known fields) (.keep .whole))
  read j :=
    match readParts j with
    | .error m => .error m
    | .ok p =>
      match p.items with
      | none => .error (.missingField "items")
      | some items => .ok ⟨items, nonEmpty p.about.nextPage, nonEmpty p.about.version⟩

end Page

end FleetExporter.Watch
