import FleetExporter.Binary64.Text
import FleetExporter.Text.Quoted

/-! JSON values. An object keeps its entries in the order of the text, repetitions included;
`sorted` is the form in which each key stands once (its last value) and keys ascend. -/
namespace FleetExporter

inductive Json where
  | null
  | bool (value : Bool)
  | integer (value : Int)
  | real (value : Binary64)
  | string (value : String)
  | array (items : List Json)
  | object (entries : List (String × Json))
  deriving Inhabited, Repr

namespace Json

/-- Sets a key of entries with ascending keys. -/
def setEntry {α : Type} (key : String) (value : α) : List (String × α) → List (String × α)
  | [] => [(key, value)]
  | (k, v) :: rest =>
    if key < k then (key, value) :: (k, v) :: rest
    else if key = k then (key, value) :: rest
    else (k, v) :: setEntry key value rest

/-- Each key once, with its last value, in ascending order. -/
def sortEntries {α : Type} (entries : List (String × α)) : List (String × α) :=
  entries.foldl (fun sorted e => setEntry e.1 e.2 sorted) []

mutual

def sorted : Json → Json
  | .array items => .array (sortedItems items)
  | .object entries => .object (sortEntries (sortedEntries entries))
  | j => j

def sortedItems : List Json → List Json
  | [] => []
  | j :: rest => sorted j :: sortedItems rest

def sortedEntries : List (String × Json) → List (String × Json)
  | [] => []
  | (k, j) :: rest => (k, sorted j) :: sortedEntries rest

end

/-- The value at a key of an object. -/
def get? (key : String) : Json → Option Json
  | .object entries => entries.lookup key
  | _ => none

def string? : Json → Option String
  | .string s => some s
  | _ => none

/-- An object with keys in ascending order. -/
def ofEntries (entries : List (String × Json)) : Json := .object (sortEntries entries)

def ofOption {α : Type} (f : α → Json) : Option α → Json
  | none => .null
  | some a => f a

def ofStringMap (entries : List (String × String)) : Json :=
  .object (entries.map fun e => (e.1, .string e.2))

end Json

end FleetExporter
