import FleetExporter.Api.Response
import FleetExporter.Object.Untyped

/-! The lines of a watch, each of which tells of one change. A line that only breaks off says
nothing; a line that is no notice but a status reports a refusal. -/
namespace FleetExporter.Watch

inductive Notice where
  | changed (o : Untyped)
  | removed (o : Untyped)
  | bookmark (version : String)
  | refused (status : ApiStatus)

namespace Notice

/-! ## Bookmarks -/

/-- What a bookmark says of the version it marks. -/
structure Mark where
  version : Option String := none
  annotations : List (String × String) := []

def markFields : List (Field Mark) :=
  [.make "resourceVersion" .text fun v m => { m with version := some v },
   .make "annotations" (.map .text) fun v m => { m with annotations := v }]

def readMarkParts : Reader Mark := .once markFields (.record "BookmarkMeta" markFields {})

def readMark : Reader Mark := .judging readMarkParts.scan fun j =>
  match readMarkParts j with
  | .error m => .error m
  | .ok m => if m.version = none then .error (.missingField "resourceVersion") else .ok m

structure Bookmark where
  apiVersion : Option String := none
  kind : Option String := none
  mark : Option Mark := none

def markField : Field Bookmark := .make "metadata" readMark fun v b => { b with mark := some v }

def bookmarkFields : List (Field Bookmark) :=
  [.make "apiVersion" .text fun v b => { b with apiVersion := some v },
   .make "kind" .text fun v b => { b with kind := some v },
   markField]

def readBookmarkParts : Reader Bookmark :=
  .once bookmarkFields (.mapping "a map" bookmarkFields {})

/-- The version that a bookmark marks. Its kind and where it is defined are required, but looked at
last. -/
def readBookmark : Reader String :=
  .judging (.object (.once (Field.known [markField]) (.keep .whole))) fun j =>
    match readBookmarkParts j with
    | .error m => .error m
    | .ok b =>
      match b.apiVersion, b.kind, b.mark.bind (·.version) with
      | some _, some _, some version => .ok version
      | none, _, _ => .error (.missingField "apiVersion")
      | some _, none, _ => .error (.missingField "kind")
      | some _, some _, none => .error (.missingField "metadata")

/-! ## Tags -/

/-- The sorts of notices. -/
inductive Tag where
  | added
  | modified
  | deleted
  | bookmark
  | error
  deriving DecidableEq, Repr

namespace Tag

def word : Tag → String
  | added => "ADDED"
  | modified => "MODIFIED"
  | deleted => "DELETED"
  | bookmark => "BOOKMARK"
  | error => "ERROR"

def all : List Tag := [added, modified, deleted, bookmark, error]

def ofWord? (s : String) : Option Tag := all.find? (·.word = s)

def ofJson? (j : Json) : Option Tag := j.string?.bind ofWord?

/-- What a notice with a tag holds. -/
def content : Tag → Reader Notice
  | added => Untyped.read.into .changed
  | modified => Untyped.read.into .changed
  | deleted => Untyped.read.into .removed
  | bookmark => readBookmark.into .bookmark
  | error => Api.readStatus.into .refused

end Tag

/-! ## Scanning a line -/

open Json (Scanner)

def typeKey : String := "type"

def objectKey : String := "object"

/-- The word of a tag. -/
def wordScan : Scanner := Scanner.scalar.checked fun j => (Tag.ofJson? j).isSome

/-- The word of a tag as the only key of an object, with null for its value; given is the text after
the opening brace. -/
def keyScan : Scanner := fun depth s =>
  match wordScan depth s with
  | .error f => .error f
  | .ok (tag, r) =>
    match Scanner.colon r with
    | .error f => .error f
    | .ok r =>
      match Scanner.scalar.checked (· matches .null) depth r with
      | .error f => .error f
      | .ok (_, r) =>
        match Json.skipGap r with
        | [] => .error .endOfInput
        | '\x7d' :: r => .ok (tag, r)
        | _ => .error .malformed

/-- A tag in either form. A value of another kind is refused by its first character. -/
def tagScan : Scanner := fun depth s =>
  match Json.skipGap s with
  | [] => .error .endOfInput
  | '"' :: r => wordScan depth ('"' :: r)
  | '\x7b' :: r => keyScan depth r
  | _ => .error .malformed

/-- Whether a content goes with a tag. -/
def fits (tag content : Json) : Bool :=
  (Tag.ofJson? tag).any fun t => (t.content content).isOk

/-- What is kept of a content: all of it while the tag is not known. -/
def contentScan (tag : Option Json) : Scanner :=
  match tag.bind Tag.ofJson? with
  | none => .whole
  | some t => t.content.scan

/-- A tag and a content in either order, each once. A content that came first is judged as soon as
its tag is known. -/
def plan : Scanner.Plan := fun kept key =>
  if key ≠ typeKey ∧ key ≠ objectKey then .pass
  else if Scanner.isKept kept key then .refuse
  else if key = typeKey then
    .keep (tagScan.checked fun tag => (kept.lookup objectKey).all (fits tag))
  else .keep (contentScan (kept.lookup typeKey))

/-- A word and a content as the items of an array. -/
def pairScan : Scanner := fun depth s =>
  match Json.skipGap s with
  | '[' :: r =>
    match wordScan (depth - 1) r with
    | .error f => .error f
    | .ok (tag, r) =>
      match Json.skipGap r with
      | [] => .error .endOfInput
      | ',' :: r =>
        match contentScan (some tag) (depth - 1) r with
        | .error f => .error f
        | .ok (content, r) =>
          match Json.skipGap r with
          | [] => .error .endOfInput
          | ']' :: r => .ok (.object [(typeKey, tag), (objectKey, content)], r)
          | _ => .error .malformed
      | _ => .error .malformed
  | s => Scanner.mistyped s

/-- A tag, and a content of the type it stands for. -/
def read : Reader Notice where
  scan := .arrayOr pairScan (.object plan)
  read j :=
    match j.get? typeKey, j.get? objectKey with
    | none, _ => .error (.missingField typeKey)
    | some _, none => .error (.missingField objectKey)
    | some tag, some content =>
      match Tag.ofJson? tag with
      | none => .error (.wrongType tag "a tag")
      | some t => t.content content

/-- What a line says: nothing when it breaks off. -/
def ofLine? (line : String) : Option (Except RequestError Notice) :=
  match read.ofText line with
  | .ok notice => some (.ok notice)
  | .error .endOfInput => none
  | .error .malformed =>
    match Api.statusOf? line with
    | some status => some (.error (.refused status))
    | none => some (.error .unreadable)

end Notice

/-! ## Lines -/

/-- A line from its characters in reverse order, without a carriage return at its end. -/
def finishLine : List Char → String
  | '\r' :: reversed => String.ofList reversed.reverse
  | reversed => String.ofList reversed.reverse

/-- The lines of a text, where `reversed` is what was read of the current one. What follows the
last line end is a line unless nothing, or only a carriage return, is left. -/
def linesFrom (reversed : List Char) : List Char → List String
  | [] => if reversed = [] ∨ reversed = ['\r'] then [] else [finishLine reversed]
  | '\n' :: rest => finishLine reversed :: linesFrom [] rest
  | c :: rest => linesFrom (c :: reversed) rest

def lines (text : String) : List String := linesFrom [] text.toList

end FleetExporter.Watch
