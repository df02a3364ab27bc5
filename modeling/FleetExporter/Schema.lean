import FleetExporter.Json.Scanner

/-! Reading typed values out of JSON. A reader accepts a value or says why not; out of a text it
takes only what it asks for. A record is read from an object, entry by entry in their order, where
unknown keys are passed over and a missing key keeps its default; or from an array, which gives the
fields in their order. -/
namespace FleetExporter

/-- Why a JSON value is not of the type asked for. -/
inductive Mismatch where
  | wrongType (found : Json) (expected : String)
  | outOfRange (found : Int) (expected : String)
  | missingField (key : String)
  | repeatedField (key : String)
  | tooManyItems (length : Nat)
  | unreadable (reason : String)

namespace Mismatch

/-- What a value is called in messages. -/
def describe : Json → String
  | .null => "null"
  | .bool b => "boolean `" ++ (if b then "true" else "false") ++ "`"
  | .integer n => "integer `" ++ toString n ++ "`"
  | .real x => "floating point `" ++ x.dataText ++ "`"
  | .string s => "string " ++ Text.quoted s
  | .array _ => "sequence"
  | .object _ => "map"

def message : Mismatch → String
  | wrongType found expected => "invalid type: " ++ describe found ++ ", expected " ++ expected
  | outOfRange found expected =>
    "invalid value: integer `" ++ toString found ++ "`, expected " ++ expected
  | missingField key => "missing field `" ++ key ++ "`"
  | repeatedField key => "duplicate field `" ++ key ++ "`"
  | tooManyItems length =>
    "invalid length " ++ toString length ++ ", expected fewer elements in array"
  | unreadable reason => reason

end Mismatch

/-- Reads a type out of JSON: it says what to keep of a text, and what is kept or given as a value
it accepts or refuses. -/
structure Reader (α : Type) where
  scan : Json.Scanner
  read : Json → Except Mismatch α

namespace Reader

instance {α : Type} : CoeFun (Reader α) fun _ => Json → Except Mismatch α := ⟨Reader.read⟩

/-- In a text, a value that is refused is refused as soon as it ends. -/
def judging {α : Type} (scan : Json.Scanner) (read : Json → Except Mismatch α) : Reader α :=
  ⟨scan.checked fun j => (read j).isOk, read⟩

/-- What is read is no container. -/
def scalar {α : Type} (read : Json → Except Mismatch α) : Reader α := judging .scalar read

@[simp] theorem read_judging {α : Type} (scan : Json.Scanner) (read : Json → Except Mismatch α) :
    (judging scan read).read = read := rfl

@[simp] theorem read_scalar {α : Type} (read : Json → Except Mismatch α) :
    (scalar read).read = read := rfl

/-- Reads a text that holds one value; nothing is told of why the value is refused. -/
def ofText {α : Type} (r : Reader α) (text : String) : Except Json.Fault α :=
  match r.scan.run text with
  | .error f => .error f
  | .ok j =>
    match r j with
    | .error _ => .error .malformed
    | .ok a => .ok a

/-- The same value, taken as a part or a case of something else. -/
def into {α β : Type} (r : Reader α) (f : α → β) : Reader β := ⟨r.scan, fun j => (r j).map f⟩

def text : Reader String := scalar fun
  | .string s => .ok s
  | j => .error (.wrongType j "a string")

def flag : Reader Bool := scalar fun
  | .bool b => .ok b
  | j => .error (.wrongType j "a boolean")

/-- An integer of 64 bits with a sign. -/
def long : Reader Int := scalar fun
  | .integer n =>
    if -Int.pow 2 63 ≤ n ∧ n < Int.pow 2 63 then .ok n else .error (.outOfRange n "i64")
  | j => .error (.wrongType j "i64")

/-- Any value, each key of its objects once and in ascending order. -/
def any : Reader Json := ⟨.whole, fun j => .ok j.sorted⟩

/-- Null stands for absence. -/
def nullable {α : Type} (r : Reader α) : Reader (Option α) where
  scan := .nullable r.scan
  read
    | .null => .ok none
    | j => (r j).map some

def items {α : Type} (r : Reader α) : List Json → Except Mismatch (List α)
  | [] => .ok []
  | j :: rest =>
    match r j with
    | .error m => .error m
    | .ok a => (items r rest).map (a :: ·)

def list {α : Type} (r : Reader α) : Reader (List α) where
  scan := .list r.scan
  read
    | .array js => items r js
    | j => .error (.wrongType j "a sequence")

def entries {α : Type} (r : Reader α) :
    List (String × Json) → Except Mismatch (List (String × α))
  | [] => .ok []
  | (k, j) :: rest =>
    match r j with
    | .error m => .error m
    | .ok a => (entries r rest).map ((k, a) :: ·)

/-- A map by key, in ascending order of the keys. -/
def map {α : Type} (r : Reader α) : Reader (List (String × α)) where
  scan := .map r.scan
  read
    | .object es => (entries r es).map Json.sortEntries
    | j => .error (.wrongType j "a map")

end Reader

/-- A field of a record: its key, what is kept of its value in a text, and how its value changes
the record. -/
structure Field (α : Type) where
  key : String
  scan : Json.Scanner
  read : Json → Except Mismatch (α → α)

namespace Field

def make {α β : Type} (key : String) (r : Reader β) (set : β → α → α) : Field α :=
  ⟨key, r.scan, fun j => (r j).map set⟩

/-- The known keys of a text, each with what is kept of its value. -/
def known {α : Type} (fields : List (Field α)) : List (String × Json.Scanner) :=
  fields.map fun f => (f.key, f.scan)

/-- Reads the entries of an object whose keys are known. -/
def visit {α : Type} (fields : List (Field α)) :
    List (String × Json) → α → Except Mismatch α
  | [], a => .ok a
  | (k, j) :: rest, a =>
    match fields.find? (·.key = k) with
    | none => visit fields rest a
    | some f =>
      match f.read j with
      | .error m => .error m
      | .ok set => visit fields rest (set a)

/-- Reads as many items as there are fields. -/
def position {α : Type} : List (Field α) → List Json → α → Except Mismatch α
  | f :: fields, j :: rest, a =>
    match f.read j with
    | .error m => .error m
    | .ok set => position fields rest (set a)
  | _, _, a => .ok a

/-- Whether a key of the fields stands twice among the entries. -/
def repeated? {α : Type} (fields : List (Field α)) (entries : List (String × Json)) :
    Option String :=
  (fields.map (·.key)).find? fun key => 1 < entries.countP (·.1 = key)

end Field

namespace Reader

/-- A record given as an object. In a text a key may be repeated. -/
def mapping {α : Type} (expected : String) (fields : List (Field α)) (start : α) : Reader α where
  scan := .object (.lenient (Field.known fields))
  read
    | .object es => Field.visit fields es start
    | j => .error (.wrongType j expected)

/-- A record given as an object or an array. In a text each key stands once. -/
def record {α : Type} (name : String) (fields : List (Field α)) (start : α) : Reader α where
  scan := .arrayOr (.tuple (fields.map (·.scan))) (.object (.once (Field.known fields) .pass))
  read
    | .object es => Field.visit fields es start
    | .array js =>
      match Field.position fields js start with
      | .error m => .error m
      | .ok a => if fields.length < js.length then .error (.tooManyItems js.length) else .ok a
    | j => .error (.wrongType j ("struct " ++ name))

/-- Refuses an object in which a known key stands twice. -/
def once {α β : Type} (fields : List (Field β)) (r : Reader α) : Reader α where
  scan := r.scan
  read j :=
    match j with
    | .object es =>
      match Field.repeated? fields es with
      | some key => .error (.repeatedField key)
      | none => r j
    | _ => r j

end Reader

theorem Field.visit_append {α : Type} (fields : List (Field α)) (xs ys : List (String × Json))
    (a : α) : Field.visit fields (xs ++ ys) a =
      (Field.visit fields xs a).bind (Field.visit fields ys) := by
  induction xs generalizing a with
  | nil => rfl
  | cons x xs ih =>
    obtain ⟨k, j⟩ := x
    simp only [List.cons_append, Field.visit]
    split
    · exact ih a
    · split
      · rfl
      · exact ih _

end FleetExporter
