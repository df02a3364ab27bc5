import FleetExporter.Json.Skip

/-! Scanning a text for a value of which only parts are asked for. A scanner keeps the parts and
passes over the rest; it stops at the first thing that is not as asked, so a text that is wrong
before it breaks off is malformed, and one that only breaks off ends too early. -/
namespace FleetExporter.Json

/-- Reads what it asks for, with a number of levels of containers left. -/
abbrev Scanner := Nat → List Char → Reading Json

namespace Scanner

/-- Any value, all of it. -/
def whole : Scanner := fun depth s => readValue (2 * s.length + 2) depth s

/-- Any value that is no container. -/
def scalar : Scanner := fun _ s => readValue 1 0 s

/-- The fault of a text where a container is expected: it is malformed, unless a value of another
kind breaks off. -/
def mistyped {α : Type} (s : List Char) : Reading α :=
  match scalar 0 s with
  | .error f => .error f
  | .ok _ => .error .malformed

/-- Refuses a value that does not fit, right after it is scanned. -/
def checked (scan : Scanner) (fits : Json → Bool) : Scanner := fun depth s =>
  match scan depth s with
  | .error f => .error f
  | .ok (j, r) => if fits j then .ok (j, r) else .error .malformed

/-- Null, or what is asked for. -/
def nullable (scan : Scanner) : Scanner := fun depth s =>
  match skipGap s with
  | 'n' :: r => readWord .null ['u', 'l', 'l'] r
  | s => scan depth s

/-! ## Arrays -/

/-- The items of an array up to its closing bracket, of which there is one at least. -/
def items (scan : List Char → Reading Json) : Nat → List Char → Reading (List Json)
  | 0, _ => .error .malformed
  | fuel + 1, s =>
    match scan s with
    | .error f => .error f
    | .ok (j, r) =>
      match skipGap r with
      | [] => .error .endOfInput
      | c :: r =>
        if c = ']' then .ok ([j], r)
        else if c = ',' then (items scan fuel r).map fun p => (j :: p.1, p.2)
        else .error .malformed

/-- An array whose items are all asked for in the same way. -/
def list (scan : Scanner) : Scanner := fun depth s =>
  match skipGap s with
  | '[' :: r =>
    if depth = 0 then .error .malformed
    else
      match skipGap r with
      | ']' :: r => .ok (.array [], r)
      | r => (items (scan (depth - 1)) (r.length + 1) r).map fun p => (.array p.1, p.2)
  | s => mistyped s

/-- Items that have a place each, up to the closing bracket, the first of which needs no comma.
The array may end early, but one item more than there are places is one too many. -/
def places (depth : Nat) : Bool → List Scanner → List Char → Reading (List Json)
  | first, scans, s =>
    match skipGap s, scans with
    | [], _ => .error .endOfInput
    | ']' :: r, _ => .ok ([], r)
    | _ :: _, [] => .error .malformed
    | c :: r, scan :: scans =>
      if first ∨ c = ',' then
        match scan depth (if first then c :: r else r) with
        | .error f => .error f
        | .ok (j, r) => (places depth false scans r).map fun p => (j :: p.1, p.2)
      else .error .malformed

/-- An array whose items have a place each. -/
def tuple (scans : List Scanner) : Scanner := fun depth s =>
  match skipGap s with
  | '[' :: r =>
    if depth = 0 then .error .malformed
    else (places (depth - 1) true scans r).map fun p => (.array p.1, p.2)
  | s => mistyped s

/-! ## Objects -/

/-- What becomes of an entry, once its key is known. -/
inductive Step where
  | refuse
  | pass
  | keep (scan : Scanner)

/-- Decides about an entry from the entries kept so far, the last one first, and its key. -/
abbrev Plan := List (String × Json) → String → Step

/-- A key and the text after it. -/
def key (s : List Char) : Reading String :=
  match skipGap s with
  | [] => .error .endOfInput
  | '"' :: r => readString (r.length + 1) [] r
  | _ => .error .malformed

/-- The text after a colon. -/
def colon (s : List Char) : Skipping :=
  match skipGap s with
  | [] => .error .endOfInput
  | ':' :: r => .ok r
  | _ => .error .malformed

/-- The value of an entry, if it is kept, given the text after its key. -/
def entry (depth : Nat) (step : Step) (s : List Char) : Reading (Option Json) :=
  match step with
  | .refuse => .error .malformed
  | .pass =>
    match colon s with
    | .error f => .error f
    | .ok r => (skip r).map (none, ·)
  | .keep scan =>
    match colon s with
    | .error f => .error f
    | .ok r => (scan depth r).map fun p => (some p.1, p.2)

/-- The entries of an object up to its closing brace, of which there is one at least. -/
def entries (plan : Plan) (depth : Nat) : Nat → List (String × Json) → List Char → Reading Json
  | 0, _, _ => .error .malformed
  | fuel + 1, kept, s =>
    match key s with
    | .error f => .error f
    | .ok (k, r) =>
      match entry depth (plan kept k) r with
      | .error f => .error f
      | .ok (j, r) =>
        let kept := (j.map ((k, ·))).toList ++ kept
        match skipGap r with
        | [] => .error .endOfInput
        | c :: r =>
          if c = '\x7d' then .ok (.object kept.reverse, r)
          else if c = ',' then entries plan depth fuel kept r
          else .error .malformed

/-- An object whose entries are asked for as a plan says. -/
def object (plan : Plan) : Scanner := fun depth s =>
  match skipGap s with
  | '\x7b' :: r =>
    if depth = 0 then .error .malformed
    else
      match skipGap r with
      | '\x7d' :: r => .ok (.object [], r)
      | r => entries plan (depth - 1) (r.length + 1) [] r
  | s => mistyped s

/-- An object whose values are all asked for in the same way. -/
def map (scan : Scanner) : Scanner := object fun _ _ => .keep scan

def isKept (kept : List (String × Json)) (key : String) : Bool := kept.any (·.1 = key)

/-- Known keys may be repeated; the other entries are passed over. -/
def Plan.lenient (known : List (String × Scanner)) : Plan := fun _ key =>
  match known.lookup key with
  | none => .pass
  | some scan => .keep scan

/-- Known keys stand once; what becomes of the other entries is the same for all. -/
def Plan.once (known : List (String × Scanner)) (others : Step) : Plan := fun kept key =>
  match known.lookup key with
  | none => others
  | some scan => if isKept kept key then .refuse else .keep scan

/-- Either of two, where an array starts the first. -/
def arrayOr (array other : Scanner) : Scanner := fun depth s =>
  if (skipGap s).head? = some '[' then array depth s else other depth s

/-- Scans a text that holds one value and nothing else but gaps. -/
def run (scan : Scanner) (text : String) : Except Fault Json :=
  match scan depthLimit text.toList with
  | .error f => .error f
  | .ok (j, r) => if (skipGap r).isEmpty then .ok j else .error .malformed

end Scanner

/-- Reads a text that holds one value and nothing else but gaps. -/
def parse : String → Except Fault Json := Scanner.whole.run

end FleetExporter.Json
