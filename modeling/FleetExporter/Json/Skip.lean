import FleetExporter.Json.Parser

/-! Passing over a value that nobody asks for. Only its form is looked at: containers may be nested
to any depth, numbers may have any size, and an escape need not stand for a character. A number
that breaks off is malformed even at the end of the text. -/
namespace FleetExporter.Json

/-- The text after what was passed over. -/
abbrev Skipping := Except Fault (List Char)

/-- The letters and marks that may follow a backslash on their own. -/
def shortEscapes : List Char := ['"', '\\', '/', 'b', 'f', 'n', 'r', 't']

def skipEscape : List Char → Skipping
  | [] => .error .endOfInput
  | 'u' :: r => (readHex r).map (·.2)
  | c :: r => if shortEscapes.contains c then .ok r else .error .malformed

/-- The characters of a string after its opening quote. -/
def skipString : Nat → List Char → Skipping
  | 0, _ => .error .malformed
  | _ + 1, [] => .error .endOfInput
  | fuel + 1, c :: r =>
    if c = '"' then .ok r
    else if c = '\\' then
      match skipEscape r with
      | .error f => .error f
      | .ok r => skipString fuel r
    else if c.toNat < 0x20 then .error .malformed
    else skipString fuel r

/-- One digit at least, and all that follow it. -/
def skipDigits (s : List Char) : Skipping :=
  if s.head?.any Char.isDigit then .ok (s.dropWhile Char.isDigit) else .error .malformed

/-- An exponent, if there is one. -/
def skipExponent : List Char → Skipping
  | [] => .ok []
  | c :: r =>
    if c = 'e' ∨ c = 'E' then
      skipDigits (if r.head? = some '-' ∨ r.head? = some '+' then r.tail else r)
    else .ok (c :: r)

/-- What follows the whole digits of a number. -/
def skipFraction : List Char → Skipping
  | '.' :: r =>
    match skipDigits r with
    | .error f => .error f
    | .ok r => skipExponent r
  | s => skipExponent s

/-- A number after its sign: no zero stands before another digit. -/
def skipNumber (s : List Char) : Skipping :=
  match s with
  | '0' :: r => if r.head?.any Char.isDigit then .error .malformed else skipFraction r
  | s =>
    match skipDigits s with
    | .error f => .error f
    | .ok r => skipFraction r

/-- A value that is no container, given its first character and the rest. -/
def skipScalar (c : Char) (r : List Char) : Skipping :=
  if c = 'n' then (readWord .null ['u', 'l', 'l'] r).map (·.2)
  else if c = 't' then (readWord .null ['r', 'u', 'e'] r).map (·.2)
  else if c = 'f' then (readWord .null ['a', 'l', 's', 'e'] r).map (·.2)
  else if c = '"' then skipString (r.length + 1) r
  else if c = '-' then skipNumber r
  else if c.isDigit then skipNumber (c :: r)
  else .error .malformed

/-- The two kinds of values that hold others. -/
inductive Container where
  | array
  | object
  deriving DecidableEq, Repr

def Container.closing : Container → Char
  | .array => ']'
  | .object => '\x7d'

mutual

/-- One value inside the containers that are open, the innermost first, and all up to their ends.
With no container open it is the value alone. -/
def skipValue : Nat → List Container → List Char → Skipping
  | 0, _, _ => .error .malformed
  | fuel + 1, opened, s =>
    match skipGap s with
    | [] => .error .endOfInput
    | c :: r =>
      if c = '[' then
        match skipGap r with
        | ']' :: r => skipRest fuel opened r
        | r => skipValue fuel (.array :: opened) r
      else if c = '\x7b' then
        match skipGap r with
        | '\x7d' :: r => skipRest fuel opened r
        | r => skipEntry fuel (.object :: opened) r
      else
        match skipScalar c r with
        | .error f => .error f
        | .ok r => skipRest fuel opened r

/-- A key of the innermost container and what follows it. -/
def skipEntry : Nat → List Container → List Char → Skipping
  | 0, _, _ => .error .malformed
  | fuel + 1, opened, s =>
    match skipGap s with
    | [] => .error .endOfInput
    | '"' :: r =>
      match skipString (r.length + 1) r with
      | .error f => .error f
      | .ok r =>
        match skipGap r with
        | [] => .error .endOfInput
        | ':' :: r => skipValue fuel opened r
        | _ => .error .malformed
    | _ => .error .malformed

/-- What follows a value inside the containers that are open. -/
def skipRest : Nat → List Container → List Char → Skipping
  | _, [], s => .ok s
  | 0, _ :: _, _ => .error .malformed
  | fuel + 1, k :: opened, s =>
    match skipGap s with
    | [] => .error .endOfInput
    | c :: r =>
      if c = ',' then
        match k with
        | .array => skipValue fuel (k :: opened) r
        | .object => skipEntry fuel (k :: opened) r
      else if c = k.closing then skipRest fuel opened r
      else .error .malformed

end

/-- The text after one value. -/
def skip (s : List Char) : Skipping := skipValue (s.length + 1) [] s

end FleetExporter.Json
