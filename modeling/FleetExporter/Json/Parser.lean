import FleetExporter.Json.Basic

/-! Reading JSON text. A text is refused either because it ends too early (`endOfInput`: some
continuation could be valid) or because of what it holds (`malformed`). Containers may be nested
127 deep. Whole numbers from -2^63 to 2^64 - 1 are integers; all others are numbers of the 64-bit
format, taken from at most 64 bits of leading digits and one power of ten. -/
namespace FleetExporter.Json

inductive Fault where
  | endOfInput
  | malformed
  deriving DecidableEq, Repr

/-- A value and the text after it. -/
abbrev Reading (α : Type) := Except Fault (α × List Char)

def isGap (c : Char) : Bool := c = ' ' || c = '\n' || c = '\t' || c = '\r'

def skipGap (s : List Char) : List Char := s.dropWhile isGap

/-- The rest of a literal word. -/
def readWord (value : Json) : List Char → List Char → Reading Json
  | [], s => .ok (value, s)
  | _ :: _, [] => .error .endOfInput
  | c :: word, d :: s => if c = d then readWord value word s else .error .malformed

def hexDigit? (c : Char) : Option Nat :=
  if c.isDigit then some (c.toNat - 48)
  else if 'a' ≤ c ∧ c ≤ 'f' then some (c.toNat - 87)
  else if 'A' ≤ c ∧ c ≤ 'F' then some (c.toNat - 55)
  else none

def byteCount (s : List Char) : Nat := s.foldr (fun c n => c.utf8Size + n) 0

/-- Four hexadecimal digits. Fewer than four bytes before the end count as a text cut off. -/
def readHex (s : List Char) : Reading Nat :=
  if byteCount (s.take 4) < 4 then .error .endOfInput
  else
    match s with
    | a :: b :: c :: d :: r =>
      match hexDigit? a, hexDigit? b, hexDigit? c, hexDigit? d with
      | some a, some b, some c, some d => .ok (((a * 16 + b) * 16 + c) * 16 + d, r)
      | _, _, _, _ => .error .malformed
    | _ => .error .malformed

/-- The second half of a surrogate pair, after its first half. -/
def readLowHalf (high : Nat) : List Char → Reading Char
  | [] => .error .endOfInput
  | '\\' :: [] => .error .endOfInput
  | '\\' :: 'u' :: r =>
    match readHex r with
    | .error f => .error f
    | .ok (low, r) =>
      if 0xdc00 ≤ low ∧ low ≤ 0xdfff then
        .ok (Char.ofNat (0x10000 + (high - 0xd800) * 0x400 + (low - 0xdc00)), r)
      else .error .malformed
  | _ => .error .malformed

/-- What a backslash introduces. -/
def readEscape : List Char → Reading Char
  | [] => .error .endOfInput
  | 'u' :: r =>
    match readHex r with
    | .error f => .error f
    | .ok (n, r) =>
      if 0xdc00 ≤ n ∧ n ≤ 0xdfff then .error .malformed
      else if 0xd800 ≤ n ∧ n ≤ 0xdbff then readLowHalf n r
      else .ok (Char.ofNat n, r)
  | c :: r =>
    match c with
    | '"' => .ok ('"', r)
    | '\\' => .ok ('\\', r)
    | '/' => .ok ('/', r)
    | 'b' => .ok (Char.ofNat 8, r)
    | 'f' => .ok (Char.ofNat 12, r)
    | 'n' => .ok ('\n', r)
    | 'r' => .ok ('\r', r)
    | 't' => .ok ('\t', r)
    | _ => .error .malformed

/-- The characters of a string after its opening quote; those before `s` are given reversed. -/
def readString : Nat → List Char → List Char → Reading String
  | 0, _, _ => .error .malformed
  | _ + 1, _, [] => .error .endOfInput
  | fuel + 1, done, c :: r =>
    if c = '"' then .ok (String.ofList done.reverse, r)
    else if c = '\\' then
      match readEscape r with
      | .error f => .error f
      | .ok (d, r) => readString fuel (d :: done) r
    else if c.toNat < 0x20 then .error .malformed
    else readString fuel (c :: done) r

def greatestWord : Nat := Nat.pow 2 64 - 1

/-- Leading digits as long as they fit 64 bits, how many were taken, and the rest. -/
def takeDigits : Nat → Nat → List Char → Nat × Nat × List Char
  | significand, taken, c :: r =>
    if c.isDigit ∧ 10 * significand + Text.digitValue c ≤ greatestWord then
      takeDigits (10 * significand + Text.digitValue c) (taken + 1) r
    else (significand, taken, c :: r)
  | significand, taken, [] => (significand, taken, [])

/-- Division by a power of ten, in steps of at most 10^308. -/
def scaleDown (x : Binary64) (power : Nat) : Binary64 :=
  if power ≤ 308 then x.div (Binary64.ofNat (Nat.pow 10 power))
  else if x = Binary64.zero false then x
  else scaleDown (x.div (Binary64.ofNat (Nat.pow 10 308))) (power - 308)
termination_by power

/-- The number with the given leading digits and power of ten; none when it is too large. -/
def ofParts (negative : Bool) (significand : Nat) (exponent : Int) : Except Fault Json :=
  let x := Binary64.ofNat significand
  let y :=
    if 0 ≤ exponent then
      if exponent ≤ 308 then x.mul (Binary64.ofNat (Nat.pow 10 exponent.toNat))
      else if significand = 0 then x else .infinite false
    else scaleDown x (-exponent).toNat
  if y = .infinite false then .error .malformed
  else .ok (.real (if negative then y.negate else y))

/-- The exponent after its mark, given the power of ten so far. -/
def readExponent (negative : Bool) (significand : Nat) (power : Int) (s : List Char) :
    Reading Json :=
  let minus := s.head? = some '-'
  let digits := if s.head? = some '-' ∨ s.head? = some '+' then s.tail else s
  match digits with
  | [] => .error .endOfInput
  | c :: _ =>
    if c.isDigit then
      let n := Text.digitsValue (digits.takeWhile Char.isDigit)
      let rest := digits.dropWhile Char.isDigit
      if Nat.pow 2 31 ≤ n then
        if significand = 0 ∨ minus then .ok (.real (Binary64.zero negative), rest)
        else .error .malformed
      else
        match ofParts negative significand (if minus then power - n else power + n) with
        | .error f => .error f
        | .ok j => .ok (j, rest)
    else .error .malformed

/-- What follows the digits: an exponent, or the end of the number. -/
def finishReal (negative : Bool) (significand : Nat) (power : Int) (s : List Char) :
    Reading Json :=
  match s with
  | c :: r =>
    if c = 'e' ∨ c = 'E' then readExponent negative significand power r
    else (ofParts negative significand power).map (·, s)
  | [] => (ofParts negative significand power).map (·, s)

/-- The digits after the point. -/
def readFraction (negative : Bool) (significand : Nat) (power : Int) (s : List Char) :
    Reading Json :=
  match s with
  | [] => .error .endOfInput
  | c :: _ =>
    if c.isDigit then
      let (m, taken, rest) := takeDigits significand 0 s
      finishReal negative m (power - taken) (rest.dropWhile Char.isDigit)
    else .error .malformed

def integerValue (negative : Bool) (n : Nat) : Json :=
  if negative then
    if n = 0 ∨ Nat.pow 2 63 < n then .real (Binary64.ofNat n).negate else .integer (-(n : Int))
  else .integer n

/-- What follows the whole digits, of which `dropped` did not fit. -/
def readTail (negative : Bool) (significand dropped : Nat) (s : List Char) : Reading Json :=
  match s with
  | c :: r =>
    if c = '.' then readFraction negative significand dropped r
    else if c = 'e' ∨ c = 'E' then readExponent negative significand dropped r
    else if dropped = 0 then .ok (integerValue negative significand, s)
    else (ofParts negative significand dropped).map (·, s)
  | [] =>
    if dropped = 0 then .ok (integerValue negative significand, s)
    else (ofParts negative significand dropped).map (·, s)

/-- A number after its sign: no zero stands before another digit. -/
def readNumber (negative : Bool) (s : List Char) : Reading Json :=
  match s with
  | [] => .error .endOfInput
  | c :: r =>
    if c = '0' then
      if r.head?.any Char.isDigit then .error .malformed else readTail negative 0 0 r
    else if c.isDigit then
      let (m, _, rest) := takeDigits 0 0 s
      readTail negative m (rest.takeWhile Char.isDigit).length (rest.dropWhile Char.isDigit)
    else .error .malformed

mutual

/-- One value, with `depth` levels of containers left. -/
def readValue : Nat → Nat → List Char → Reading Json
  | 0, _, _ => .error .malformed
  | fuel + 1, depth, s =>
    match skipGap s with
    | [] => .error .endOfInput
    | c :: r =>
      if c = 'n' then readWord .null ['u', 'l', 'l'] r
      else if c = 't' then readWord (.bool true) ['r', 'u', 'e'] r
      else if c = 'f' then readWord (.bool false) ['a', 'l', 's', 'e'] r
      else if c = '"' then (readString (r.length + 1) [] r).map fun p => (.string p.1, p.2)
      else if c = '-' then readNumber true r
      else if c.isDigit then readNumber false (c :: r)
      else if c = '[' ∧ depth ≠ 0 then
        match skipGap r with
        | ']' :: r => .ok (.array [], r)
        | r => (readItems fuel (depth - 1) r).map fun p => (.array p.1, p.2)
      else if c = '\x7b' ∧ depth ≠ 0 then
        match skipGap r with
        | '\x7d' :: r => .ok (.object [], r)
        | r => (readEntries fuel (depth - 1) r).map fun p => (.object p.1, p.2)
      else .error .malformed

/-- The items of an array up to its closing bracket. -/
def readItems : Nat → Nat → List Char → Reading (List Json)
  | 0, _, _ => .error .malformed
  | fuel + 1, depth, s =>
    match readValue fuel depth s with
    | .error f => .error f
    | .ok (j, r) =>
      match skipGap r with
      | [] => .error .endOfInput
      | c :: r =>
        if c = ']' then .ok ([j], r)
        else if c = ',' then (readItems fuel depth r).map fun p => (j :: p.1, p.2)
        else .error .malformed

/-- The entries of an object up to its closing brace. -/
def readEntries : Nat → Nat → List Char → Reading (List (String × Json))
  | 0, _, _ => .error .malformed
  | fuel + 1, depth, s =>
    match skipGap s with
    | [] => .error .endOfInput
    | '"' :: r =>
      match readString (r.length + 1) [] r with
      | .error f => .error f
      | .ok (key, r) =>
        match skipGap r with
        | [] => .error .endOfInput
        | ':' :: r =>
          match readValue fuel depth r with
          | .error f => .error f
          | .ok (j, r) =>
            match skipGap r with
            | [] => .error .endOfInput
            | c :: r =>
              if c = '\x7d' then .ok ([(key, j)], r)
              else if c = ',' then
                (readEntries fuel depth r).map fun p => ((key, j) :: p.1, p.2)
              else .error .malformed
        | _ => .error .malformed
    | _ => .error .malformed

end

/-- How deep containers may be nested. -/
def depthLimit : Nat := 127

end FleetExporter.Json
