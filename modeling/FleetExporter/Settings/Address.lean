import FleetExporter.Text.Numeral

/-! Addresses of the two internet protocols: four numbers of eight bits, or eight groups of sixteen
bits. Reading takes every usual form, writing has one: of the groups that are zero the first of the
longest runs of at least two is left out. -/
namespace FleetExporter

inductive Address where
  | four (numbers : List Nat)
  | six (groups : List Nat)
  deriving DecidableEq, Repr

namespace Address

/-- A decimal number of eight bits, without leading zeros. -/
def readNumber (s : List Char) : Option (Nat × List Char) :=
  let digits := s.takeWhile Char.isDigit
  if digits = [] ∨ 3 < digits.length ∨ (digits.head? = some '0' ∧ digits.length ≠ 1) then none
  else if Text.digitsValue digits < 256 then
    some (Text.digitsValue digits, s.dropWhile Char.isDigit)
  else none

/-- Numbers with points between them. -/
def readNumbers : Nat → List Char → Option (List Nat × List Char)
  | 0, s => some ([], s)
  | 1, s => (readNumber s).map fun (n, rest) => ([n], rest)
  | count + 2, s =>
    match readNumber s with
    | some (n, '.' :: rest) =>
      (readNumbers (count + 1) rest).map fun (ns, rest) => (n :: ns, rest)
    | _ => none

def isHexDigit (c : Char) : Bool :=
  c.isDigit || ('a' ≤ c && c ≤ 'f') || ('A' ≤ c && c ≤ 'F')

def hexDigitValue (c : Char) : Nat :=
  if c.isDigit then c.toNat - 48 else if 'a' ≤ c then c.toNat - 87 else c.toNat - 55

/-- A group of one to four hexadecimal digits. -/
def readGroup (s : List Char) : Option (Nat × List Char) :=
  let digits := s.takeWhile isHexDigit
  if digits = [] ∨ 4 < digits.length then none
  else some (digits.foldl (fun n c => 16 * n + hexDigitValue c) 0, s.dropWhile isHexDigit)

/-- Two groups written as four numbers. -/
def readEmbedded (s : List Char) : Option (List Nat × List Char) :=
  match readNumbers 4 s with
  | some ([a, b, c, d], rest) => some ([256 * a + b, 256 * c + d], rest)
  | _ => none

/-- What a run of groups holds, whether it ended in four numbers, and what follows it. -/
abbrev Run := List Nat × Bool × List Char

/-- The text where the next group stands: the first is not preceded by a colon. -/
def nextGroup (isFirst : Bool) (s : List Char) : Option (List Char) :=
  if isFirst then some s
  else
    match s with
    | ':' :: rest => some rest
    | _ => none

/-- As many groups as stand at the beginning, with room for a number of them. -/
def readRun (isFirst : Bool) : Nat → List Char → Run
  | 0, s => ([], false, s)
  | room + 1, s =>
    match nextGroup isFirst s with
    | none => ([], false, s)
    | some t =>
      match (if room = 0 then none else readEmbedded t) with
      | some (groups, rest) => (groups, true, rest)
      | none =>
        match readGroup t with
        | none => ([], false, s)
        | some (group, rest) =>
          let (groups, embedded, rest) := readRun false room rest
          (group :: groups, embedded, rest)

/-- Eight groups; two colons stand for at least one group of zeros. -/
def readGroups (s : List Char) : Option (List Nat × List Char) :=
  match readRun true 8 s with
  | (head, embedded, rest) =>
    if head.length = 8 then some (head, rest)
    else if embedded then none
    else
      match rest with
      | ':' :: ':' :: rest =>
        let (tail, _, rest) := readRun true (7 - head.length) rest
        some (head ++ List.replicate (8 - head.length - tail.length) 0 ++ tail, rest)
      | _ => none

/-- An address that makes up the whole text. -/
def read? (text : String) : Option Address :=
  match readNumbers 4 text.toList with
  | some (numbers, rest) => if rest = [] then some (.four numbers) else none
  | none =>
    match readGroups text.toList with
    | some (groups, []) => some (.six groups)
    | _ => none

def dotted (numbers : List Nat) : String := ".".intercalate (numbers.map toString)

def groupText (n : Nat) : String := String.ofList (Nat.toDigits 16 n)

def colonText (groups : List Nat) : String := ":".intercalate (groups.map groupText)

/-- How many zeros a list begins with. -/
def zerosAhead (groups : List Nat) : Nat := (groups.takeWhile (· = 0)).length

/-- The start and the length of the first of the longest runs of zeros. -/
def longestZeros (groups : List Nat) : Nat × Nat :=
  (List.range groups.length).foldl
    (fun best i =>
      let length := zerosAhead (groups.drop i)
      if best.2 < length then (i, length) else best) (0, 0)

def groupsText (groups : List Nat) : String :=
  match groups with
  | [0, 0, 0, 0, 0, 0xffff, g, h] =>
    "::ffff:" ++ dotted [g / 256, g % 256, h / 256, h % 256]
  | _ =>
    let (start, length) := longestZeros groups
    if length < 2 then colonText groups
    else colonText (groups.take start) ++ "::" ++ colonText (groups.drop (start + length))

/-- An address with a port. -/
def withPort (port : Nat) : Address → String
  | four numbers => dotted numbers ++ ":" ++ toString port
  | six groups => "[" ++ groupsText groups ++ "]:" ++ toString port

end Address

end FleetExporter
