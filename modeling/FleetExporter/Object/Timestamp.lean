import FleetExporter.Schema
import FleetExporter.Text.Blank

/-! Points in time as objects give them: a date, a time of day and an offset from universal time,
written again in universal time to the second. Numbers may be short, and blanks may stand before
them and before the marks between them. A leap second belongs to the minute it ends. -/
namespace FleetExporter

/-- Seconds since 1970-01-01T00:00:00Z; a leap second counts as the second before it. -/
structure Timestamp where
  seconds : Int
  isLeapSecond : Bool := false
  deriving DecidableEq, Repr

namespace Timestamp

inductive Fault where
  | malformed
  | cutOff
  | trailing
  | outOfRange
  | impossible
  deriving DecidableEq, Repr

def Fault.message : Fault → String
  | malformed => "input contains invalid characters"
  | cutOff => "premature end of input"
  | trailing => "trailing input"
  | outOfRange => "input is out of range"
  | impossible => "no possible date and time matching input"

/-- Days from 1970-01-01 to a date of the Gregorian calendar. -/
def daysOf (year : Int) (month day : Nat) : Int :=
  let y := if month ≤ 2 then year - 1 else year
  let era := Int.fdiv y 400
  let ofEra := y - era * 400
  let ofYear : Int := ((153 * ((month + 9) % 12) + 2) / 5 + day - 1 : Nat)
  era * 146097 + (ofEra * 365 + Int.fdiv ofEra 4 - Int.fdiv ofEra 100 + ofYear) - 719468

/-- The date that many days after 1970-01-01. -/
def dateOf (days : Int) : Int × Nat × Nat :=
  let z := days + 719468
  let era := Int.fdiv z 146097
  let d := (z - era * 146097).toNat
  let y := (d - d / 1460 + d / 36524 - d / 146096) / 365
  let n := d - (365 * y + y / 4 - y / 100)
  let m := (5 * n + 2) / 153
  let day := n - (153 * m + 2) / 5 + 1
  let month := if m < 10 then m + 3 else m - 9
  ((y : Int) + era * 400 + (if month ≤ 2 then 1 else 0), month, day)

def isLeap (year : Int) : Bool := year % 4 = 0 && (year % 100 != 0 || year % 400 = 0)

def daysInMonth (year : Int) (month : Nat) : Nat :=
  if month = 2 then (if isLeap year then 29 else 28)
  else if month = 4 ∨ month = 6 ∨ month = 9 ∨ month = 11 then 30
  else 31

def padded (width n : Nat) : List Char :=
  let ds := Nat.toDigits 10 n
  List.replicate (width - ds.length) '0' ++ ds

/-- Four digits, or a sign and at least four digits. -/
def yearText (year : Int) : List Char :=
  if 0 ≤ year ∧ year ≤ 9999 then padded 4 year.toNat
  else (if year < 0 then '-' else '+') :: padded 4 year.natAbs

def text (t : Timestamp) : String :=
  let days := Int.fdiv t.seconds 86400
  let rest := (t.seconds - days * 86400).toNat
  let (year, month, day) := dateOf days
  String.ofList (yearText year ++ '-' :: padded 2 month ++ '-' :: padded 2 day ++
    'T' :: padded 2 (rest / 3600) ++ ':' :: padded 2 (rest / 60 % 60) ++
    ':' :: padded 2 (rest % 60 + if t.isLeapSecond then 1 else 0) ++ ['Z'])

def skipBlanks (s : List Char) : List Char := s.dropWhile Text.isBlank

/-- A number of at least one digit; digits beyond the most are left. -/
def number (most : Nat) (s : List Char) : Except Fault (Nat × List Char) :=
  let digits := (s.takeWhile Char.isDigit).take most
  if s = [] then .error .cutOff
  else if digits = [] then .error .malformed
  else .ok (Text.digitsValue digits, s.drop digits.length)

/-- A number of one or two digits within bounds. -/
def bounded (least most : Nat) (s : List Char) : Except Fault (Nat × List Char) :=
  match number 2 (skipBlanks s) with
  | .error f => .error f
  | .ok (n, rest) => if least ≤ n ∧ n ≤ most then .ok (n, rest) else .error .outOfRange

def mark (c : Char) (s : List Char) : Except Fault (List Char) :=
  match skipBlanks s with
  | [] => .error .cutOff
  | d :: rest => if c = d then .ok rest else .error .malformed

/-- A year is a number of 32 bits with a sign. -/
def fitsYear (year : Int) : Bool := -Int.pow 2 31 ≤ year && year < Int.pow 2 31

/-- A year of up to four digits, or with a sign and any number of digits. -/
def year (s : List Char) : Except Fault (Int × List Char) :=
  let (sign, most, digits) : Int × Nat × List Char :=
    match skipBlanks s with
    | '-' :: rest => (-1, rest.length, rest)
    | '+' :: rest => (1, rest.length, rest)
    | rest => (1, 4, rest)
  match number most digits with
  | .error f => .error f
  | .ok (n, rest) => if fitsYear (sign * n) then .ok (sign * n, rest) else .error .outOfRange

/-- What divides the date from the time. -/
def divider : List Char → Except Fault (List Char)
  | [] => .error .cutOff
  | c :: rest => if c = 'T' ∨ c = 't' ∨ c = ' ' then .ok rest else .error .malformed

/-- A fraction of a second, which is read over. -/
def fraction : List Char → Except Fault (List Char)
  | '.' :: rest =>
    match number 9 rest with
    | .error f => .error f
    | .ok _ => .ok (rest.dropWhile Char.isDigit)
  | s => .ok s

/-- Two digits of an offset. -/
def pair (s : List Char) : Except Fault (Nat × List Char) :=
  match s with
  | a :: b :: rest =>
    if a.isDigit ∧ b.isDigit then .ok (Text.digitsValue [a, b], rest) else .error .malformed
  | [c] => .error (if c.utf8Size < 2 then .cutOff else .malformed)
  | [] => .error .cutOff

/-- The signs of an offset; the minus sign of typography is one. -/
def signOf? (c : Char) : Option Int :=
  if c = '+' then some 1 else if c = '-' ∨ c = '\u2212' then some (-1) else none

/-- The offset in seconds: a letter or a name for none, or a sign, hours and minutes. -/
def offset (s : List Char) : Except Fault (Int × List Char) :=
  if (s.take 3).map Char.toUpper = ['U', 'T', 'C'] then .ok (0, s.drop 3)
  else
    match s with
    | [] => .error .cutOff
    | c :: rest =>
      if c = 'Z' ∨ c = 'z' then .ok (0, rest)
      else
        match signOf? c with
        | none => .error .malformed
        | some sign => do
          let (hours, rest) ← pair rest
          let (minutes, rest) ← pair (rest.dropWhile fun c => c = ':' || Text.isBlank c)
          if minutes < 60 then .ok (sign * (hours * 3600 + minutes * 60), rest)
          else .error .outOfRange

def date (s : List Char) : Except Fault ((Int × Nat × Nat) × List Char) := do
  let (year, s) ← year s
  let (month, s) ← bounded 1 12 (← mark '-' s)
  let (day, s) ← bounded 1 31 (← mark '-' s)
  return ((year, month, day), s)

def timeOfDay (s : List Char) : Except Fault ((Nat × Nat × Nat) × List Char) := do
  let (hour, s) ← bounded 0 23 s
  let (minute, s) ← bounded 0 59 (← mark ':' s)
  let (second, s) ← bounded 0 60 (← mark ':' s)
  return ((hour, minute, second), ← fraction s)

/-- The years that the calendar covers. -/
def firstYear : Int := -262143

def lastYear : Int := 262142

/-- The point in time of a date, a time of day and an offset. -/
def assemble (date : Int × Nat × Nat) (time : Nat × Nat × Nat) (offset : Int) :
    Except Fault Timestamp :=
  let (year, month, day) := date
  let (hour, minute, second) := time
  if firstYear ≤ year ∧ year ≤ lastYear ∧ day ≤ daysInMonth year month ∧ offset.natAbs < 86400 then
    let seconds :=
      daysOf year month day * 86400 + hour * 3600 + minute * 60 + min second 59 - offset
    if daysOf firstYear 1 1 * 86400 ≤ seconds ∧ seconds < daysOf (lastYear + 1) 1 1 * 86400 then
      .ok ⟨seconds, second = 60⟩
    else .error .impossible
  else .error .outOfRange

def ofText (s : String) : Except Fault Timestamp := do
  let (date, s) ← date s.toList
  let (time, s) ← timeOfDay (← divider s)
  let (offset, s) ← offset (skipBlanks s)
  if skipBlanks s = [] then assemble date time offset else .error .trailing

def read : Reader Timestamp := .scalar fun
  | .string s =>
    match ofText s with
    | .ok t => .ok t
    | .error f => .error (.unreadable f.message)
  | j => .error (.wrongType j "an RFC 3339 formatted date and time string")

end Timestamp

end FleetExporter
