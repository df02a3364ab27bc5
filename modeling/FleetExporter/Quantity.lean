import FleetExporter.Text.Blank
import FleetExporter.Text.Numeral

/-! Resource quantities: a decimal number and a suffix that scales it by a power of ten or of 1024.
The value of a quantity is an integer, rounded up; a negative one counts as zero and a large one as
the greatest 64-bit integer. The arithmetic is done in a word of 127 bits that saturates; only the
power of ten, in a word of 32 bits, may overflow. -/
namespace FleetExporter.Quantity

/-- The power of ten and the power of 1024 that a suffix stands for. -/
structure Scale where
  decimal : Int
  binary : Nat
  deriving DecidableEq, Repr

/-- Why a text has no value. When the power of ten leaves its word, arithmetic that wraps around
comes to a value all the same. -/
inductive Fault where
  | malformed
  | tooManyDigits
  | scaleOutOfRange (wrapped : Nat)
  deriving DecidableEq, Repr

/-- The largest number the arithmetic holds. -/
def wordLimit : Nat := Nat.pow 2 127 - 1

/-- The largest value of a quantity. -/
def valueLimit : Nat := Nat.pow 2 63 - 1

/-- The first letter of a binary suffix; the second is an `i`. -/
def binaryPower? (c : Char) : Option Nat :=
  if c = 'K' then some 1
  else if c = 'M' then some 2
  else if c = 'G' then some 3
  else if c = 'T' then some 4
  else if c = 'P' then some 5
  else if c = 'E' then some 6
  else none

def decimalPower? (c : Char) : Option Int :=
  if c = 'n' then some (-9)
  else if c = 'u' then some (-6)
  else if c = 'm' then some (-3)
  else if c = 'k' then some 3
  else if c = 'M' then some 6
  else if c = 'G' then some 9
  else if c = 'T' then some 12
  else if c = 'P' then some 15
  else if c = 'E' then some 18
  else none

def isExponentMark (c : Char) : Bool := c = 'e' || c = 'E'

/-- An exponent of 32 bits with an optional sign. -/
def exponent? (s : List Char) : Option Int :=
  (Text.integer? s).filter fun n => -Int.pow 2 31 ≤ n && n < Int.pow 2 31

/-- The number and the scale of a text that ends in a decimal suffix or in none. -/
def splitLetter? (s : List Char) : Option (List Char × Scale) :=
  match s.getLast? with
  | none => none
  | some c =>
    match decimalPower? c with
    | some p => some (s.dropLast, ⟨p, 0⟩)
    | none => some (s, ⟨0, 0⟩)

/-- The number and the scale of a text without binary suffix. A mark with something after it
introduces an exponent; with nothing after it, it is a letter like any other. -/
def splitDecimal? (s : List Char) : Option (List Char × Scale) :=
  match s.dropWhile (!isExponentMark ·) with
  | _ :: c :: r => (exponent? (c :: r)).map fun e => (s.takeWhile (!isExponentMark ·), ⟨e, 0⟩)
  | _ => splitLetter? s

def split? (s : List Char) : Option (List Char × Scale) :=
  match s.reverse with
  | 'i' :: c :: r =>
    match binaryPower? c with
    | some p => some (r.reverse, ⟨0, p⟩)
    | none => splitDecimal? s
  | _ => splitDecimal? s

/-- A number in parts: sign, digits before the point and digits after it. -/
structure Number where
  negative : Bool
  whole : List Char
  fraction : List Char
  deriving DecidableEq, Repr

def magnitude? (negative : Bool) (s : List Char) : Option Number :=
  let whole := s.takeWhile (· ≠ '.')
  let fraction := (s.dropWhile (· ≠ '.')).drop 1
  if (whole = [] ∧ fraction = []) ∨ !whole.all Char.isDigit ∨ !fraction.all Char.isDigit then none
  else some ⟨negative, whole, fraction⟩

def number? : List Char → Option Number
  | '-' :: s => magnitude? true s
  | '+' :: s => magnitude? false s
  | s => magnitude? false s

def withoutTrailingZeros (s : List Char) : List Char :=
  (s.reverse.dropWhile (· = '0')).reverse

def saturate (limit n : Nat) : Nat := min n limit

/-- Multiplies by a power of ten, or divides by one and rounds up. Powers of ten beyond the word
are not computed: they saturate any product and exceed any dividend. -/
def scaleBy (n : Nat) (power : Int) : Nat :=
  if 0 ≤ power then
    if power ≤ 38 then saturate wordLimit (n * Nat.pow 10 power.toNat)
    else if n = 0 then 0 else wordLimit
  else if -38 ≤ power then (n + Nat.pow 10 (-power).toNat - 1) / Nat.pow 10 (-power).toNat
  else if n = 0 then 0 else 1

/-- The value of a number that is not negative. Its decimals are counted as they are, so it has to
have less than 2^31 of them. -/
def evaluate (whole fraction : List Char) (scale : Scale) : Except Fault Nat :=
  let fraction := withoutTrailingZeros fraction
  let mantissa := Text.digitsValue (whole ++ fraction)
  let power := scale.decimal - fraction.length
  let product := saturate wordLimit (mantissa * Nat.pow 1024 scale.binary)
  if wordLimit < mantissa then .error .tooManyDigits
  else if power < -Int.pow 2 31 then
    .error (.scaleOutOfRange (saturate valueLimit (scaleBy product (power + Int.pow 2 32))))
  else .ok (saturate valueLimit (scaleBy product power))

/-- The value of a quantity text, blanks around it ignored. -/
def value (s : String) : Except Fault Nat :=
  match split? (Text.trimmed s.toList) with
  | none => .error .malformed
  | some (numeral, scale) =>
    match number? numeral with
    | none => .error .malformed
    | some n => if n.negative then .ok 0 else evaluate n.whole n.fraction scale

/-- The value that arithmetic comes to that wraps around. -/
def wrapped? (s : String) : Option Nat :=
  match value s with
  | .ok v => some v
  | .error (.scaleOutOfRange v) => some v
  | .error _ => none

/-- Whether checked arithmetic ends before it comes to a value. -/
def ends (s : String) : Bool :=
  match value s with
  | .error (.scaleOutOfRange _) => true
  | _ => false

theorem saturate_le (limit n : Nat) : saturate limit n ≤ limit := Nat.min_le_right ..

theorem wrapped?_le {s : String} {v : Nat} (h : wrapped? s = some v) : v ≤ valueLimit := by
  have hsaturate : ∀ n, saturate valueLimit n ≤ valueLimit := saturate_le valueLimit
  unfold wrapped? value evaluate at h
  grind

end FleetExporter.Quantity
