import FleetExporter.Binary64.Shortest
import FleetExporter.Text.Numeral

/-! Decimal text of numbers of the 64-bit format. Written, they have the fewest digits that single
them out: plainly (all digits, no exponent) or, in data, with a point always and an exponent where
the number is large or small. Read, a decimal of any length is rounded once. -/
namespace FleetExporter.Binary64

def digitChars (n : Nat) : List Char := Nat.toDigits 10 n

/-- The digits with the point set by the exponent, no exponent written. -/
def positional (d : Decimal) : List Char :=
  let ds := digitChars d.digits
  if 0 ≤ d.exponent then ds ++ List.replicate d.exponent.toNat '0'
  else
    let places := (-d.exponent).toNat
    if places < ds.length then
      ds.take (ds.length - places) ++ '.' :: ds.drop (ds.length - places)
    else ['0', '.'] ++ List.replicate (places - ds.length) '0' ++ ds

/-- One digit, the point if more follow, and a signed exponent. -/
def scientific (d : Decimal) : List Char :=
  let ds := digitChars d.digits
  let e : Int := d.exponent + ds.length - 1
  let mark := if e < 0 then ['e', '-'] else ['e', '+']
  ds.take 1 ++ (if ds.length = 1 then [] else '.' :: ds.drop 1) ++ mark ++ digitChars e.natAbs

def withSign (negative : Bool) (s : List Char) : List Char := if negative then '-' :: s else s

/-- The text in expositions and answers: no exponent, and no point for an integer. -/
def plainText : Binary64 → String
  | .nan => "NaN"
  | .infinite s => if s then "-inf" else "inf"
  | .finite s m e =>
    String.ofList (withSign s (if m = 0 then ['0'] else positional (shortest .upward m e)))

/-- The text of a number in data: positional where the exponent of the leading digit is from -5 to
15, and never mistaken for an integer. -/
def dataText : Binary64 → String
  | .nan => "null"
  | .infinite _ => "null"
  | .finite s m e =>
    if m = 0 then String.ofList (withSign s ['0', '.', '0'])
    else
      let d := shortest .toEven m e
      let leading : Int := d.exponent + (digitChars d.digits).length - 1
      let body :=
        if -5 ≤ leading ∧ leading ≤ 15 then
          if 0 ≤ d.exponent then positional d ++ ['.', '0'] else positional d
        else scientific d
      String.ofList (withSign s body)

/-- The number nearest to `digits * 10 ^ exponent`. Magnitudes far outside the format are decided
without computing the power. -/
def ofDecimal (negative : Bool) (digits : Nat) (exponent : Int) : Binary64 :=
  let size : Int := (digitChars digits).length
  if digits = 0 then zero negative
  else if 400 < size + exponent then .infinite negative
  else if size + exponent < -400 then zero negative
  else ofRatio negative (digits * Nat.pow 10 exponent.toNat) (Nat.pow 10 (-exponent).toNat)

/-- The exponent after the mark, if any: nothing, or the mark and a signed integer. -/
def exponentPart? : List Char → Option Int
  | [] => some 0
  | c :: s => if c = 'e' || c = 'E' then Text.integer? s else none

def magnitude? (negative : Bool) (s : List Char) : Option Binary64 :=
  let whole := s.takeWhile Char.isDigit
  let rest := s.dropWhile Char.isDigit
  let fraction := if rest.head? = some '.' then rest.tail.takeWhile Char.isDigit else []
  let tail := if rest.head? = some '.' then rest.tail.dropWhile Char.isDigit else rest
  if whole = [] ∧ fraction = [] then
    match (String.ofList s).toLower with
    | "inf" => some (.infinite negative)
    | "infinity" => some (.infinite negative)
    | "nan" => some .nan
    | _ => none
  else (exponentPart? tail).map fun e =>
    ofDecimal negative (Text.digitsValue (whole ++ fraction)) (e - fraction.length)

/-- Reads a decimal with an optional sign, or a name of a special value in any case. -/
def ofText? (s : String) : Option Binary64 :=
  match s.toList with
  | '-' :: r => magnitude? true r
  | '+' :: r => magnitude? false r
  | r => magnitude? false r

end FleetExporter.Binary64
