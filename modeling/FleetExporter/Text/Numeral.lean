/-! Decimal numerals in ASCII digits: reading a run of digits, with or without a sign. -/
namespace FleetExporter.Text

def digitValue (c : Char) : Nat := c.toNat - 48

/-- The number a list of digits denotes. -/
def digitsValue (s : List Char) : Nat := s.foldl (fun n c => 10 * n + digitValue c) 0

def natural? (s : List Char) : Option Nat :=
  if s ≠ [] ∧ s.all Char.isDigit then some (digitsValue s) else none

/-- An optional sign, then digits. -/
def integer? : List Char → Option Int
  | '-' :: s => (natural? s).map fun n => -(n : Int)
  | '+' :: s => (natural? s).map Int.ofNat
  | s => (natural? s).map Int.ofNat

end FleetExporter.Text
