import FleetExporter.Binary64.Basic

/-! The fewest decimal digits that single out a positive number of the 64-bit format, and among
decimals of that many digits the one nearest to it. A decimal stands for the number if it lies
between the midpoints to the two neighbours, the midpoints included when the significand is even. -/
namespace FleetExporter.Binary64

/-- A positive decimal: digits times a power of ten. -/
structure Decimal where
  digits : Nat
  exponent : Int
  deriving DecidableEq, Repr

/-- Which of two equally near decimals is taken. -/
inductive Tie where
  | toEven
  | upward
  deriving DecidableEq, Repr

/-- Comparison of `a * 10 ^ i` with `n * 2 ^ j`. -/
def compareScaled (a : Nat) (i : Int) (n : Nat) (j : Int) : Ordering :=
  compare (a * Nat.pow 10 i.toNat * Nat.pow 2 (-j).toNat)
    (n * Nat.pow 2 j.toNat * Nat.pow 10 (-i).toNat)

/-- Below a power of two the neighbour is only half as far away as the one above. -/
def narrowBelow (significand : Nat) (exponent : Int) : Bool :=
  significand = Nat.pow 2 52 && leastExponent < exponent

/-- Whether a decimal lies among the reals that round to `significand * 2 ^ exponent`. -/
def readsBack (significand : Nat) (exponent : Int) (d : Decimal) : Bool :=
  let low := if narrowBelow significand exponent then 4 * significand - 1 else 4 * significand - 2
  let even := significand % 2 = 0
  let atLow := compareScaled d.digits d.exponent low (exponent - 2)
  let atHigh := compareScaled d.digits d.exponent (4 * significand + 2) (exponent - 2)
  (atLow = .gt || (even && atLow = .eq)) && (atHigh = .lt || (even && atHigh = .eq))

/-- The number in units of the given power of ten, rounded down. -/
def units (significand : Nat) (exponent power : Int) : Nat :=
  let n := significand * Nat.pow 2 exponent.toNat * Nat.pow 10 (-power).toNat
  n / (Nat.pow 2 (-exponent).toNat * Nat.pow 10 power.toNat)

/-- Of the multiples of a power of ten on both sides of the number, the nearest that stands
for it. -/
def nearest? (tie : Tie) (significand : Nat) (exponent power : Int) : Option Decimal :=
  let n := units significand exponent power
  let low : Decimal := ⟨n, power⟩
  let high : Decimal := ⟨n + 1, power⟩
  match n ≠ 0 && readsBack significand exponent low, readsBack significand exponent high with
  | true, true =>
    match compareScaled (2 * n + 1) power (2 * significand) exponent, tie with
    | .gt, _ => some low
    | .lt, _ => some high
    | .eq, .upward => some high
    | .eq, .toEven => some (if n % 2 = 0 then low else high)
  | true, false => some low
  | false, true => some high
  | false, false => none

/-- The least power of ten above the number, from an estimate that is at most a little too low. -/
def ceilingPower (significand : Nat) (exponent estimate : Int) : Nat → Int
  | 0 => estimate
  | fuel + 1 =>
    if compareScaled 1 estimate significand exponent = .gt then estimate
    else ceilingPower significand exponent (estimate + 1) fuel

/-- The least `k` with `significand * 2 ^ exponent < 10 ^ k`. -/
def decimalScale (significand : Nat) (exponent : Int) : Int :=
  let bits : Int := significand.log2 + exponent
  ceilingPower significand exponent (Int.fdiv (bits * 30103) 100000 - 1) 8

/-- The exact decimal value, for the case that no shorter one was found. -/
def exactDecimal (significand : Nat) (exponent : Int) : Decimal :=
  if 0 ≤ exponent then ⟨significand * Nat.pow 2 exponent.toNat, 0⟩
  else ⟨significand * Nat.pow 5 (-exponent).toNat, exponent⟩

def stripZeros (d : Decimal) : Nat → Decimal
  | 0 => d
  | fuel + 1 =>
    if d.digits ≠ 0 ∧ d.digits % 10 = 0 then stripZeros ⟨d.digits / 10, d.exponent + 1⟩ fuel else d

/-- The search tries grids of one digit, two digits and so on up to seventeen. -/
def shortest (tie : Tie) (significand : Nat) (exponent : Int) : Decimal :=
  let scale := decimalScale significand exponent
  let found := (List.range 17).findSome? fun (i : Nat) =>
    nearest? tie significand exponent (scale - i - 1)
  let d := found.getD (exactDecimal significand exponent)
  stripZeros d 400

end FleetExporter.Binary64
