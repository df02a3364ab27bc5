/-! Numbers of the 64-bit binary format, as exact values. A finite number is a significand times a
power of two; every operation is computed on the exact values and rounded once, to the nearest
number, a tie to the even significand. -/
namespace FleetExporter

inductive Binary64 where
  | nan
  | infinite (negative : Bool)
  | finite (negative : Bool) (significand : Nat) (exponent : Int)
  deriving DecidableEq, Repr, Inhabited

namespace Binary64

def leastExponent : Int := -1074

/-- The exponent of the largest numbers, for a significand of 53 bits. -/
def greatestExponent : Int := 971

def zero (negative : Bool) : Binary64 := .finite negative 0 leastExponent

/-- The quotient rounded to an integer, a tie to the even neighbour. -/
def roundQuotient (num den : Nat) : Nat :=
  let q := num / den
  let r := num % den
  if 2 * r < den then q else if 2 * r > den then q + 1 else q + q % 2

/-- The quotient times a power of two, as numerator and denominator. -/
def scaled (num den : Nat) (e : Int) : Nat × Nat :=
  (num * Nat.pow 2 e.toNat, den * Nat.pow 2 (-e).toNat)

/-- The exponent of the leading bit of a positive quotient. -/
def leadingExponent (num den : Nat) : Int :=
  let k : Int := (num.log2 : Int) - den.log2
  let s := scaled num den (-k)
  if s.1 < s.2 then k - 1 else k

/-- The number nearest to a quotient of naturals. -/
def ofRatio (negative : Bool) (num den : Nat) : Binary64 :=
  if num = 0 then zero negative
  else
    let e := max (leadingExponent num den - 52) leastExponent
    let s := scaled num den (-e)
    let m := roundQuotient s.1 s.2
    let r : Nat × Int := if m = Nat.pow 2 53 then (Nat.pow 2 52, e + 1) else (m, e)
    if greatestExponent < r.2 then .infinite negative
    else if r.1 = 0 then zero negative
    else .finite negative r.1 r.2

def ofNat (n : Nat) : Binary64 := ofRatio false n 1

def ofInt (n : Int) : Binary64 := ofRatio (n < 0) n.natAbs 1

def negate : Binary64 → Binary64
  | .nan => .nan
  | .infinite s => .infinite !s
  | .finite s m e => .finite (!s) m e

/-- A finite magnitude as numerator and denominator. -/
def ratio (significand : Nat) (exponent : Int) : Nat × Nat :=
  scaled significand 1 exponent

def mul : Binary64 → Binary64 → Binary64
  | .nan, _ => .nan
  | _, .nan => .nan
  | .infinite s, .infinite t => .infinite (s != t)
  | .infinite s, .finite t m _ => if m = 0 then .nan else .infinite (s != t)
  | .finite s m _, .infinite t => if m = 0 then .nan else .infinite (s != t)
  | .finite s m e, .finite t n f =>
    let p := ratio m e
    let q := ratio n f
    ofRatio (s != t) (p.1 * q.1) (p.2 * q.2)

def div : Binary64 → Binary64 → Binary64
  | .nan, _ => .nan
  | _, .nan => .nan
  | .infinite _, .infinite _ => .nan
  | .infinite s, .finite t _ _ => .infinite (s != t)
  | .finite s _ _, .infinite t => zero (s != t)
  | .finite s m e, .finite t n f =>
    if n = 0 then (if m = 0 then .nan else .infinite (s != t))
    else
      let p := ratio m e
      let q := ratio n f
      ofRatio (s != t) (p.1 * q.2) (p.2 * q.1)

def signed (negative : Bool) (n : Nat) : Int := if negative then -(n : Int) else n

/-- Zeros of opposite signs, and opposite numbers, add up to the positive zero. -/
def add : Binary64 → Binary64 → Binary64
  | .nan, _ => .nan
  | _, .nan => .nan
  | .infinite s, .infinite t => if s = t then .infinite s else .nan
  | .infinite s, .finite _ _ _ => .infinite s
  | .finite _ _ _, .infinite t => .infinite t
  | .finite s m e, .finite t n f =>
    let p := ratio m e
    let q := ratio n f
    let total := signed s (p.1 * q.2) + signed t (q.1 * p.2)
    if total = 0 then zero (s && t && m = 0 && n = 0)
    else ofRatio (total < 0) total.natAbs (p.2 * q.2)

/-- Whether the first number is below the second; never with a nan. -/
def below : Binary64 → Binary64 → Bool
  | .nan, _ => false
  | _, .nan => false
  | .infinite s, .infinite t => s && !t
  | .infinite s, .finite _ _ _ => s
  | .finite _ _ _, .infinite t => !t
  | .finite s m e, .finite t n f =>
    let p := ratio m e
    let q := ratio n f
    signed s (p.1 * q.2) < signed t (q.1 * p.2)

/-- The smaller of two numbers; a nan gives way to the other one. -/
def least : Binary64 → Binary64 → Binary64
  | .nan, y => y
  | x, .nan => x
  | x, y => if below y x then y else x

/-- The power by repeated squaring: the bits of the exponent from the lowest, one rounding for
each product. -/
def powerFrom (result base : Binary64) (exponent : Nat) : Binary64 :=
  let result := if exponent % 2 = 1 then result.mul base else result
  if exponent / 2 = 0 then result
  else powerFrom result (base.mul base) (exponent / 2)
termination_by exponent
decreasing_by omega

def power (base : Binary64) (exponent : Nat) : Binary64 := powerFrom (ofNat 1) base exponent

end Binary64

end FleetExporter
