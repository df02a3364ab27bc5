import FleetExporter.Quantity
import Mathlib.Data.Rat.Floor

/-! How quantities are written: an optional sign, digits with an optional point among them, and a
suffix that scales the number. The amount that is written is a rational number. Main statement: a
text is written in one way at most (`Spelling.chars_injective`). -/
namespace FleetExporter.Quantity

/-! ## Parts of a quantity -/

inductive Sign where
  | none
  | plus
  | minus
  deriving DecidableEq, Repr

def Sign.chars : Sign → List Char
  | none => []
  | plus => ['+']
  | minus => ['-']

def Sign.apply : Sign → Nat → Int
  | minus, n => -n
  | _, n => n

/-- Digits with an optional point among them; on one side of it there is a digit. -/
@[ext]
structure Numeral where
  whole : List Char
  fraction : Option (List Char)
  isDigit : ∀ c ∈ whole ++ fraction.getD [], c.isDigit = true
  ne_nil : whole ++ fraction.getD [] ≠ []

/-- The decimal multiples that a letter stands for. -/
inductive Multiple where
  | nano
  | micro
  | milli
  | kilo
  | mega
  | giga
  | tera
  | peta
  | exa
  deriving DecidableEq, Repr

def Multiple.letter : Multiple → Char
  | nano => 'n'
  | micro => 'u'
  | milli => 'm'
  | kilo => 'k'
  | mega => 'M'
  | giga => 'G'
  | tera => 'T'
  | peta => 'P'
  | exa => 'E'

def Multiple.power : Multiple → Int
  | nano => -9
  | micro => -6
  | milli => -3
  | kilo => 3
  | mega => 6
  | giga => 9
  | tera => 12
  | peta => 15
  | exa => 18

/-- The powers of 1024 that a letter and an `i` stand for. -/
inductive BinaryMultiple where
  | kibi
  | mebi
  | gibi
  | tebi
  | pebi
  | exbi
  deriving DecidableEq, Repr

def BinaryMultiple.letter : BinaryMultiple → Char
  | kibi => 'K'
  | mebi => 'M'
  | gibi => 'G'
  | tebi => 'T'
  | pebi => 'P'
  | exbi => 'E'

def BinaryMultiple.power : BinaryMultiple → Nat
  | kibi => 1
  | mebi => 2
  | gibi => 3
  | tebi => 4
  | pebi => 5
  | exbi => 6

/-- A power of ten by its exponent, an integer of 32 bits in digits. -/
@[ext]
structure Exponent where
  mark : Char
  sign : Sign
  digits : List Char
  marked : mark = 'e' ∨ mark = 'E'
  isDigit : ∀ c ∈ digits, c.isDigit = true
  ne_nil : digits ≠ []
  le_value : -2 ^ 31 ≤ sign.apply (Text.digitsValue digits)
  value_lt : sign.apply (Text.digitsValue digits) < 2 ^ 31

inductive Suffix where
  | plain
  | decimal (m : Multiple)
  | binary (m : BinaryMultiple)
  | exponent (e : Exponent)

/-- A quantity as it is written. -/
@[ext]
structure Spelling where
  sign : Sign
  numeral : Numeral
  suffix : Suffix

/-! ## What is written, and what it says -/

namespace Numeral

def chars (n : Numeral) : List Char := n.whole ++ n.fraction.elim [] ('.' :: ·)

/-- The digits behind the point. -/
def decimals (n : Numeral) : List Char := n.fraction.getD []

def number (n : Numeral) : ℚ :=
  Text.digitsValue n.whole + Text.digitsValue n.decimals / 10 ^ n.decimals.length

end Numeral

namespace Exponent

def chars (e : Exponent) : List Char := e.mark :: (e.sign.chars ++ e.digits)

def value (e : Exponent) : Int := e.sign.apply (Text.digitsValue e.digits)

end Exponent

namespace Suffix

def chars : Suffix → List Char
  | plain => []
  | decimal m => [m.letter]
  | binary m => [m.letter, 'i']
  | exponent e => e.chars

def isBinary : Suffix → Bool
  | binary _ => true
  | _ => false

def scale : Suffix → Scale
  | plain => ⟨0, 0⟩
  | decimal m => ⟨m.power, 0⟩
  | binary m => ⟨0, m.power⟩
  | exponent e => ⟨e.value, 0⟩

/-- What the number is multiplied by. -/
def factor : Suffix → ℚ
  | plain => 1
  | decimal m => 10 ^ m.power
  | binary m => 1024 ^ m.power
  | exponent e => 10 ^ e.value

end Suffix

namespace Spelling

def chars (q : Spelling) : List Char := q.sign.chars ++ (q.numeral.chars ++ q.suffix.chars)

/-- The amount that is written, apart from its sign. -/
def amount (q : Spelling) : ℚ := q.numeral.number * q.suffix.factor

end Spelling

/-! ## A text is written in one way -/

def isSign (c : Char) : Bool := c = '+' || c = '-'

/-- Characters of a number without its sign. -/
def isNumeral (c : Char) : Bool := c.isDigit || c = '.'

/-- A text that does not go on with a character of a class. -/
def Stops (p : Char → Bool) (t : List Char) : Prop := ∀ c, t.head? = some c → p c = false

/-- A text is divided in one way into characters of a class and a rest that does not go on. -/
theorem append_inj_of_stops {p : Char → Bool} {s s' t t' : List Char}
    (hs : ∀ c ∈ s, p c = true) (hs' : ∀ c ∈ s', p c = true) (ht : Stops p t) (ht' : Stops p t')
    (h : s ++ t = s' ++ t') : s = s' ∧ t = t' := by
  have hrest := congrArg (List.dropWhile p) h
  rw [List.dropWhile_append_of_pos hs, List.dropWhile_append_of_pos hs',
    Text.dropWhile_eq_self_of_head p t ht, Text.dropWhile_eq_self_of_head p t' ht'] at hrest
  subst hrest
  exact ⟨List.append_cancel_right h, rfl⟩

theorem stops_nil (p : Char → Bool) : Stops p [] := fun _ h => by cases h

theorem stops_cons {p : Char → Bool} {c : Char} (h : p c = false) (t : List Char) :
    Stops p (c :: t) := by
  rintro _ ⟨⟩
  exact h

theorem isSign_of_isNumeral {c : Char} (h : isNumeral c = true) : isSign c = false := by
  by_contra hsign
  rw [Bool.not_eq_false, isSign, Bool.or_eq_true, decide_eq_true_eq, decide_eq_true_eq] at hsign
  rcases hsign with rfl | rfl <;> exact absurd h (by decide)

/-- Digits and points bear no sign. -/
theorem stops_isSign {s : List Char} (hs : ∀ c ∈ s, isNumeral c = true) (hne : s ≠ [])
    (t : List Char) : Stops isSign (s ++ t) := by
  cases s with
  | nil => exact absurd rfl hne
  | cons c s => exact stops_cons (isSign_of_isNumeral (hs c List.mem_cons_self)) _

theorem isNumeral_of_isDigit {s : List Char} (h : ∀ c ∈ s, c.isDigit = true) :
    ∀ c ∈ s, isNumeral c = true := fun c hc => by simp [isNumeral, h c hc]

namespace Sign

theorem isSign_of_mem (x : Sign) : ∀ c ∈ x.chars, isSign c = true := by
  cases x <;> simp [chars, isSign]

theorem chars_injective {x y : Sign} (h : x.chars = y.chars) : x = y := by
  cases x <;> cases y <;> first | rfl | cases h

end Sign

namespace Numeral

theorem isNumeral_of_mem (n : Numeral) : ∀ c ∈ n.chars, isNumeral c = true := by
  have hdigits := isNumeral_of_isDigit n.isDigit
  intro c hc
  unfold chars at hc
  cases hf : n.fraction with
  | none => exact hdigits c (List.mem_append_left _ (by simpa [hf] using hc))
  | some f =>
    simp only [hf, Option.elim_some, List.mem_append, List.mem_cons] at hc
    rcases hc with hc | rfl | hc
    · exact hdigits c (List.mem_append_left _ hc)
    · decide
    · exact hdigits c (List.mem_append_right _ (by simpa [hf] using hc))

theorem chars_ne_nil (n : Numeral) : n.chars ≠ [] := by
  have hne := n.ne_nil
  unfold chars
  cases hf : n.fraction with
  | none => simpa [hf] using hne
  | some f => simp

/-- A point without digits behind it is not left out. -/
theorem pointed_injective {f f' : Option (List Char)}
    (h : f.elim [] ('.' :: ·) = f'.elim [] ('.' :: ·)) : f = f' := by
  cases f with
  | none =>
    cases f' with
    | none => rfl
    | some d' => cases h
  | some d =>
    cases f' with
    | none => cases h
    | some d' => rw [(List.cons.inj h).2]

theorem chars_injective {n n' : Numeral} (h : n.chars = n'.chars) : n = n' := by
  have hpoint : ∀ f : Option (List Char), Stops Char.isDigit (f.elim [] ('.' :: ·)) := by
    rintro (_ | f)
    · exact stops_nil _
    · exact stops_cons (by decide) f
  obtain ⟨hwhole, hrest⟩ := append_inj_of_stops
    (fun c hc => n.isDigit c (List.mem_append_left _ hc))
    (fun c hc => n'.isDigit c (List.mem_append_left _ hc)) (hpoint _) (hpoint _) h
  exact Numeral.ext hwhole (pointed_injective hrest)

end Numeral

namespace Exponent

theorem chars_injective {e e' : Exponent} (h : e.chars = e'.chars) : e = e' := by
  obtain ⟨hmark, hrest⟩ := List.cons.inj h
  have hstops : ∀ e : Exponent, Stops isSign e.digits := fun e => by
    simpa using stops_isSign (isNumeral_of_isDigit e.isDigit) e.ne_nil []
  obtain ⟨hsign, hdigits⟩ := append_inj_of_stops e.sign.isSign_of_mem e'.sign.isSign_of_mem
    (hstops e) (hstops e') hrest
  exact Exponent.ext hmark (Sign.chars_injective hsign) hdigits

end Exponent

theorem Multiple.letter_injective {m m' : Multiple} (h : m.letter = m'.letter) : m = m' := by
  cases m <;> cases m' <;> first | rfl | exact absurd h (by decide)

theorem BinaryMultiple.letter_injective {m m' : BinaryMultiple} (h : m.letter = m'.letter) :
    m = m' := by
  cases m <;> cases m' <;> first | rfl | exact absurd h (by decide)

namespace Suffix

/-- No suffix begins like a number. -/
theorem stops_chars (s : Suffix) : Stops isNumeral s.chars := by
  cases s with
  | plain => exact stops_nil _
  | decimal m => exact stops_cons (by cases m <;> decide) _
  | binary m => exact stops_cons (by cases m <;> decide) _
  | exponent e =>
    refine stops_cons ?_ _
    rcases e.marked with h | h <;> rw [h] <;> decide

/-- An exponent has digits behind its mark, where a multiple has nothing or an `i`. -/
theorem chars_exponent_ne (e : Exponent) (c : Char) : e.chars ≠ [c] ∧ e.chars ≠ [c, 'i'] := by
  have hmem : ∀ s, e.sign.chars ++ e.digits = s → ∀ d ∈ e.digits, d ∈ s ∧ d.isDigit = true := by
    rintro s rfl d hd
    exact ⟨List.mem_append_right _ hd, e.isDigit d hd⟩
  obtain ⟨d, hd⟩ := List.exists_mem_of_ne_nil _ e.ne_nil
  constructor <;> intro h
  · exact absurd (hmem _ (List.cons.inj h).2 d hd).1 List.not_mem_nil
  · obtain ⟨hi, hdigit⟩ := hmem _ (List.cons.inj h).2 d hd
    rw [List.mem_singleton.mp hi] at hdigit
    exact absurd hdigit (by decide)

theorem chars_injective {s s' : Suffix} (h : s.chars = s'.chars) : s = s' := by
  cases s with
  | plain => cases s' <;> first | rfl | cases h
  | decimal m =>
    cases s' with
    | plain => cases h
    | decimal m' => rw [Multiple.letter_injective (List.cons.inj h).1]
    | binary m' => cases (List.cons.inj h).2
    | exponent e => exact absurd h.symm (chars_exponent_ne e _).1
  | binary m =>
    cases s' with
    | plain => cases h
    | decimal m' => cases (List.cons.inj h).2
    | binary m' => rw [BinaryMultiple.letter_injective (List.cons.inj h).1]
    | exponent e => exact absurd h.symm (chars_exponent_ne e _).2
  | exponent e =>
    cases s' with
    | plain => cases h
    | decimal m' => exact absurd h (chars_exponent_ne e _).1
    | binary m' => exact absurd h (chars_exponent_ne e _).2
    | exponent e' => rw [Exponent.chars_injective h]

end Suffix

/-- **A quantity is written in one way.** -/
theorem Spelling.chars_injective {q q' : Spelling} (h : q.chars = q'.chars) : q = q' := by
  have hstops : ∀ q : Spelling, Stops isSign (q.numeral.chars ++ q.suffix.chars) := fun q =>
    stops_isSign q.numeral.isNumeral_of_mem q.numeral.chars_ne_nil _
  obtain ⟨hsign, hrest⟩ := append_inj_of_stops q.sign.isSign_of_mem q'.sign.isSign_of_mem
    (hstops q) (hstops q') h
  obtain ⟨hnumeral, hsuffix⟩ := append_inj_of_stops q.numeral.isNumeral_of_mem
    q'.numeral.isNumeral_of_mem q.suffix.stops_chars q'.suffix.stops_chars hrest
  exact Spelling.ext (Sign.chars_injective hsign) (Numeral.chars_injective hnumeral)
    (Suffix.chars_injective hsuffix)

end FleetExporter.Quantity
