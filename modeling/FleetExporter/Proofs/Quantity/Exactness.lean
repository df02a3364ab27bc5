import FleetExporter.Capacity
import FleetExporter.Proofs.Quantity.Recognition
import FleetExporter.Proofs.Quantity.Scaling
import Mathlib.Tactic.NormNum

/-! Which quantities have a value, and how it compares with the amount that is written. The value of
a decimal quantity is its amount rounded up, or the greatest value if that is less. Two limits of
the word are seen from outside: a number of too many digits has no value at all, and of a binary
quantity with too many decimals the product is cut before it is divided. Texts are meant that are
shorter than 2^31 characters, so that a word can tell how many decimals there are. -/
namespace FleetExporter.Quantity

/-- The value of a text that is spelled as a quantity without a minus. -/
theorem value_unsigned {s : String} {q : Spelling} (h : q.chars = Text.trimmed s.toList)
    (hsign : q.sign ≠ .minus) :
    value s =
      if 2 ^ 127 - 1 < q.numeral.mantissa then .error .tooManyDigits
      else if q.suffix.scale.decimal - q.numeral.places < -2 ^ 31 then
        .error (.scaleOutOfRange
          (roundedAt (q.suffix.scale.decimal - q.numeral.places + 2 ^ 32) q.numeral q.suffix))
      else .ok (rounded q.numeral q.suffix) := by
  rw [value_spelled h, if_neg hsign, evaluate_numeral, wordLimit_eq]

theorem value_minus {s : String} {q : Spelling} (h : q.chars = Text.trimmed s.toList)
    (hsign : q.sign = .minus) : value s = .ok 0 := by
  rw [value_spelled h, if_pos hsign]

/-- The digits fit the word, and the exponent that is left for them 32 bits. -/
structure Spelling.Representable (q : Spelling) : Prop where
  mantissa_le : q.numeral.mantissa ≤ 2 ^ 127 - 1
  le_power : -2 ^ 31 ≤ q.suffix.scale.decimal - q.numeral.places

theorem value_of_representable {s : String} {q : Spelling} (h : q.chars = Text.trimmed s.toList)
    (hsign : q.sign ≠ .minus) (hq : q.Representable) :
    value s = .ok (rounded q.numeral q.suffix) := by
  rw [value_unsigned h hsign, if_neg (Nat.not_lt.mpr hq.mantissa_le),
    if_neg (Int.not_lt.mpr hq.le_power)]

theorem eq_rounded_of_value {s : String} {q : Spelling} {v : Nat}
    (h : q.chars = Text.trimmed s.toList) (hsign : q.sign ≠ .minus) (hv : value s = .ok v) :
    q.Representable ∧ v = rounded q.numeral q.suffix := by
  rw [value_unsigned h hsign] at hv
  split at hv
  · cases hv
  · split at hv
    · cases hv
    · rename_i hword hpower
      cases hv
      exact ⟨⟨Nat.le_of_not_lt hword, Int.not_lt.mp hpower⟩, rfl⟩

/-! ## The power of ten that leaves its word -/

/-- The decimals take the power of ten below the least one there is. -/
structure Spelling.Overflows (q : Spelling) : Prop where
  sign_ne : q.sign ≠ .minus
  mantissa_le : q.numeral.mantissa ≤ 2 ^ 127 - 1
  power_lt : q.suffix.scale.decimal - q.numeral.places < -2 ^ 31

/-- A text is spelled as a quantity whose power of ten leaves its word. -/
def Overflows (s : String) : Prop :=
  ∃ q : Spelling, q.chars = Text.trimmed s.toList ∧ q.Overflows

theorem overflows_iff {s : String} {q : Spelling} (h : q.chars = Text.trimmed s.toList) :
    Overflows s ↔ q.Overflows := by
  constructor
  · rintro ⟨q', hq', hoverflows⟩
    rwa [← Spelling.chars_injective (hq'.trans h.symm)]
  · exact fun hoverflows => ⟨q, h, hoverflows⟩

theorem Spelling.Representable.not_overflows {q : Spelling} (h : q.Representable) :
    ¬ q.Overflows := fun hoverflows => absurd hoverflows.power_lt (Int.not_lt.mpr h.le_power)

/-- The value by the power of ten that is left when the one that is too low wraps around. -/
def Spelling.wrapped (q : Spelling) : Nat :=
  roundedAt (q.suffix.scale.decimal - q.numeral.places + 2 ^ 32) q.numeral q.suffix

theorem Spelling.Overflows.value_eq {s : String} {q : Spelling} (h : q.Overflows)
    (hq : q.chars = Text.trimmed s.toList) : value s = .error (.scaleOutOfRange q.wrapped) := by
  rw [Spelling.wrapped, value_unsigned hq h.sign_ne, if_neg (Nat.not_lt.mpr h.mantissa_le), if_pos h.power_lt]

/-- Checked arithmetic comes to no value of the texts that overflow, and of no others. -/
theorem ends_iff (s : String) : ends s = true ↔ Overflows s := by
  constructor
  · intro h
    obtain ⟨v, hv⟩ : ∃ v, value s = .error (.scaleOutOfRange v) := by
      unfold ends at h
      split at h
      · rename_i v hv
        exact ⟨v, hv⟩
      · cases h
    obtain ⟨q, hq⟩ := exists_spelling (s := s) (by simp [hv])
    have hsign : q.sign ≠ .minus := by
      intro hsign
      rw [value_minus hq hsign] at hv
      cases hv
    rw [value_unsigned hq hsign] at hv
    split at hv
    · cases hv
    · rename_i hword
      split at hv
      · rename_i hpower
        exact ⟨q, hq, hsign, Nat.le_of_not_lt hword, hpower⟩
      · cases hv
  · rintro ⟨q, hq, h⟩
    rw [ends, h.value_eq hq]

/-- Short of an overflow, arithmetic that wraps around comes to the value. -/
theorem wrapped?_of_not_overflows {s : String} (h : ¬ Overflows s) :
    wrapped? s = (value s).toOption := by
  rw [← ends_iff] at h
  unfold wrapped?
  unfold ends at h
  cases hv : value s with
  | ok v => rfl
  | error f =>
    cases f with
    | scaleOutOfRange v => simp [hv] at h
    | _ => rfl

/-! ## Exact values -/

/-- The amount fits the word when it is written without its point. -/
def Spelling.FitsWord (q : Spelling) : Prop :=
  q.numeral.mantissa * 1024 ^ q.suffix.scale.binary ≤ 2 ^ 127 - 1

theorem Spelling.mantissa_pos {q : Spelling} (h : 0 < q.amount) : 0 < q.numeral.mantissa :=
  Numeral.mantissa_pos (pos_of_mul_pos_left h q.suffix.factor_pos.le)

/-- What is computed is exact, unless a binary suffix takes it past the word and there are so many
decimals that the cut shows. -/
theorem cast_rounded_exact {q : Spelling} (hword : q.numeral.mantissa ≤ 2 ^ 127 - 1)
    (h : q.suffix.isBinary = false ∨ q.FitsWord ∨ q.numeral.places ≤ 19) :
    (rounded q.numeral q.suffix : ℤ) = min (2 ^ 63 - 1) ⌈q.amount⌉ := by
  cases hbinary : q.suffix.isBinary with
  | false =>
    refine cast_rounded_of_le ?_
    rw [Suffix.binary_eq_zero hbinary, Nat.pow_zero, Nat.mul_one]
    exact hword
  | true =>
    rcases h with hdecimal | hfits | hplaces
    · rw [hbinary] at hdecimal
      cases hdecimal
    · exact cast_rounded_of_le hfits
    · rw [cast_rounded_of_binary hbinary, min_ceil_min (valueLimit_le_div hplaces)]
      rfl

/-- **A decimal value is exact.** A text with a value is spelled as a quantity in one way. Its value
is zero behind a minus; otherwise, unless the suffix is binary, it is the amount rounded up, or the
greatest value if that is less. (With 2^31 decimals or more, their number would be cut to its
word.) -/
theorem decimal_value_exact {s : String} {v : Nat} (h : value s = .ok v) :
    (∃! q : Spelling, q.chars = Text.trimmed s.toList) ∧
    ∀ q : Spelling, q.chars = Text.trimmed s.toList →
      (q.sign = .minus → v = 0) ∧
      (q.sign ≠ .minus → q.suffix.isBinary = false →
        (v : ℤ) = min (2 ^ 63 - 1) ⌈q.amount⌉) := by
  refine ⟨?_, fun q hq => ⟨fun hsign => ?_, fun hsign hdecimal => ?_⟩⟩
  · obtain ⟨q, hq⟩ := exists_spelling (s := s) (by simp [h])
    exact ⟨q, hq, fun q' hq' => Spelling.chars_injective (hq'.trans hq.symm)⟩
  · rw [value_minus hq hsign] at h
    exact (Except.ok.inj h).symm
  · obtain ⟨hq', rfl⟩ := eq_rounded_of_value hq hsign h
    exact cast_rounded_exact hq'.mantissa_le (Or.inl hdecimal)

/-- A thousand times 12.5003, with blanks around it. -/
def paddedText : String := " +12.5003e3\n"

def paddedSpelling : Spelling where
  sign := .plus
  numeral := ⟨['1', '2'], some ['5', '0', '0', '3'], List.all_eq_true.mp rfl, by decide⟩
  suffix := .exponent
    ⟨'e', .none, ['3'], by decide, List.all_eq_true.mp rfl, by decide, by decide, by decide⟩

theorem decimal_value_exact_padded :
    value paddedText = .ok 12501 ∧ paddedSpelling.chars = Text.trimmed paddedText.toList ∧
      (∃! q : Spelling, q.chars = Text.trimmed paddedText.toList) ∧
      (12501 : ℤ) = min (2 ^ 63 - 1) ⌈paddedSpelling.amount⌉ := by
  have hvalue : value paddedText = .ok 12501 := by decide +kernel
  have hspelled : paddedSpelling.chars = Text.trimmed paddedText.toList := by decide +kernel
  obtain ⟨hunique, hexact⟩ := decimal_value_exact hvalue
  exact ⟨hvalue, hspelled, hunique, (hexact _ hspelled).2 (by decide) rfl⟩

/-- **A binary value is exact within the word.** The product of the digits and of the power of 1024
is cut at 2^127 - 1 before it is divided for the decimals, so the value is the amount rounded up if
that product fits, or if there are so few decimals that the cut is beyond the greatest value. -/
theorem binary_value_within_word {s : String} {q : Spelling} {v : Nat}
    (hq : q.chars = Text.trimmed s.toList) (hsign : q.sign ≠ .minus)
    (hbinary : q.suffix.isBinary = true) (hv : value s = .ok v) :
    (v : ℤ) = min (2 ^ 63 - 1) ⌈min q.amount ((2 ^ 127 - 1) / 10 ^ q.numeral.places)⌉ ∧
    (q.FitsWord ∨ q.numeral.places ≤ 19 → (v : ℤ) = min (2 ^ 63 - 1) ⌈q.amount⌉) := by
  obtain ⟨hrepresentable, rfl⟩ := eq_rounded_of_value hq hsign hv
  have hcut := cast_rounded_of_binary (n := q.numeral) hbinary
  have hlimit : (wordLimit : ℚ) = 2 ^ 127 - 1 := by norm_num [wordLimit_eq]
  rw [hlimit] at hcut
  exact ⟨hcut, fun h => cast_rounded_exact hrepresentable.mantissa_le (Or.inr h)⟩

/-- A tenth of a kibi. -/
def tenthText : String := "0.10Ki"

def tenthSpelling : Spelling where
  sign := .none
  numeral := ⟨['0'], some ['1', '0'], List.all_eq_true.mp rfl, by decide⟩
  suffix := .binary .kibi

theorem binary_value_within_word_tenth :
    value tenthText = .ok 103 ∧ tenthSpelling.chars = Text.trimmed tenthText.toList ∧
      tenthSpelling.sign ≠ .minus ∧ tenthSpelling.suffix.isBinary = true ∧
      tenthSpelling.numeral.places ≤ 19 ∧ (103 : ℤ) = min (2 ^ 63 - 1) ⌈tenthSpelling.amount⌉ := by
  have hvalue : value tenthText = .ok 103 := by decide +kernel
  have hspelled : tenthSpelling.chars = Text.trimmed tenthText.toList := by decide +kernel
  have hplaces : tenthSpelling.numeral.places ≤ 19 := by decide +kernel
  obtain ⟨-, hexact⟩ := binary_value_within_word hspelled (by decide) rfl hvalue
  exact ⟨hvalue, hspelled, by decide, rfl, hplaces, hexact (Or.inr hplaces)⟩

/-- A little more than one exbi. -/
def exbiText : String := "1.0000000000000000000000000000000000001Ei"

def exbiSpelling : Spelling where
  sign := .none
  numeral := ⟨['1'], some (List.replicate 36 '0' ++ ['1']), List.all_eq_true.mp rfl, by decide⟩
  suffix := .binary .exbi

/-- With 37 decimals, so little of the product is left that the value is 18. -/
theorem binary_value_not_exact :
    exbiSpelling.chars = Text.trimmed exbiText.toList ∧ exbiSpelling.sign ≠ .minus ∧
      exbiSpelling.suffix.isBinary = true ∧ value exbiText = .ok 18 ∧
      min (2 ^ 63 - 1) ⌈exbiSpelling.amount⌉ = (1152921504606846977 : ℤ) := by
  have hspelled : exbiSpelling.chars = Text.trimmed exbiText.toList := by decide +kernel
  have hvalue : value exbiText = .ok 18 := by decide +kernel
  have hamount : exbiSpelling.amount = 1152921504606846976 + 1152921504606846976 / 10 ^ 37 := by
    have hmantissa : exbiSpelling.numeral.mantissa = 10 ^ 37 + 1 := by decide +kernel
    have hplaces : exbiSpelling.numeral.places = 37 := by decide +kernel
    have hfactor : exbiSpelling.suffix.factor = 1024 ^ 6 := rfl
    rw [Spelling.amount, Numeral.number_eq, hmantissa, hplaces, hfactor]
    norm_num
  have hceil : ⌈exbiSpelling.amount⌉ = 1152921504606846977 := by
    rw [hamount, Int.ceil_eq_iff]
    norm_num
  exact ⟨hspelled, by decide, rfl, hvalue, by rw [hceil]; rfl⟩

/-- A spelled quantity is accepted behind a minus, and else if it is representable. -/
theorem exists_value_iff {s : String} {q : Spelling} (hq : q.chars = Text.trimmed s.toList) :
    (∃ v, value s = .ok v) ↔ q.sign = .minus ∨ q.Representable := by
  by_cases hsign : q.sign = .minus
  · simp [value_minus hq hsign, hsign]
  · simp only [hsign, false_or]
    constructor
    · rintro ⟨v, hv⟩
      exact (eq_rounded_of_value hq hsign hv).1
    · exact fun h => ⟨_, value_of_representable hq hsign h⟩

/-- An amount past the greatest value is taken as that, where the computation is exact. -/
theorem eq_greatest_of_value {s : String} {q : Spelling} {v : Nat}
    (hq : q.chars = Text.trimmed s.toList) (hsign : q.sign ≠ .minus) (hv : value s = .ok v)
    (hamount : 2 ^ 63 - 1 < q.amount)
    (hfits : q.suffix.isBinary = false ∨ q.FitsWord ∨ q.numeral.places ≤ 19) :
    v = 2 ^ 63 - 1 := by
  obtain ⟨hrepresentable, rfl⟩ := eq_rounded_of_value hq hsign hv
  have hexact := cast_rounded_exact hrepresentable.mantissa_le hfits
  have hceil : (2 ^ 63 - 1 : ℤ) ≤ ⌈q.amount⌉ := by
    have hle : ((2 ^ 63 - 1 : ℤ) : ℚ) ≤ q.amount := by
      push_cast
      linarith only [hamount]
    exact_mod_cast hle.trans (Int.le_ceil _)
  rw [min_eq_left hceil] at hexact
  omega

/-- A capacity of more than nothing that does not overflow counts as zero only when it is
refused. -/
theorem countOf_eq_zero_iff {s : String} {q : Spelling} (hq : q.chars = Text.trimmed s.toList)
    {cluster : ManagedCluster} {r : Resource} (hr : cluster.quantity? r.name = some s)
    (hsign : q.sign ≠ .minus) (hamount : 0 < q.amount) (hoverflows : ¬ q.Overflows) :
    Capacity.countOf cluster r = 0 ↔ ¬ q.Representable := by
  have hcount : Capacity.countOf cluster r = (value s).toOption.getD 0 := by
    rw [Capacity.countOf, hr, Option.bind_some,
      wrapped?_of_not_overflows (mt (overflows_iff hq).mp hoverflows)]
  rw [hcount]
  by_cases hrepresentable : q.Representable
  · rw [value_of_representable hq hsign hrepresentable]
    have hpos := rounded_pos (x := q.suffix) (Spelling.mantissa_pos hamount)
    simp only [Except.toOption, Option.getD_some, hrepresentable, not_true_eq_false, iff_false]
    omega
  · cases hv : value s with
    | error f => simp [hrepresentable, Except.toOption]
    | ok v => exact absurd (eq_rounded_of_value hq hsign hv).1 hrepresentable

/-- **What is spelled is accepted up to the word.** Of the texts that are spelled as quantities,
those with a minus have a value, and so do those whose digits, without the zeros at the end of the
decimals, fit the word, and whose exponent stays within 32 bits when the decimals are taken from it.
More digits are a fault. What is accepted has the greatest value if its amount is past it, under the
condition of exactness for binary suffixes; and a capacity that is more than nothing, and does not
overflow, counts as zero exactly when it is refused. (All this with less than 2^31 decimals.) -/
theorem accepted_of_spelling {s : String} {q : Spelling} (hq : q.chars = Text.trimmed s.toList) :
    ((∃ v, value s = .ok v) ↔ q.sign = .minus ∨ q.Representable) ∧
    (q.sign ≠ .minus → 2 ^ 127 - 1 < q.numeral.mantissa → value s = .error .tooManyDigits) ∧
    (∀ v, value s = .ok v → q.sign ≠ .minus → 2 ^ 63 - 1 < q.amount →
      q.suffix.isBinary = false ∨ q.FitsWord ∨ q.numeral.places ≤ 19 → v = 2 ^ 63 - 1) ∧
    ∀ (cluster : ManagedCluster) (r : Resource), cluster.quantity? r.name = some s →
      q.sign ≠ .minus → 0 < q.amount → ¬ q.Overflows →
      (Capacity.countOf cluster r = 0 ↔ ¬ q.Representable) := by
  refine ⟨exists_value_iff hq, fun hsign hdigits => ?_, fun v hv hsign hamount hfits => ?_,
    fun cluster r hr hsign hamount hoverflows => ?_⟩
  · rw [value_unsigned hq hsign, if_pos hdigits]
  · exact eq_greatest_of_value hq hsign hv hamount hfits
  · exact countOf_eq_zero_iff hq hr hsign hamount hoverflows

/-- A managed cluster that reports its cpu and nothing else. -/
def clusterWith (cpu : String) : ManagedCluster where
  metadata := {}
  spec := {}
  status := some { capacity := [("cpu", cpu)] }

def hugeText : String := "100E"

def hugeSpelling : Spelling where
  sign := .none
  numeral := ⟨['1', '0', '0'], none, List.all_eq_true.mp rfl, by decide⟩
  suffix := .decimal .exa

theorem accepted_of_spelling_huge :
    hugeSpelling.chars = Text.trimmed hugeText.toList ∧ hugeSpelling.Representable ∧
      2 ^ 63 - 1 < hugeSpelling.amount ∧ value hugeText = .ok (2 ^ 63 - 1) ∧
      Capacity.countOf (clusterWith hugeText) .cpu ≠ 0 := by
  have hspelled : hugeSpelling.chars = Text.trimmed hugeText.toList := by decide +kernel
  have hrepresentable : hugeSpelling.Representable := ⟨by decide +kernel, by decide +kernel⟩
  have hamount : 2 ^ 63 - 1 < hugeSpelling.amount := by
    have hmantissa : hugeSpelling.numeral.mantissa = 100 := by decide +kernel
    have hplaces : hugeSpelling.numeral.places = 0 := by decide +kernel
    have hfactor : hugeSpelling.suffix.factor = 10 ^ (18 : Int) := rfl
    rw [Spelling.amount, Numeral.number_eq, hmantissa, hplaces, hfactor]
    norm_num
  obtain ⟨haccepted, -, hgreatest, hcount⟩ := accepted_of_spelling hspelled
  obtain ⟨v, hv⟩ := haccepted.mpr (Or.inr hrepresentable)
  obtain rfl := hgreatest v hv (by decide) hamount (Or.inl rfl)
  refine ⟨hspelled, hrepresentable, hamount, hv, fun hzero => ?_⟩
  have hpos : 0 < hugeSpelling.amount := lt_trans (by norm_num) hamount
  exact (hcount (clusterWith hugeText) .cpu rfl (by decide) hpos hrepresentable.not_overflows).mp
    hzero hrepresentable

/-- A one and 39 zeros. -/
def longText : String := "1000000000000000000000000000000000000000"

def longSpelling : Spelling where
  sign := .none
  numeral := ⟨'1' :: List.replicate 39 '0', none, List.all_eq_true.mp rfl, by decide⟩
  suffix := .plain

/-- An integer of 40 digits is refused, and so many cpus are counted as none. -/
theorem refused_of_long_integer :
    longSpelling.chars = Text.trimmed longText.toList ∧ longSpelling.sign ≠ .minus ∧
      longSpelling.suffix.scale.decimal = 0 ∧ longSpelling.numeral.places = 0 ∧
      2 ^ 63 - 1 < longSpelling.amount ∧ value longText = .error .tooManyDigits ∧
      Capacity.countOf (clusterWith longText) .cpu = 0 := by
  have hplaces : longSpelling.numeral.places = 0 := by decide +kernel
  have hamount : 2 ^ 63 - 1 < longSpelling.amount := by
    have hmantissa : longSpelling.numeral.mantissa = 10 ^ 39 := by decide +kernel
    have hfactor : longSpelling.suffix.factor = 1 := rfl
    rw [Spelling.amount, Numeral.number_eq, hmantissa, hplaces, hfactor]
    norm_num
  refine ⟨by decide +kernel, by decide, rfl, hplaces, hamount, by decide +kernel, ?_⟩
  decide +kernel

end FleetExporter.Quantity

namespace FleetExporter

/-- Some resource is reported with a quantity that overflows. -/
def ManagedCluster.Overflows (cluster : ManagedCluster) : Prop :=
  ∃ (r : Resource) (s : String), cluster.quantity? r.name = some s ∧ Quantity.Overflows s

theorem Capacity.overflowed_derive (cluster : ManagedCluster) :
    (derive cluster).overflowed = true ↔ cluster.Overflows := by
  simp only [derive, List.any_eq_true, Option.any_eq_true, Quantity.ends_iff,
    ManagedCluster.Overflows, Resource.mem_all, true_and]

end FleetExporter
