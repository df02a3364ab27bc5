import FleetExporter.Proofs.Quantity.Exactness

/-! Quantities in machine words. A value is computed in signed words, of 32 bits for exponents and
of 128 bits for amounts, and most operations saturate or are tested beforehand. Of the others, a
result that does not fit its word ends a checked computation and wraps around in another one. Main
statement: one operation can leave its word, the one that takes the decimals from the exponent, and
it does so only next to the least exponent there is. -/
namespace FleetExporter.Quantity

/-! ## Arithmetic in words -/

/-- What a signed word holds of an integer. -/
def held (bits : Nat) (n : Int) : Int := (BitVec.ofInt bits n).toInt

def Fits (bits : Nat) (n : Int) : Prop := held bits n = n

instance (bits : Nat) (n : Int) : Decidable (Fits bits n) := inferInstanceAs (Decidable (_ = _))

/-- What becomes of a result that does not fit its word. -/
inductive Arithmetic where
  | checked
  | wrapping
  deriving DecidableEq, Repr

/-- A power of ten, if it fits the word of amounts. -/
def powerOfTen? (k : Nat) : Option Int := if Fits 128 (10 ^ k) then some (10 ^ k) else none

namespace Arithmetic

/-- A result in its word; none if the computation ends there. -/
def keep (a : Arithmetic) (bits : Nat) (n : Int) : Option Int :=
  match a with
  | checked => if Fits bits n then some n else none
  | wrapping => some (held bits n)

/-- An amount times a power of ten, or divided by one and rounded up. The powers are tested, the
product saturates, and the rounding is an addition like any other. -/
def scaleBy (a : Arithmetic) (n power : Int) : Option Int :=
  match powerOfTen? power.natAbs with
  | some factor =>
    if 0 ≤ power then some (min (n * factor) wordLimit)
    else if n % factor = 0 then some (n / factor)
    else a.keep 128 (n / factor + 1)
  | none => some (if n = 0 then 0 else if 0 ≤ power then wordLimit else 1)

/-- The value of a number that is not negative. The number of decimals is cut to its word, whatever
the arithmetic. -/
def evaluate (a : Arithmetic) (whole fraction : List Char) (scale : Scale) :
    Option (Except Fault Int) :=
  let fraction := withoutTrailingZeros fraction
  let mantissa := Text.digitsValue (whole ++ fraction)
  if wordLimit < mantissa then some (.error .tooManyDigits)
  else do
    let factor ← a.keep 128 (1024 ^ scale.binary)
    let power ← a.keep 32 (scale.decimal - held 32 fraction.length)
    let amount ← a.scaleBy (min (mantissa * factor) wordLimit) power
    return .ok (if Fits 64 amount then amount else valueLimit)

/-- The value of a quantity text. -/
def value (a : Arithmetic) (s : String) : Option (Except Fault Int) :=
  match split? (Text.trimmed s.toList) with
  | none => some (.error .malformed)
  | some (numeral, scale) =>
    match number? numeral with
    | none => some (.error .malformed)
    | some n => if n.negative then some (.ok 0) else a.evaluate n.whole n.fraction scale

/-- The count of one resource of a cluster. -/
def count (a : Arithmetic) (cluster : ManagedCluster) (r : Resource) : Option Int :=
  match cluster.quantity? r.name with
  | none => some 0
  | some s => (a.value s).map fun v => v.toOption.getD 0

/-- The counts of all resources one after the other; none if the computation ends before. -/
def counts (a : Arithmetic) (cluster : ManagedCluster) : Option (List Int) :=
  Resource.all.mapM (a.count cluster)

end Arithmetic

/-! ## Operations that keep to their words -/

theorem fits_iff {bits : Nat} (hbits : 0 < bits) (n : Int) :
    Fits bits n ↔ -2 ^ (bits - 1) ≤ n ∧ n < 2 ^ (bits - 1) := by
  constructor
  · intro h
    rw [← h]
    exact ⟨BitVec.le_toInt _, BitVec.toInt_lt⟩
  · rintro ⟨hle, hlt⟩
    exact BitVec.toInt_ofInt_eq_self hbits hle hlt

theorem fits_natCast_iff (n : Nat) : Fits 128 n ↔ n ≤ wordLimit := by
  rw [fits_iff (by decide), wordLimit_eq]
  omega

theorem Arithmetic.keep_of_fits (a : Arithmetic) {bits : Nat} {n : Int} (h : Fits bits n) :
    a.keep bits n = some n := by
  cases a with
  | checked => exact if_pos h
  | wrapping => exact congrArg some h

theorem powerOfTen?_eq (k : Nat) :
    powerOfTen? k = if k ≤ 38 then some ((10 ^ k : Nat) : Int) else none := by
  have hfits : Fits 128 ((10 ^ k : Nat) : Int) ↔ k ≤ 38 := by
    rw [fits_natCast_iff]
    constructor
    · intro h
      by_contra hk
      have hgt := pow_ten_of_gt (Nat.lt_of_not_le hk)
      omega
    · intro h
      calc 10 ^ k ≤ 10 ^ 38 := Nat.pow_le_pow_right (by decide) h
        _ ≤ wordLimit := by decide
  simp only [powerOfTen?, ← hfits, Nat.cast_pow, Nat.cast_ofNat]

/-- A division that rounds up is a division, and an addition if there is a remainder. -/
theorem add_sub_one_div {n d : Nat} (hd : 0 < d) :
    (n + d - 1) / d = if n % d = 0 then n / d else n / d + 1 := by
  have hn := Nat.div_add_mod n d
  have hlt := Nat.mod_lt n hd
  split
  · rename_i hr
    refine Nat.div_eq_of_lt_le ?_ ?_
    · rw [Nat.mul_comm]
      omega
    · rw [Nat.add_mul, Nat.mul_comm]
      omega
  · rename_i hr
    refine Nat.div_eq_of_lt_le ?_ ?_
    · rw [Nat.add_mul, Nat.mul_comm]
      omega
    · rw [Nat.add_mul, Nat.add_mul, Nat.mul_comm]
      omega

/-- Amounts that fit the word are scaled in it as they are without one: the sum that rounds up is no
more than what was divided. -/
theorem Arithmetic.scaleBy_natCast (a : Arithmetic) {n : Nat} (hn : n ≤ wordLimit) (p : Int) :
    a.scaleBy n p = some (Quantity.scaleBy n p : Int) := by
  unfold Arithmetic.scaleBy
  rw [powerOfTen?_eq]
  by_cases hp : 0 ≤ p
  · obtain ⟨k, rfl⟩ := Int.eq_ofNat_of_zero_le hp
    simp only [Quantity.scaleBy, hp, if_true, Int.natAbs_natCast, Int.toNat_natCast, Nat.pow_eq]
    by_cases hk : k ≤ 38
    · have hk' : (k : Int) ≤ 38 := by omega
      simp only [hk, hk', if_true, saturate, Nat.cast_min, Nat.cast_mul]
    · have hk' : ¬ (k : Int) ≤ 38 := by omega
      simp only [hk, hk', if_false, Int.natCast_eq_zero]
      split <;> rfl
  · obtain ⟨k, hk, rfl⟩ : ∃ k : Nat, 0 < k ∧ p = -k := ⟨p.natAbs, by omega, by omega⟩
    simp only [Quantity.scaleBy, hp, if_false, Int.natAbs_neg, Int.natAbs_natCast, neg_neg,
      Int.toNat_natCast, Nat.pow_eq]
    by_cases hk' : k ≤ 38
    · have hneg : -38 ≤ -(k : Int) := by omega
      have hten : 10 ≤ 10 ^ k := Nat.le_self_pow (by omega) 10
      rw [add_sub_one_div (by omega)]
      simp only [hk', hneg, if_true, ← Int.natCast_mod, ← Int.natCast_div, Int.natCast_eq_zero]
      split
      · rfl
      · -- the divisor is ten at least, which leaves room for the one that is added
        have hdiv : n / 10 ^ k ≤ n / 10 := Nat.div_le_div_left hten (by decide)
        have hsum : n / 10 ^ k + 1 ≤ wordLimit := by
          have hlimit : 1 < wordLimit := by decide
          omega
        rw [← Nat.cast_succ, a.keep_of_fits ((fits_natCast_iff _).mpr hsum)]
    · have hneg : ¬ -38 ≤ -(k : Int) := by omega
      simp only [hk', hneg, if_false, Int.natCast_eq_zero]
      split <;> rfl

theorem Suffix.binary_le (x : Suffix) : x.scale.binary ≤ 6 := by
  cases x with
  | binary m => cases m <;> decide
  | _ => exact Nat.zero_le 6

theorem Suffix.decimal_bounds (x : Suffix) :
    -2 ^ 31 ≤ x.scale.decimal ∧ x.scale.decimal < 2 ^ 31 := by
  cases x with
  | plain => decide
  | decimal m => cases m <;> decide
  | binary m => cases m <;> decide
  | exponent e => exact ⟨e.le_value, e.value_lt⟩

theorem fits_pow_binary (x : Suffix) : Fits 128 (1024 ^ x.scale.binary) := by
  have hcast : ((1024 ^ x.scale.binary : Nat) : Int) = 1024 ^ x.scale.binary := by
    rw [Nat.cast_pow, Nat.cast_ofNat]
  rw [← hcast, fits_natCast_iff]
  calc 1024 ^ x.scale.binary ≤ 1024 ^ 6 := Nat.pow_le_pow_right (by decide) x.binary_le
    _ ≤ wordLimit := by decide

/-! ## The value in words -/

theorem cast_saturate_valueLimit (n : Nat) :
    (if Fits 64 n then (n : Int) else valueLimit) = saturate valueLimit n := by
  have hfits : Fits 64 n ↔ n ≤ valueLimit := by
    rw [fits_iff (by decide), valueLimit_eq]
    omega
  simp only [hfits, saturate]
  split <;> omega

/-- All that is left to the arithmetic is the power of ten that remains when the decimals are taken
from the exponent. -/
theorem Arithmetic.evaluate_numeral (a : Arithmetic) {n : Numeral} (hn : n.places < 2 ^ 31)
    (x : Suffix) : a.evaluate n.whole n.decimals x.scale =
      if wordLimit < n.mantissa then some (.error .tooManyDigits)
      else (a.keep 32 (x.scale.decimal - n.places)).map fun power =>
        .ok (roundedAt power n x : Nat) := by
  have hplaces : held 32 (withoutTrailingZeros n.decimals).length = n.places :=
    (fits_iff (by decide) _).mpr ⟨by omega, by exact_mod_cast hn⟩
  have hproduct : min ((n.mantissa : Int) * 1024 ^ x.scale.binary) wordLimit =
      (saturate wordLimit (n.mantissa * 1024 ^ x.scale.binary) : Nat) := by
    rw [saturate, Nat.cast_min, Nat.cast_mul, Nat.cast_pow, Nat.cast_ofNat]
  have hmantissa : Text.digitsValue (n.whole ++ withoutTrailingZeros n.decimals) = n.mantissa := rfl
  unfold Arithmetic.evaluate
  simp only [hplaces, hmantissa, a.keep_of_fits (fits_pow_binary x), Option.bind_eq_bind,
    Option.bind_some, hproduct]
  split
  · rfl
  · cases a.keep 32 (x.scale.decimal - n.places) with
    | none => rfl
    | some power =>
      simp only [a.scaleBy_natCast (saturate_le ..), Option.bind_some, cast_saturate_valueLimit]
      rfl

theorem Arithmetic.value_spelled (a : Arithmetic) {s : String} {q : Spelling}
    (h : q.chars = Text.trimmed s.toList) :
    a.value s = if q.sign = .minus then some (.ok 0)
      else a.evaluate q.numeral.whole q.numeral.decimals q.suffix.scale := by
  simp only [Arithmetic.value, ← h, q.split?_chars, number?_spelled, decide_eq_true_eq]

theorem length_trimmed_le (s : List Char) : (Text.trimmed s).length ≤ s.length := by
  have hfirst := (List.dropWhile_sublist Text.isBlank (l := s)).length_le
  have hlast :=
    (List.dropWhile_sublist Text.isBlank (l := (s.dropWhile Text.isBlank).reverse)).length_le
  rw [List.length_reverse] at hlast
  rw [Text.trimmed, List.length_reverse]
  omega

/-- There are no more decimals than characters. -/
theorem Spelling.places_le {s : String} {q : Spelling} (h : q.chars = Text.trimmed s.toList) :
    q.numeral.places ≤ s.length := by
  have hplaces : q.numeral.places ≤ q.numeral.decimals.length := by
    obtain ⟨k, hk⟩ := exists_zeros q.numeral.decimals
    rw [Numeral.places]
    conv_rhs => rw [hk, List.length_append]
    exact Nat.le_add_right _ _
  have hdecimals : q.numeral.decimals.length ≤ q.numeral.chars.length := by
    rw [Numeral.chars, Numeral.decimals, List.length_append]
    cases q.numeral.fraction with
    | none => exact Nat.zero_le _
    | some d =>
      simp only [Option.getD_some, Option.elim_some, List.length_cons]
      omega
  have hnumeral : q.numeral.chars.length ≤ q.chars.length := by
    simp only [Spelling.chars, List.length_append]
    omega
  have htext := length_trimmed_le s.toList
  rw [← h, String.length_toList] at htext
  omega

/-- A text that is no quantity is found to be none in any arithmetic. -/
theorem Arithmetic.value_of_not_spelled (a : Arithmetic) {s : String}
    (h : ¬ ∃ q : Spelling, q.chars = Text.trimmed s.toList) :
    a.value s = some (.error .malformed) ∧ Quantity.value s = .error .malformed := by
  constructor
  · unfold Arithmetic.value
    split
    · rfl
    · rename_i hsplit
      split
      · rfl
      · rename_i hnumber
        exact absurd (exists_spelling_of_parts hsplit hnumber) h
  · by_contra hne
    exact h (exists_spelling hne)

/-! ## The operation that leaves its word -/

/-- Short of that operation, a value is the same in words as without them. -/
theorem Arithmetic.value_of_not_overflows (a : Arithmetic) {s : String}
    (hs : s.length < 2 ^ 31) (h : ¬ Overflows s) :
    a.value s = some ((Quantity.value s).map Int.ofNat) := by
  by_cases hspelled : ∃ q : Spelling, q.chars = Text.trimmed s.toList
  · obtain ⟨q, hq⟩ := hspelled
    rw [overflows_iff hq] at h
    rw [a.value_spelled hq]
    by_cases hsign : q.sign = .minus
    · rw [if_pos hsign, value_minus hq hsign]
      rfl
    · rw [if_neg hsign, a.evaluate_numeral (Nat.lt_of_le_of_lt (Spelling.places_le hq) hs),
        value_unsigned hq hsign, wordLimit_eq]
      split
      · rfl
      · rename_i hword
        have hpower : -2 ^ 31 ≤ q.suffix.scale.decimal - q.numeral.places := by
          by_contra hlt
          exact h ⟨hsign, Nat.le_of_not_lt hword, Int.lt_of_not_ge hlt⟩
        have hbounds := q.suffix.decimal_bounds
        have hfits : Fits 32 (q.suffix.scale.decimal - q.numeral.places) :=
          (fits_iff (by decide) _).mpr ⟨hpower, by omega⟩
        rw [a.keep_of_fits hfits, if_neg (Int.not_lt.mpr hpower)]
        rfl
  · obtain ⟨ha, hvalue⟩ := a.value_of_not_spelled hspelled
    rw [ha, hvalue]
    rfl

theorem digitValue_pos {c : Char} (hdigit : c.isDigit = true) (hc : c ≠ '0') :
    0 < Text.digitValue c := by
  have hle : 48 ≤ c.toNat := by
    rw [Char.isDigit, Bool.and_eq_true, decide_eq_true_eq] at hdigit
    simpa using UInt32.le_iff_toNat_le.mp hdigit.1
  have hne : c.toNat ≠ 48 := fun h => hc (Char.toNat_inj.mp h)
  rw [Text.digitValue]
  omega

/-- Decimals that are counted end with a digit that is not zero. -/
theorem Numeral.mantissa_pos_of_places {n : Numeral} (h : 0 < n.places) : 0 < n.mantissa := by
  have hne : withoutTrailingZeros n.decimals ≠ [] := List.ne_nil_of_length_pos h
  obtain ⟨s, c, hs⟩ := List.eq_nil_or_concat' _ |>.resolve_left hne
  have hzero : c ≠ '0' := by
    have hhead : (n.decimals.reverse.dropWhile (· = '0')).head? = some c := by
      rw [← List.getLast?_reverse, ← withoutTrailingZeros, hs, List.getLast?_concat]
    simpa using Text.head_dropWhile _ _ _ hhead
  have hdigit : c.isDigit = true := by
    obtain ⟨k, hk⟩ := exists_zeros n.decimals
    refine n.isDigit c (List.mem_append_right _ ?_)
    rw [← Numeral.decimals, hk, hs]
    simp
  have hlast := digitValue_pos hdigit hzero
  rw [mantissa, hs, ← List.append_assoc, Text.digitsValue_append]
  simpa [Text.digitsValue] using Or.inr hlast

namespace Spelling.Overflows

variable {s : String} {q : Spelling}

theorem mantissa_pos (h : q.Overflows) : 0 < q.numeral.mantissa := by
  have hbounds := q.suffix.decimal_bounds
  have hpower := h.power_lt
  exact Numeral.mantissa_pos_of_places (by omega)

theorem product_pos (h : q.Overflows) :
    0 < saturate wordLimit (q.numeral.mantissa * 1024 ^ q.suffix.scale.binary) :=
  Nat.lt_min.mpr ⟨Nat.mul_pos h.mantissa_pos (Nat.pow_pos (by decide)), by decide⟩

/-- So little is written that it rounds up to one. -/
theorem ceil_amount (h : q.Overflows) : ⌈q.amount⌉ = 1 := by
  -- no mantissa that fits its word has more than 58 digits, even times the power of 1024
  obtain ⟨k, hk, hpower⟩ : ∃ k : Nat, 58 ≤ k ∧
      q.suffix.scale.decimal - q.numeral.places = -(k : Int) := by
    have hlt := h.power_lt
    exact ⟨(q.suffix.scale.decimal - q.numeral.places).natAbs, by omega, by omega⟩
  have hscaled := scaled_mantissa q.numeral q.suffix
  rw [hpower, zpow_neg, zpow_natCast, ← div_eq_mul_inv] at hscaled
  have hproduct : q.numeral.mantissa * 1024 ^ q.suffix.scale.binary ≤ 10 ^ k := by
    calc q.numeral.mantissa * 1024 ^ q.suffix.scale.binary ≤ (2 ^ 127 - 1) * 1024 ^ 6 :=
          Nat.mul_le_mul h.mantissa_le (Nat.pow_le_pow_right (by decide) q.suffix.binary_le)
      _ ≤ 10 ^ 58 := by decide
      _ ≤ 10 ^ k := Nat.pow_le_pow_right (by decide) hk
  have hpos : 0 < q.numeral.mantissa * 1024 ^ q.suffix.scale.binary :=
    Nat.mul_pos h.mantissa_pos (Nat.pow_pos (by decide))
  rw [amount, ← hscaled, Int.ceil_eq_iff]
  have hten : (0 : ℚ) < 10 ^ k := by positivity
  constructor
  · rw [Int.cast_one, sub_self]
    exact div_pos (by exact_mod_cast hpos) hten
  · rw [Int.cast_one, div_le_one hten]
    exact_mod_cast hproduct

/-- The power that is held in place of the one that does not fit. -/
theorem held_power (h : q.Overflows) (hplaces : q.numeral.places < 2 ^ 31) :
    held 32 (q.suffix.scale.decimal - q.numeral.places) =
      q.suffix.scale.decimal - q.numeral.places + 2 ^ 32 := by
  have hbounds := q.suffix.decimal_bounds
  have hpower := h.power_lt
  rw [held, BitVec.toInt_ofInt, Int.bmod_def]
  split <;> omega

theorem arithmetic_value_eq (h : q.Overflows) (hq : q.chars = Text.trimmed s.toList)
    (hs : s.length < 2 ^ 31) (a : Arithmetic) :
    a.value s = (a.keep 32 (q.suffix.scale.decimal - q.numeral.places)).map fun power =>
      .ok (roundedAt power q.numeral q.suffix : Nat) := by
  have hword : ¬ wordLimit < q.numeral.mantissa := Nat.not_lt.mpr h.mantissa_le
  rw [a.value_spelled hq, if_neg h.sign_ne,
    a.evaluate_numeral (Nat.lt_of_le_of_lt (places_le hq) hs), if_neg hword]

theorem checked_value (h : q.Overflows) (hq : q.chars = Text.trimmed s.toList)
    (hs : s.length < 2 ^ 31) : Arithmetic.checked.value s = none := by
  have hkeep : Arithmetic.checked.keep 32 (q.suffix.scale.decimal - q.numeral.places) = none := by
    refine if_neg fun hfits => ?_
    have hpower := h.power_lt
    have hheld := h.held_power (Nat.lt_of_le_of_lt (places_le hq) hs)
    rw [Fits] at hfits
    omega
  rw [h.arithmetic_value_eq hq hs, hkeep, Option.map_none]

theorem wrapping_value (h : q.Overflows) (hq : q.chars = Text.trimmed s.toList)
    (hs : s.length < 2 ^ 31) : Arithmetic.wrapping.value s = some (.ok (q.wrapped : Nat)) := by
  rw [h.arithmetic_value_eq hq hs, Arithmetic.keep,
    h.held_power (Nat.lt_of_le_of_lt (places_le hq) hs), Option.map_some, wrapped]

/-- A computation that wraps around goes on with a power of ten that is positive. -/
theorem le_wrapped (h : q.Overflows) {k : Nat}
    (hk : (k : Int) ≤ q.suffix.scale.decimal - q.numeral.places + 2 ^ 32) :
    min (10 ^ k) (2 ^ 63 - 1) ≤ q.wrapped := by
  obtain ⟨m, hm⟩ : ∃ m : Nat, q.suffix.scale.decimal - q.numeral.places + 2 ^ 32 = m :=
    Int.eq_ofNat_of_zero_le (by omega)
  have hproduct := h.product_pos
  rw [wrapped, roundedAt, hm, saturate_scaleBy_natCast]
  refine min_le_min_right valueLimit ?_
  calc 10 ^ k = 1 * 10 ^ k := (Nat.one_mul _).symm
    _ ≤ _ := Nat.mul_le_mul hproduct (Nat.pow_le_pow_right (by decide) (by omega))

theorem ten_le_wrapped (h : q.Overflows) (hq : q.chars = Text.trimmed s.toList)
    (hs : s.length < 2 ^ 31) : 10 ≤ q.wrapped := by
  have hbounds := q.suffix.decimal_bounds
  have hplaces := places_le hq
  exact h.le_wrapped (k := 1) (by omega)

/-- Texts of up to 2^30 characters leave a power that is past the greatest value. -/
theorem wrapped_eq_greatest (h : q.Overflows) (hq : q.chars = Text.trimmed s.toList)
    (hs : s.length < 2 ^ 30) : q.wrapped = 2 ^ 63 - 1 := by
  have hbounds := q.suffix.decimal_bounds
  have hplaces := places_le hq
  exact Nat.le_antisymm (saturate_le valueLimit _) (h.le_wrapped (k := 19) (by omega))

end Spelling.Overflows

/-! ## Counts in words -/

theorem mapM_eq_some_map {α β : Type} {f : α → Option β} {g : α → β} {l : List α}
    (h : ∀ x ∈ l, f x = some (g x)) : l.mapM f = some (l.map g) := by
  induction l with
  | nil => rfl
  | cons x l ih =>
    rw [List.mapM_cons, h x List.mem_cons_self, ih fun y hy => h y (List.mem_cons_of_mem x hy)]
    rfl

theorem mapM_eq_none_iff {α β : Type} {f : α → Option β} {l : List α} :
    l.mapM f = none ↔ ∃ x ∈ l, f x = none := by
  induction l with
  | nil => simp
  | cons x l ih =>
    rw [List.mapM_cons, List.exists_mem_cons_iff, ← ih]
    cases f x <;> cases l.mapM f <;> simp

namespace Arithmetic

theorem count_of_quantity? (a : Arithmetic) {cluster : ManagedCluster} {r : Resource} {s : String}
    (h : cluster.quantity? r.name = some s) :
    a.count cluster r = (a.value s).map fun v => v.toOption.getD 0 := by
  simp only [count, h]

/-- Where each count is that of the derived capacity, so are all. -/
theorem counts_eq_of_count {a : Arithmetic} {cluster : ManagedCluster}
    (h : ∀ r : Resource, a.count cluster r = some (Capacity.countOf cluster r : Int)) :
    a.counts cluster = some ((Capacity.derive cluster).value.entries.map (·.2)) := by
  have hentries : (Capacity.derive cluster).value.entries.map (·.2) =
      Resource.all.map fun r => (Capacity.countOf cluster r : Int) := by
    simp [Capacity.entries]
  rw [hentries]
  exact mapM_eq_some_map fun r _ => h r

end Arithmetic

/-- All quantities of a cluster are shorter than a word can tell. -/
def Short (cluster : ManagedCluster) : Prop :=
  ∀ (r : Resource) (s : String), cluster.quantity? r.name = some s → s.length < 2 ^ 31

section Counts

variable {cluster : ManagedCluster} (hshort : Short cluster)

include hshort

/-- A count is the same in words as without them, unless its quantity leaves its word. -/
theorem count_of_not_overflows {r : Resource}
    (h : ¬ ∃ s, cluster.quantity? r.name = some s ∧ Overflows s) (a : Arithmetic) :
    a.count cluster r = some (Capacity.countOf cluster r : Int) := by
  unfold Capacity.countOf
  cases hquantity : cluster.quantity? r.name with
  | none => simp [Arithmetic.count, hquantity]
  | some s =>
    have hs : ¬ Overflows s := fun hoverflows => h ⟨s, hquantity, hoverflows⟩
    rw [a.count_of_quantity? hquantity, a.value_of_not_overflows (hshort r s hquantity) hs,
      Option.bind_some, wrapped?_of_not_overflows hs]
    cases value s <;> rfl

/-- The counts are derived by arithmetic that wraps around. -/
theorem wrapping_count (r : Resource) :
    Arithmetic.wrapping.count cluster r = some (Capacity.countOf cluster r : Int) := by
  by_cases h : ∃ s, cluster.quantity? r.name = some s ∧ Overflows s
  · obtain ⟨s, hs, q, hq, hoverflows⟩ := h
    rw [Arithmetic.count_of_quantity? _ hs, hoverflows.wrapping_value hq (hshort r s hs),
      Capacity.countOf, hs, Option.bind_some, wrapped?, hoverflows.value_eq hq]
    rfl
  · exact count_of_not_overflows hshort h .wrapping

theorem checked_count_eq_none_iff (r : Resource) : Arithmetic.checked.count cluster r = none ↔
    ∃ s, cluster.quantity? r.name = some s ∧ Overflows s := by
  constructor
  · intro hnone
    by_contra h
    rw [count_of_not_overflows hshort h] at hnone
    cases hnone
  · rintro ⟨s, hs, q, hq, hoverflows⟩
    rw [Arithmetic.count_of_quantity? _ hs, hoverflows.checked_value hq (hshort r s hs),
      Option.map_none]

/-- A checked computation of the counts ends where one of the quantities leaves its word, and only
there. -/
theorem checked_counts_eq_none_iff : Arithmetic.checked.counts cluster = none ↔
    ∃ (r : Resource) (s : String), cluster.quantity? r.name = some s ∧ Overflows s := by
  simp only [Arithmetic.counts, mapM_eq_none_iff, checked_count_eq_none_iff hshort]
  constructor
  · rintro ⟨r, -, h⟩
    exact ⟨r, h⟩
  · rintro ⟨r, h⟩
    exact ⟨r, r.mem_all, h⟩

theorem counts_of_not_overflows
    (h : ∀ (r : Resource) (s : String), cluster.quantity? r.name = some s → ¬ Overflows s)
    (a : Arithmetic) :
    a.counts cluster = some ((Capacity.derive cluster).value.entries.map (·.2)) := by
  refine Arithmetic.counts_eq_of_count fun r => count_of_not_overflows hshort ?_ a
  rintro ⟨s, hs, hoverflows⟩
  exact h r s hs hoverflows

/-- Checked words end where the derived capacity says so. -/
theorem checked_counts : Arithmetic.checked.counts cluster =
    (Capacity.derive cluster).checked.map fun c => c.entries.map (·.2) := by
  by_cases h : ∃ (r : Resource) (s : String), cluster.quantity? r.name = some s ∧ Overflows s
  · have hderive := Computation.checked_eq_none_iff.mpr
      ((Capacity.overflowed_derive cluster).mpr h)
    rw [(checked_counts_eq_none_iff hshort).mpr h, hderive, Option.map_none]
  · have hderive : (Capacity.derive cluster).overflowed = false :=
      Bool.eq_false_iff.mpr (mt (Capacity.overflowed_derive cluster).mp h)
    rw [Computation.checked, hderive, if_neg Bool.false_ne_true, Option.map_some]
    exact counts_of_not_overflows hshort (fun r s hs hoverflows => h ⟨r, s, hs, hoverflows⟩) _

end Counts

/-- **One operation can leave its word.** For texts whose length fits a word, the power of 1024 does
so too, and in either arithmetic the value is the one without words, unless the text overflows: the
decimals take the power of ten below the least there is. The amount then rounds up to one, but a
checked computation ends without a value, and one that wraps around has a value of ten at least, for
texts of up to 2^30 characters the greatest there is. So a computation of the counts of a cluster
comes to those of the derived capacity if it wraps around or no quantity overflows, and a checked
one ends where one does. -/
theorem value_in_words (s : String) (hs : s.length < 2 ^ 31) (cluster : ManagedCluster)
    (hshort : Short cluster) :
    ((∀ numeral scale, split? (Text.trimmed s.toList) = some (numeral, scale) →
        Fits 128 (1024 ^ scale.binary)) ∧
      (¬ Overflows s → ∀ a : Arithmetic, a.value s = some ((value s).map Int.ofNat)) ∧
      ∀ q : Spelling, q.chars = Text.trimmed s.toList → q.Overflows →
        ⌈q.amount⌉ = 1 ∧ Arithmetic.checked.value s = none ∧
        ∃ v : Nat, value s = .error (.scaleOutOfRange v) ∧
          Arithmetic.wrapping.value s = some (.ok v) ∧ 10 ≤ v ∧
          (s.length < 2 ^ 30 → v = 2 ^ 63 - 1)) ∧
    Arithmetic.wrapping.counts cluster =
      some ((Capacity.derive cluster).value.entries.map (·.2)) ∧
    Arithmetic.checked.counts cluster =
      (Capacity.derive cluster).checked.map (fun c => c.entries.map (·.2)) ∧
    (Arithmetic.checked.counts cluster = none ↔
      ∃ (r : Resource) (t : String), cluster.quantity? r.name = some t ∧ Overflows t) ∧
    ((∀ (r : Resource) (t : String), cluster.quantity? r.name = some t → ¬ Overflows t) →
      ∀ a : Arithmetic,
        a.counts cluster = some ((Capacity.derive cluster).value.entries.map (·.2))) := by
  refine ⟨⟨fun numeral scale hsplit => ?_, fun h a => a.value_of_not_overflows hs h,
    fun q hq hoverflows => ?_⟩, Arithmetic.counts_eq_of_count (wrapping_count hshort),
    checked_counts hshort, checked_counts_eq_none_iff hshort, counts_of_not_overflows hshort⟩
  · obtain ⟨x, -, rfl⟩ := exists_suffix_of_split? hsplit
    exact fits_pow_binary x
  · exact ⟨hoverflows.ceil_amount, hoverflows.checked_value hq hs, q.wrapped,
      hoverflows.value_eq hq, hoverflows.wrapping_value hq hs, hoverflows.ten_le_wrapped hq hs,
      hoverflows.wrapped_eq_greatest hq⟩

/-- A tenth of the least power of ten. -/
def leastText : String := "0.1E-2147483648"

def leastSpelling : Spelling where
  sign := .none
  numeral := ⟨['0'], some ['1'], List.all_eq_true.mp rfl, by decide⟩
  suffix := .exponent
    ⟨'E', .minus, ['2', '1', '4', '7', '4', '8', '3', '6', '4', '8'], by decide,
      List.all_eq_true.mp rfl, by decide, by decide, by decide⟩

theorem leastSpelling_chars : leastSpelling.chars = Text.trimmed leastText.toList := by
  decide +kernel

theorem overflows_leastSpelling : leastSpelling.Overflows :=
  ⟨by decide, by decide +kernel, by decide +kernel⟩

theorem short_clusterWith {s : String} (hs : s.length < 2 ^ 31) : Short (clusterWith s) := by
  intro r t h
  cases r with
  | cpu =>
    obtain rfl : s = t := Option.some.inj h
    exact hs
  | _ => cases h

/-- With the least exponent, one decimal is too many: what is no more than one has no value in
checked words, and the greatest in others. -/
theorem overflow_of_least_exponent :
    leastText.length < 2 ^ 31 ∧ leastSpelling.chars = Text.trimmed leastText.toList ∧
      ⌈leastSpelling.amount⌉ = 1 ∧ Arithmetic.checked.value leastText = none ∧
      Arithmetic.wrapping.value leastText = some (.ok (2 ^ 63 - 1)) ∧
      Arithmetic.checked.counts (clusterWith leastText) = none := by
  have hlength : leastText.length < 2 ^ 31 := by decide
  have hoverflows := overflows_leastSpelling
  have hwrapping := hoverflows.wrapping_value leastSpelling_chars hlength
  rw [hoverflows.wrapped_eq_greatest leastSpelling_chars (by decide)] at hwrapping
  refine ⟨hlength, leastSpelling_chars, hoverflows.ceil_amount,
    hoverflows.checked_value leastSpelling_chars hlength, hwrapping, ?_⟩
  exact (checked_counts_eq_none_iff (short_clusterWith hlength)).mpr
    ⟨.cpu, leastText, rfl, leastSpelling, leastSpelling_chars, hoverflows⟩

theorem value_in_words_tenth_and_least :
    tenthText.length < 2 ^ 31 ∧ ¬ Overflows tenthText ∧
      Arithmetic.checked.value tenthText = some (.ok 103) ∧
      leastText.length < 2 ^ 31 ∧ leastSpelling.chars = Text.trimmed leastText.toList ∧
      leastSpelling.Overflows ∧ Arithmetic.checked.value leastText = none ∧
      Short (clusterWith leastText) ∧
      Arithmetic.checked.counts (clusterWith leastText) = none := by
  have hvalue : value tenthText = .ok 103 := by decide +kernel
  have htenth : ¬ Overflows tenthText := by
    rw [← ends_iff, ends, hvalue]
    exact Bool.false_ne_true
  have hshort : Short (clusterWith leastText) := short_clusterWith (by decide)
  obtain ⟨⟨-, hkept, -⟩, -⟩ := value_in_words tenthText (by decide) _ hshort
  obtain ⟨⟨-, -, hleast⟩, -, -, hcounts, -⟩ := value_in_words leastText (by decide) _ hshort
  obtain ⟨-, hchecked, -⟩ := hleast _ leastSpelling_chars overflows_leastSpelling
  rw [hvalue] at hkept
  exact ⟨by decide, htenth, hkept htenth .checked, by decide, leastSpelling_chars,
    overflows_leastSpelling, hchecked, hshort, hcounts.mpr
      ⟨.cpu, leastText, rfl, leastSpelling, leastSpelling_chars, overflows_leastSpelling⟩⟩

end FleetExporter.Quantity
