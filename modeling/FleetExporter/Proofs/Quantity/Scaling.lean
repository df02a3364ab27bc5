import FleetExporter.Proofs.Numeral
import FleetExporter.Proofs.Quantity.Spelling
import Mathlib.Data.List.TakeWhile
import Mathlib.Tactic.Linarith
import Mathlib.Tactic.Positivity
import Mathlib.Tactic.FieldSimp

/-! How an amount is computed. The digits of a number without the zeros at its end make one natural
number, the rest is a power of ten and one of 1024. A power of ten is applied exactly, also where it
does not fit the word; a power of 1024 only as far as the product fits. -/
namespace FleetExporter.Quantity

theorem wordLimit_eq : wordLimit = 2 ^ 127 - 1 := rfl

theorem valueLimit_eq : valueLimit = 2 ^ 63 - 1 := rfl

/-! ## Powers of ten -/

theorem pow_ten_of_gt {k : Nat} (h : 38 < k) : wordLimit < 10 ^ k := by
  calc wordLimit < 10 ^ 39 := by decide
    _ ≤ 10 ^ k := Nat.pow_le_pow_right (by decide) h

/-- Where a product is cut to the word, it is past the greatest value anyway. -/
theorem saturate_scaleBy_natCast (n k : Nat) :
    saturate valueLimit (scaleBy n k) = saturate valueLimit (n * 10 ^ k) := by
  have hlimits : valueLimit ≤ wordLimit := by decide
  unfold scaleBy
  rw [if_pos (Int.natCast_nonneg k)]
  split
  · simp only [Int.toNat_natCast, saturate, Nat.pow_eq]
    omega
  · split
    · rename_i hn
      rw [hn, Nat.zero_mul]
    · have hpow : wordLimit < 10 ^ k := pow_ten_of_gt (by omega)
      have hproduct : 10 ^ k ≤ n * 10 ^ k := Nat.le_mul_of_pos_left _ (by omega)
      simp only [saturate]
      omega

theorem add_sub_one_div_of_le {n d : Nat} (hd : 0 < d) (h : n ≤ d) :
    (n + d - 1) / d = if n = 0 then 0 else 1 := by
  split
  · rename_i hn
    rw [hn]
    exact Nat.div_eq_of_lt (by omega)
  · exact Nat.div_eq_of_lt_le (by omega) (by omega)

/-- A divisor past the word leaves no more than one of what fits it. -/
theorem scaleBy_neg {n k : Nat} (hn : n ≤ wordLimit) (hk : 0 < k) :
    scaleBy n (-k) = (n + 10 ^ k - 1) / 10 ^ k := by
  unfold scaleBy
  rw [if_neg (by omega)]
  split
  · simp only [neg_neg, Int.toNat_natCast, Nat.pow_eq]
  · have hpow : wordLimit < 10 ^ k := pow_ten_of_gt (by omega)
    rw [add_sub_one_div_of_le (by omega) (by omega)]

theorem ceil_natCast_div (n : Nat) {d : Nat} (hd : 0 < d) :
    ⌈(n : ℚ) / d⌉ = ((n + d - 1) / d : Nat) := by
  have hle : n ≤ (n + d - 1) / d * d := by
    have hlt := Nat.lt_div_mul_add (a := n + d - 1) hd
    omega
  have hlt : (n + d - 1) / d * d < n + d := by
    have hle := Nat.div_mul_le_self (n + d - 1) d
    omega
  have hd' : (0 : ℚ) < d := by exact_mod_cast hd
  rw [Int.ceil_eq_iff, lt_div_iff₀ hd', div_le_iff₀ hd']
  constructor
  · have hlt' : (((n + d - 1) / d : Nat) : ℚ) * d < n + d := by exact_mod_cast hlt
    rw [Int.cast_natCast]
    linarith
  · rw [Int.cast_natCast]
    exact_mod_cast hle

/-- A number that fits the word is scaled by a power of ten exactly and rounded up. -/
theorem saturate_scaleBy {n : Nat} (hn : n ≤ wordLimit) (p : Int) :
    (saturate valueLimit (scaleBy n p) : ℤ) = min (valueLimit : ℤ) ⌈(n : ℚ) * 10 ^ p⌉ := by
  by_cases hp : 0 ≤ p
  · obtain ⟨k, rfl⟩ := Int.eq_ofNat_of_zero_le hp
    have hceil : ⌈(n : ℚ) * 10 ^ (k : Int)⌉ = (n * 10 ^ k : Nat) := by
      rw [zpow_natCast, ← Int.ceil_natCast (R := ℚ)]
      push_cast
      rfl
    rw [saturate_scaleBy_natCast, hceil, saturate]
    omega
  · obtain ⟨k, hk, rfl⟩ : ∃ k : Nat, 0 < k ∧ p = -k := ⟨p.natAbs, by omega, by omega⟩
    have hquotient : (n : ℚ) * 10 ^ (-(k : Int)) = (n : ℚ) / (10 ^ k : Nat) := by
      rw [zpow_neg, zpow_natCast, div_eq_mul_inv]
      push_cast
      rfl
    rw [scaleBy_neg hn hk, hquotient, ceil_natCast_div n (Nat.pow_pos (by decide)), saturate]
    omega

/-! ## Digits -/

theorem exists_zeros (s : List Char) :
    ∃ k, s = withoutTrailingZeros s ++ List.replicate k '0' := by
  let zeros := s.reverse.takeWhile (· = '0')
  have hzeros : zeros = List.replicate zeros.length '0' :=
    List.eq_replicate_of_mem fun c hc => by simpa using List.mem_takeWhile_imp hc
  refine ⟨zeros.length, ?_⟩
  calc s = (zeros ++ s.reverse.dropWhile (· = '0')).reverse := by
        rw [List.takeWhile_append_dropWhile, List.reverse_reverse]
    _ = withoutTrailingZeros s ++ zeros.reverse := List.reverse_append
    _ = withoutTrailingZeros s ++ List.replicate zeros.length '0' := by
        rw [hzeros, List.reverse_replicate, List.length_replicate]

namespace Numeral

/-- How many decimals there are up to the last that is not zero. -/
def places (n : Numeral) : Nat := (withoutTrailingZeros n.decimals).length

/-- The number without its point, and without the zeros at the end of its decimals. -/
def mantissa (n : Numeral) : Nat :=
  Text.digitsValue (n.whole ++ withoutTrailingZeros n.decimals)

theorem number_eq (n : Numeral) : n.number = n.mantissa / 10 ^ n.places := by
  obtain ⟨k, hk⟩ := exists_zeros n.decimals
  have hvalue : Text.digitsValue n.decimals =
      Text.digitsValue (withoutTrailingZeros n.decimals) * 10 ^ k := by
    conv_lhs => rw [hk]
    rw [Text.digitsValue_append, List.length_replicate, Text.digitsValue_replicate_zero,
      Nat.add_zero]
  have hlength : n.decimals.length = n.places + k := by
    conv_lhs => rw [hk]
    rw [List.length_append, List.length_replicate, places]
  rw [number, mantissa, Text.digitsValue_append, hvalue, hlength, ← places, pow_add]
  push_cast
  field_simp

theorem mantissa_pos {n : Numeral} (h : 0 < n.number) : 0 < n.mantissa := by
  rw [number_eq] at h
  by_contra hzero
  rw [Nat.eq_zero_of_not_pos hzero, Nat.cast_zero, zero_div] at h
  exact lt_irrefl 0 h

end Numeral

/-! ## The value of a number and a suffix -/

namespace Suffix

theorem factor_eq (x : Suffix) : x.factor = 1024 ^ x.scale.binary * 10 ^ x.scale.decimal := by
  cases x <;> simp [factor, scale]

theorem factor_pos (x : Suffix) : 0 < x.factor := by
  rw [factor_eq]
  exact mul_pos (by positivity) (zpow_pos (by norm_num) _)

theorem binary_eq_zero {x : Suffix} (h : x.isBinary = false) : x.scale.binary = 0 := by
  cases x <;> first | rfl | cases h

theorem decimal_eq_zero {x : Suffix} (h : x.isBinary = true) : x.scale.decimal = 0 := by
  cases x <;> first | rfl | cases h

end Suffix

/-- What is computed of the digits of a number, the power of 1024 of its suffix and a power of
ten. -/
def roundedAt (power : Int) (n : Numeral) (x : Suffix) : Nat :=
  saturate valueLimit (scaleBy (saturate wordLimit (n.mantissa * 1024 ^ x.scale.binary)) power)

/-- The value of a number and a suffix, as far as it is computed. -/
def rounded (n : Numeral) (x : Suffix) : Nat := roundedAt (x.scale.decimal - n.places) n x

theorem evaluate_numeral (n : Numeral) (x : Suffix) :
    evaluate n.whole n.decimals x.scale =
      if wordLimit < n.mantissa then .error .tooManyDigits
      else if x.scale.decimal - n.places < -2 ^ 31 then
        .error (.scaleOutOfRange (roundedAt (x.scale.decimal - n.places + 2 ^ 32) n x))
      else .ok (rounded n x) := rfl

theorem cast_rounded (n : Numeral) (x : Suffix) : (rounded n x : ℤ) = min (valueLimit : ℤ)
    ⌈((saturate wordLimit (n.mantissa * 1024 ^ x.scale.binary) : Nat) : ℚ) *
      10 ^ (x.scale.decimal - n.places)⌉ := saturate_scaleBy (saturate_le _ _) _

/-- The digits, scaled by the suffix and by the decimals they have, are the number scaled. -/
theorem scaled_mantissa (n : Numeral) (x : Suffix) :
    ((n.mantissa * 1024 ^ x.scale.binary : Nat) : ℚ) * 10 ^ (x.scale.decimal - n.places) =
      n.number * x.factor := by
  rw [n.number_eq, x.factor_eq, zpow_sub₀ (by norm_num), zpow_natCast]
  push_cast
  field_simp

/-- As long as the digits fit the word together with the power of 1024, the value is exact. -/
theorem cast_rounded_of_le {n : Numeral} {x : Suffix}
    (h : n.mantissa * 1024 ^ x.scale.binary ≤ wordLimit) :
    (rounded n x : ℤ) = min (valueLimit : ℤ) ⌈n.number * x.factor⌉ := by
  rw [cast_rounded, saturate, Nat.min_eq_left h, scaled_mantissa]

/-- What does not fit the word counts as the word, and is then divided by the power of ten. -/
theorem cast_rounded_of_binary {n : Numeral} {x : Suffix} (hx : x.isBinary = true) :
    (rounded n x : ℤ) = min (valueLimit : ℤ)
      ⌈min (n.number * x.factor) ((wordLimit : ℚ) / 10 ^ n.places)⌉ := by
  have hdivide : ∀ m : Nat, (m : ℚ) * 10 ^ (x.scale.decimal - n.places) = m / 10 ^ n.places := by
    intro m
    rw [Suffix.decimal_eq_zero hx, zero_sub, zpow_neg, zpow_natCast, div_eq_mul_inv]
  rw [cast_rounded, ← scaled_mantissa, saturate, hdivide, hdivide, Nat.cast_min,
    min_div_div_right (by positivity)]

/-- Something is never rounded to nothing. -/
theorem rounded_pos {n : Numeral} {x : Suffix} (h : 0 < n.mantissa) : 0 < rounded n x := by
  have hproduct : 0 < saturate wordLimit (n.mantissa * 1024 ^ x.scale.binary) :=
    Nat.lt_min.mpr ⟨Nat.mul_pos h (Nat.pow_pos (by decide)), by decide⟩
  have hceil : 0 < ⌈((saturate wordLimit (n.mantissa * 1024 ^ x.scale.binary) : Nat) : ℚ) *
      10 ^ (x.scale.decimal - n.places)⌉ := by
    rw [Int.ceil_pos]
    have hproduct' : (0 : ℚ) < (saturate wordLimit (n.mantissa * 1024 ^ x.scale.binary) : Nat) := by
      exact_mod_cast hproduct
    exact mul_pos hproduct' (zpow_pos (by norm_num) _)
  have hlimit : (0 : ℤ) < valueLimit := by decide
  have hcast := cast_rounded n x
  omega

/-- A cut above the limit is not seen below it. -/
theorem min_ceil_min {limit : ℤ} {a b : ℚ} (h : (limit : ℚ) ≤ b) :
    min limit ⌈min a b⌉ = min limit ⌈a⌉ := by
  rcases le_total a b with hab | hab
  · rw [min_eq_left hab]
  · have hlimit : limit ≤ ⌈b⌉ := by exact_mod_cast h.trans (Int.le_ceil b)
    rw [min_eq_right hab, min_eq_left hlimit, min_eq_left (hlimit.trans (Int.ceil_mono hab))]

theorem valueLimit_le_div {k : Nat} (h : k ≤ 19) :
    ((valueLimit : ℤ) : ℚ) ≤ (wordLimit : ℚ) / 10 ^ k := by
  have hpow : valueLimit * 10 ^ k ≤ wordLimit := by
    calc valueLimit * 10 ^ k ≤ valueLimit * 10 ^ 19 :=
          Nat.mul_le_mul_left _ (Nat.pow_le_pow_right (by decide) h)
      _ ≤ wordLimit := by decide
  rw [le_div_iff₀ (by positivity)]
  exact_mod_cast hpow

end FleetExporter.Quantity
