import FleetExporter.Proofs.Calendar
import FleetExporter.Proofs.Numeral
import Mathlib.Data.List.TakeWhile

/-! Timestamps and their texts. A timestamp that was read is written as a text of which the same
timestamp is read: each part of the text is read back, up to what follows it. -/
namespace FleetExporter

namespace Text

theorem digitsValue_toDigits (n : Nat) : digitsValue (Nat.toDigits 10 n) = n :=
  Nat.ofDigitChars_toDigits (by decide) (by decide)

theorem isBlank_of_isDigit {c : Char} (h : c.isDigit = true) : isBlank c = false := by
  simp only [Char.isDigit, Bool.and_eq_true, decide_eq_true_eq] at h
  have hlow : 48 ≤ c.toNat := UInt32.le_iff_toNat_le.mp h.1
  have hhigh : c.toNat ≤ 57 := UInt32.le_iff_toNat_le.mp h.2
  simp only [isBlank, inRanges, blankRanges, List.any_cons, List.any_nil, Bool.or_false,
    Bool.or_eq_false_iff, Bool.and_eq_false_iff, decide_eq_false_iff_not]
  omega

end Text

namespace Timestamp

/-! ## Numbers -/

theorem isDigit_of_mem_padded {width n : Nat} {c : Char} (h : c ∈ padded width n) :
    c.isDigit = true := by
  rcases List.mem_append.mp h with hc | hc
  · obtain rfl := List.eq_of_mem_replicate hc
    decide
  · exact Nat.isDigit_of_mem_toDigits (by decide) (by decide) hc

theorem padded_ne_nil (width n : Nat) : padded width n ≠ [] := by
  simp [padded]

theorem digitsValue_padded (width n : Nat) : Text.digitsValue (padded width n) = n := by
  rw [padded, Text.digitsValue_append, Text.digitsValue_replicate_zero, Nat.zero_mul, Nat.zero_add,
    Text.digitsValue_toDigits]

theorem length_padded_le {width n : Nat} (hwidth : 0 < width) (h : n < 10 ^ width) :
    (padded width n).length ≤ width := by
  have hdigits : (Nat.toDigits 10 n).length ≤ width :=
    (Nat.length_toDigits_le_iff (by decide) hwidth).mpr h
  rw [padded, List.length_append, List.length_replicate]
  omega

/-- A number begins with a digit, so neither a blank nor a sign stands before it. -/
theorem exists_digit_of_padded (width n : Nat) (rest : List Char) :
    ∃ c cs, padded width n ++ rest = c :: cs ∧ c.isDigit = true := by
  obtain ⟨c, cs, hc⟩ := List.exists_cons_of_ne_nil (padded_ne_nil width n)
  have hmem : c ∈ padded width n := hc ▸ List.mem_cons_self
  exact ⟨c, cs ++ rest, by rw [hc, List.cons_append], isDigit_of_mem_padded hmem⟩

theorem skipBlanks_cons {c : Char} (h : Text.isBlank c = false) (cs : List Char) :
    skipBlanks (c :: cs) = c :: cs := by
  simp [skipBlanks, h]

theorem skipBlanks_padded (width n : Nat) (rest : List Char) :
    skipBlanks (padded width n ++ rest) = padded width n ++ rest := by
  obtain ⟨c, cs, hcs, hc⟩ := exists_digit_of_padded width n rest
  rw [hcs, skipBlanks_cons (Text.isBlank_of_isDigit hc)]

/-- A number is read up to a character that is no digit. -/
theorem number_padded {most width n : Nat} (hmost : (padded width n).length ≤ most) {c : Char}
    (hc : c.isDigit = false) (rest : List Char) :
    number most (padded width n ++ c :: rest) = .ok (n, c :: rest) := by
  have hdigits : (padded width n ++ c :: rest).takeWhile Char.isDigit = padded width n := by
    rw [List.takeWhile_append_of_pos fun _ => isDigit_of_mem_padded]
    simp [hc]
  have hne : padded width n ++ c :: rest ≠ [] := by simp
  simp only [number, hdigits, List.take_of_length_le hmost, if_neg hne,
    if_neg (padded_ne_nil width n), digitsValue_padded, List.drop_left]

theorem bounded_padded {least most n : Nat} (hn : n < 100) (hleast : least ≤ n) (hmost : n ≤ most)
    {c : Char} (hc : c.isDigit = false) (rest : List Char) :
    bounded least most (padded 2 n ++ c :: rest) = .ok (n, c :: rest) := by
  rw [bounded, skipBlanks_padded,
    number_padded (length_padded_le (by decide) hn) hc]
  simp [hleast, hmost]

theorem mark_cons {c : Char} (h : Text.isBlank c = false) (rest : List Char) :
    mark c (c :: rest) = .ok rest := by
  simp [mark, skipBlanks_cons h]

/-! ## Dates and times of day -/

theorem year_yearText {y : Int} (h : fitsYear y = true) (rest : List Char) :
    year (yearText y ++ '-' :: rest) = .ok (y, '-' :: rest) := by
  unfold yearText
  by_cases hplain : 0 ≤ y ∧ y ≤ 9999
  · have hlength : (padded 4 y.toNat).length ≤ 4 := length_padded_le (by decide) (by omega)
    have hy : (1 : Int) * y.toNat = y := by omega
    have hnumber := number_padded hlength (c := '-') (by decide) rest
    obtain ⟨d, ds, hds, hd⟩ := exists_digit_of_padded 4 y.toNat ('-' :: rest)
    rw [if_pos hplain]
    rw [hds] at hnumber ⊢
    have hminus : d ≠ '-' := by rintro rfl; exact absurd hd (by decide)
    have hplus : d ≠ '+' := by rintro rfl; exact absurd hd (by decide)
    unfold year
    rw [skipBlanks_cons (Text.isBlank_of_isDigit hd)]
    split
    rename_i heq
    split at heq
    · rename_i hcons
      exact absurd (List.cons.inj hcons).1 hminus
    · rename_i hcons
      exact absurd (List.cons.inj hcons).1 hplus
    · cases heq
      simp only [hnumber, hy, h, if_true]
  · have hlength : ∀ rest : List Char,
        (padded 4 y.natAbs).length ≤ (padded 4 y.natAbs ++ rest).length :=
      fun rest => by simp
    have hnumber := number_padded (hlength ('-' :: rest)) (c := '-') (by decide) rest
    rw [if_neg hplain]
    by_cases hneg : y < 0
    · have hy : (-1 : Int) * y.natAbs = y := by omega
      rw [if_pos hneg, List.cons_append]
      unfold year
      rw [skipBlanks_cons (by decide)]
      simp only [hnumber, hy, h, if_true]
    · have hy : (1 : Int) * y.natAbs = y := by omega
      rw [if_neg hneg, List.cons_append]
      unfold year
      rw [skipBlanks_cons (by decide)]
      simp only [hnumber, hy, h, if_true]

theorem date_text {year : Int} {month day : Nat} (h : IsDate year month day)
    (hyear : fitsYear year = true) (rest : List Char) :
    date (yearText year ++ '-' :: padded 2 month ++ '-' :: padded 2 day ++ 'T' :: rest) =
      .ok ((year, month, day), 'T' :: rest) := by
  have hlast : day ≤ 31 := h.day_le.trans (daysInMonth_le year month)
  have hmonth := h.month_le
  simp only [List.append_assoc, List.cons_append]
  simp only [date, year_yearText hyear, bind, Except.bind, mark_cons (c := '-') (by decide),
    bounded_padded (n := month) (by omega) h.month_pos h.month_le (c := '-') (by decide),
    bounded_padded (n := day) (by omega) h.day_pos hlast (c := 'T') (by decide)]
  rfl

theorem timeOfDay_text {hour minute second : Nat} (hhour : hour ≤ 23) (hminute : minute ≤ 59)
    (hsecond : second ≤ 60) :
    timeOfDay (padded 2 hour ++ ':' :: padded 2 minute ++ ':' :: padded 2 second ++ ['Z']) =
      .ok ((hour, minute, second), ['Z']) := by
  simp only [List.append_assoc, List.cons_append]
  simp only [timeOfDay, bind, Except.bind, mark_cons (c := ':') (by decide),
    bounded_padded (n := hour) (by omega) (Nat.zero_le _) hhour (c := ':') (by decide),
    bounded_padded (n := minute) (by omega) (Nat.zero_le _) hminute (c := ':') (by decide),
    bounded_padded (n := second) (by omega) (Nat.zero_le _) hsecond (c := 'Z') (by decide)]
  rfl

/-! ## Timestamps -/

/-- A timestamp that the calendar covers. Only the last second of a minute is followed by a leap
second. -/
structure Valid (t : Timestamp) : Prop where
  first : daysOf firstYear 1 1 * 86400 ≤ t.seconds
  last : t.seconds < daysOf (lastYear + 1) 1 1 * 86400
  leap : t.isLeapSecond = true → t.seconds % 60 = 59

theorem exists_of_bind {α β : Type} {x : Except Fault α} {f : α → Except Fault β} {b : β}
    (h : x >>= f = .ok b) : ∃ a, x = .ok a ∧ f a = .ok b := by
  cases x with
  | error e => cases h
  | ok a => exact ⟨a, rfl, h⟩

/-- An offset is one of whole minutes. -/
theorem offset_mod {s rest : List Char} {o : Int} (h : offset s = .ok (o, rest)) : o % 60 = 0 := by
  unfold offset at h
  split at h
  · cases h
    rfl
  · split at h
    · cases h
    · split at h
      · cases h
        rfl
      · split at h
        · cases h
        · rename_i sign _
          obtain ⟨⟨hours, r⟩, -, h⟩ := exists_of_bind h
          obtain ⟨⟨minutes, r'⟩, -, h⟩ := exists_of_bind h
          simp only at h
          split at h
          · cases h
            have hminutes : (hours * 3600 + minutes * 60 : Int) = 60 * (hours * 60 + minutes) := by
              omega
            rw [hminutes, Int.mul_left_comm, Int.mul_emod_right]
          · cases h

theorem valid_of_ofText {s : String} {t : Timestamp} (h : ofText s = .ok t) : t.Valid := by
  unfold ofText at h
  obtain ⟨⟨⟨year, month, day⟩, r⟩, -, h⟩ := exists_of_bind h
  obtain ⟨r, -, h⟩ := exists_of_bind h
  obtain ⟨⟨⟨hour, minute, second⟩, r⟩, -, h⟩ := exists_of_bind h
  obtain ⟨⟨o, r⟩, ho, h⟩ := exists_of_bind h
  have hminutes := offset_mod ho
  simp only [assemble] at h
  split at h
  · split at h
    · split at h
      · rename_i hrange
        cases h
        refine ⟨hrange.1, hrange.2, fun hleap => ?_⟩
        obtain rfl := of_decide_eq_true hleap
        simp only
        omega
      · cases h
    · cases h
  · cases h

/-- A valid timestamp is read of its text. -/
theorem ofText_text {t : Timestamp} (h : t.Valid) : ofText t.text = .ok t := by
  obtain ⟨days, hdays⟩ : ∃ days, Int.fdiv t.seconds 86400 = days := ⟨_, rfl⟩
  obtain ⟨rest, hrest⟩ : ∃ rest, (t.seconds - days * 86400).toNat = rest := ⟨_, rfl⟩
  obtain ⟨second, hsecond⟩ : ∃ second, rest % 60 + (if t.isLeapSecond then 1 else 0) = second :=
    ⟨_, rfl⟩
  have hseconds : rest < 86400 ∧ t.seconds = days * 86400 + rest := by
    rw [Int.fdiv_eq_ediv_of_nonneg _ (by decide)] at hdays
    omega
  have hlast : second ≤ 60 ∧ min second 59 = rest % 60 ∧
      decide (second = 60) = t.isLeapSecond := by
    have hleap := h.leap
    cases hflag : t.isLeapSecond with
    | false =>
      rw [hflag] at hsecond
      simp only [Bool.false_eq_true, if_false] at hsecond
      simp only [decide_eq_false_iff_not]
      omega
    | true =>
      rw [hflag] at hsecond
      have hfinal := hleap hflag
      simp only [if_true] at hsecond
      simp only [decide_eq_true_eq]
      omega
  cases hdate : dateOf days with
  | mk year monthDay =>
    obtain ⟨month, day⟩ := monthDay
    have hisDate : IsDate year month day := isDate_dateOf hdate
    have hyears : firstYear ≤ year ∧ year ≤ lastYear := by
      have hfirst := h.first
      have hlimit := h.last
      exact year_of_range hdate (by omega) (by omega)
    have hfits : fitsYear year = true := by
      have hpower : Int.pow 2 31 = 2147483648 := rfl
      simp only [fitsYear, hpower, Bool.and_eq_true, decide_eq_true_eq]
      simp only [firstYear, lastYear] at hyears
      omega
    have htext : t.text.toList =
        yearText year ++ '-' :: padded 2 month ++ '-' :: padded 2 day ++
          'T' :: (padded 2 (rest / 3600) ++ ':' :: padded 2 (rest / 60 % 60) ++
            ':' :: padded 2 second ++ ['Z']) := by
      simp only [text, hdays, hrest, hdate, hsecond, String.toList_ofList, List.append_assoc,
        List.cons_append]
    have htime : assemble (year, month, day) (rest / 3600, rest / 60 % 60, second) 0 = .ok t := by
      have hdaysOf := daysOf_dateOf hdate
      have hpoint : daysOf year month day * 86400 + (rest / 3600 : Nat) * 3600 +
          (rest / 60 % 60 : Nat) * 60 + (min second 59 : Nat) - 0 = t.seconds := by
        omega
      have hoffset : Int.natAbs 0 < 86400 := by decide
      simp only [assemble, hyears.1, hyears.2, hisDate.day_le, hoffset, and_true, if_true, hpoint,
        h.first, h.last, hlast.2.2]
    simp only [ofText, htext, date_text hisDate hfits, bind, Except.bind]
    simp only [divider, true_or, if_true]
    rw [timeOfDay_text (by omega) (by omega) hlast.1]
    exact htime

end Timestamp

end FleetExporter
