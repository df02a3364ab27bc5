import FleetExporter.Proofs.Quantity.Spelling

/-! Which texts are read as quantities. A text has a value only if it is spelled as a quantity, and
of one that is, the number and the suffix are found as they are spelled, although the suffixes are
tried one kind after the other and share their letters. -/
namespace FleetExporter.Quantity

/-! ## Integers with a sign -/

theorem natural?_eq_some_iff (s : List Char) (n : Nat) : Text.natural? s = some n ↔
    s ≠ [] ∧ (∀ c ∈ s, c.isDigit = true) ∧ Text.digitsValue s = n := by
  simp [Text.natural?, and_assoc]

theorem integer?_of_stops {s : List Char} (h : Stops isSign s) :
    Text.integer? s = (Text.natural? s).map Int.ofNat := by
  unfold Text.integer?
  split
  · exact absurd (h '-' rfl) (by decide)
  · exact absurd (h '+' rfl) (by decide)
  · rfl

theorem integer?_spelled (x : Sign) {digits : List Char} (hdigits : ∀ c ∈ digits, c.isDigit = true)
    (hne : digits ≠ []) :
    Text.integer? (x.chars ++ digits) = some (x.apply (Text.digitsValue digits)) := by
  have hnatural : Text.natural? digits = some (Text.digitsValue digits) :=
    (natural?_eq_some_iff digits _).mpr ⟨hne, hdigits, rfl⟩
  cases x with
  | none =>
    have hstops : Stops isSign digits := by
      simpa using stops_isSign (isNumeral_of_isDigit hdigits) hne []
    rw [Sign.chars, List.nil_append, integer?_of_stops hstops, hnatural]
    rfl
  | plus => simp [Sign.chars, Text.integer?, hnatural, Sign.apply]
  | minus => simp [Sign.chars, Text.integer?, hnatural, Sign.apply]

theorem exists_spelled_of_integer? {s : List Char} {n : Int} (h : Text.integer? s = some n) :
    ∃ (x : Sign) (digits : List Char), s = x.chars ++ digits ∧ digits ≠ [] ∧
      (∀ c ∈ digits, c.isDigit = true) ∧ x.apply (Text.digitsValue digits) = n := by
  unfold Text.integer? at h
  split at h
  · rename_i digits
    cases hdigits : Text.natural? digits with
    | none => simp [hdigits] at h
    | some m =>
      obtain ⟨hne, hall, rfl⟩ := (natural?_eq_some_iff digits m).mp hdigits
      exact ⟨.minus, digits, rfl, hne, hall, by simpa [hdigits, Sign.apply] using h⟩
  · rename_i digits
    obtain ⟨m, hm, rfl⟩ := Option.map_eq_some_iff.mp h
    obtain ⟨hne, hall, rfl⟩ := (natural?_eq_some_iff digits m).mp hm
    exact ⟨.plus, digits, rfl, hne, hall, rfl⟩
  · obtain ⟨m, hm, rfl⟩ := Option.map_eq_some_iff.mp h
    obtain ⟨hne, hall, rfl⟩ := (natural?_eq_some_iff s m).mp hm
    exact ⟨.none, s, rfl, hne, hall, rfl⟩

theorem exponent?_eq_some_iff (s : List Char) (n : Int) :
    exponent? s = some n ↔ Text.integer? s = some n ∧ -2 ^ 31 ≤ n ∧ n < 2 ^ 31 := by
  simp [exponent?, Option.filter_eq_some_iff]

theorem exponent?_spelled (e : Exponent) :
    exponent? (e.sign.chars ++ e.digits) = some e.value :=
  (exponent?_eq_some_iff _ _).mpr
    ⟨integer?_spelled e.sign e.isDigit e.ne_nil, e.le_value, e.value_lt⟩

theorem isExponentMark_iff (c : Char) : isExponentMark c = true ↔ c = 'e' ∨ c = 'E' := by
  simp [isExponentMark]

theorem exists_exponent {c : Char} {s : List Char} {n : Int} (hmark : isExponentMark c = true)
    (h : exponent? s = some n) : ∃ e : Exponent, e.chars = c :: s ∧ e.value = n := by
  obtain ⟨hread, hle, hlt⟩ := (exponent?_eq_some_iff s n).mp h
  obtain ⟨x, digits, rfl, hne, hdigits, rfl⟩ := exists_spelled_of_integer? hread
  exact ⟨⟨c, x, digits, (isExponentMark_iff c).mp hmark, hdigits, hne, hle, hlt⟩, rfl, rfl⟩

/-! ## Suffixes -/

theorem decimalPower?_letter (m : Multiple) : decimalPower? m.letter = some m.power := by
  cases m <;> rfl

theorem decimalPower?_eq_none {c : Char} (h : ∀ m : Multiple, c ≠ m.letter) :
    decimalPower? c = none := by
  unfold decimalPower?
  exact (if_neg (h .nano)).trans <| (if_neg (h .micro)).trans <| (if_neg (h .milli)).trans <|
    (if_neg (h .kilo)).trans <| (if_neg (h .mega)).trans <| (if_neg (h .giga)).trans <|
    (if_neg (h .tera)).trans <| (if_neg (h .peta)).trans <| if_neg (h .exa)

theorem exists_multiple {c : Char} {p : Int} (h : decimalPower? c = some p) :
    ∃ m : Multiple, c = m.letter ∧ m.power = p := by
  by_cases hletter : ∃ m : Multiple, c = m.letter
  · obtain ⟨m, rfl⟩ := hletter
    rw [decimalPower?_letter] at h
    exact ⟨m, rfl, Option.some.inj h⟩
  · rw [decimalPower?_eq_none fun m hm => hletter ⟨m, hm⟩] at h
    cases h

theorem binaryPower?_letter (m : BinaryMultiple) : binaryPower? m.letter = some m.power := by
  cases m <;> rfl

theorem binaryPower?_eq_none {c : Char} (h : ∀ m : BinaryMultiple, c ≠ m.letter) :
    binaryPower? c = none := by
  unfold binaryPower?
  exact (if_neg (h .kibi)).trans <| (if_neg (h .mebi)).trans <| (if_neg (h .gibi)).trans <|
    (if_neg (h .tebi)).trans <| (if_neg (h .pebi)).trans <| if_neg (h .exbi)

theorem exists_binaryMultiple {c : Char} {p : Nat} (h : binaryPower? c = some p) :
    ∃ m : BinaryMultiple, c = m.letter ∧ m.power = p := by
  by_cases hletter : ∃ m : BinaryMultiple, c = m.letter
  · obtain ⟨m, rfl⟩ := hletter
    rw [binaryPower?_letter] at h
    exact ⟨m, rfl, Option.some.inj h⟩
  · rw [binaryPower?_eq_none fun m hm => hletter ⟨m, hm⟩] at h
    cases h

theorem exists_suffix_of_splitLetter? {s n : List Char} {x : Scale}
    (h : splitLetter? s = some (n, x)) : ∃ y : Suffix, s = n ++ y.chars ∧ y.scale = x := by
  unfold splitLetter? at h
  split at h
  · cases h
  · rename_i c hlast
    split at h
    · rename_i p hp
      obtain ⟨m, rfl, rfl⟩ := exists_multiple hp
      cases h
      refine ⟨.decimal m, ?_, rfl⟩
      exact (List.dropLast_append_getLast? _ hlast).symm
    · cases h
      exact ⟨.plain, by simp [Suffix.chars], rfl⟩

theorem exists_suffix_of_splitDecimal? {s n : List Char} {x : Scale}
    (h : splitDecimal? s = some (n, x)) : ∃ y : Suffix, s = n ++ y.chars ∧ y.scale = x := by
  unfold splitDecimal? at h
  split at h
  · rename_i mark c r hrest
    obtain ⟨e, he, heq⟩ := Option.map_eq_some_iff.mp h
    cases heq
    have hmark : isExponentMark mark = true := by
      have hhead := Text.head_dropWhile (!isExponentMark ·) s mark (by rw [hrest]; rfl)
      simpa using hhead
    obtain ⟨y, hy, rfl⟩ := exists_exponent hmark he
    refine ⟨.exponent y, ?_, rfl⟩
    rw [Suffix.chars, hy, ← hrest, List.takeWhile_append_dropWhile]
  · exact exists_suffix_of_splitLetter? h

/-- What is split off a text is a suffix, and stands for its scale. -/
theorem exists_suffix_of_split? {s n : List Char} {x : Scale} (h : split? s = some (n, x)) :
    ∃ y : Suffix, s = n ++ y.chars ∧ y.scale = x := by
  unfold split? at h
  split at h
  · rename_i c r hrev
    split at h
    · rename_i p hp
      obtain ⟨m, rfl, rfl⟩ := exists_binaryMultiple hp
      cases h
      refine ⟨.binary m, ?_, rfl⟩
      have hs := congrArg List.reverse hrev
      simpa [Suffix.chars] using hs
    · exact exists_suffix_of_splitDecimal? h
  · exact exists_suffix_of_splitDecimal? h

/-! ### What is spelled -/

theorem isExponentMark_of_isNumeral {c : Char} (h : isSign c = true ∨ isNumeral c = true) :
    isExponentMark c = false := by
  by_contra hmark
  rw [Bool.not_eq_false, isExponentMark_iff] at hmark
  rcases hmark with rfl | rfl <;> exact absurd h (by decide)

theorem ne_letter_of_isNumeral {c : Char} (h : isNumeral c = true) (m : Multiple) :
    c ≠ m.letter := by
  rintro rfl
  cases m <;> exact absurd h (by decide)

/-- A text without a mark in it, or with nothing behind one, has no exponent. -/
theorem splitDecimal?_of_short {n t : List Char} (hn : ∀ c ∈ n, isExponentMark c = false)
    (ht : t.length ≤ 1) : splitDecimal? (n ++ t) = splitLetter? (n ++ t) := by
  have hrest : (n ++ t).dropWhile (!isExponentMark ·) = t.dropWhile (!isExponentMark ·) :=
    List.dropWhile_append_of_pos fun c hc => by simp [hn c hc]
  unfold splitDecimal?
  rw [hrest]
  split
  · rename_i mark c r hlong
    have hle := (List.dropWhile_sublist (!isExponentMark ·) (l := t)).length_le
    rw [hlong] at hle
    simp only [List.length_cons] at hle
    omega
  · rfl

theorem splitDecimal?_exponent {n : List Char} (hn : ∀ c ∈ n, isExponentMark c = false)
    (e : Exponent) : splitDecimal? (n ++ e.chars) = some (n, ⟨e.value, 0⟩) := by
  have hmark : (!isExponentMark e.mark) = false := by
    rw [(isExponentMark_iff _).mpr e.marked]
    rfl
  have hclear : ∀ c ∈ n, (!isExponentMark c) = true := fun c hc => by simp [hn c hc]
  have hrest : (n ++ e.chars).dropWhile (!isExponentMark ·) = e.chars := by
    rw [List.dropWhile_append_of_pos hclear, Exponent.chars, List.dropWhile_cons_of_neg]
    simp [hmark]
  have hbefore : (n ++ e.chars).takeWhile (!isExponentMark ·) = n := by
    rw [List.takeWhile_append_of_pos hclear, Exponent.chars, List.takeWhile_cons_of_neg]
    · simp
    · simp [hmark]
  have hread := exponent?_spelled e
  unfold splitDecimal?
  rw [hrest, hbefore]
  cases hspelled : e.sign.chars ++ e.digits with
  | nil => exact absurd (List.append_eq_nil_iff.mp hspelled).2 e.ne_nil
  | cons c r =>
    rw [hspelled] at hread
    simp only [Exponent.chars, hspelled, hread, Option.map_some]

theorem split?_of_getLast {s : List Char} (h : s.getLast? ≠ some 'i') :
    split? s = splitDecimal? s := by
  unfold split?
  split
  · rename_i c r hrev
    rw [List.getLast?_eq_head?_reverse, hrev] at h
    exact absurd rfl h
  · rfl

/-- Of digits and signs before a suffix, the suffix is split off and nothing else. -/
theorem split?_spelled {n : List Char} (hn : ∀ c ∈ n, isSign c = true ∨ isNumeral c = true)
    (hlast : ∀ c, n.getLast? = some c → isNumeral c = true) (hne : n ≠ []) (x : Suffix) :
    split? (n ++ x.chars) = some (n, x.scale) := by
  have hclear : ∀ c ∈ n, isExponentMark c = false := fun c hc =>
    isExponentMark_of_isNumeral (hn c hc)
  cases x with
  | plain =>
    obtain ⟨c, hc⟩ : ∃ c, n.getLast? = some c := ⟨_, List.getLast?_eq_some_getLast hne⟩
    have hnumeral := hlast c hc
    have hi : c ≠ 'i' := by
      rintro rfl
      exact absurd hnumeral (by decide)
    rw [Suffix.chars, List.append_nil, split?_of_getLast (by simpa [hc] using hi)]
    have hshort := splitDecimal?_of_short hclear (t := []) (by simp)
    rw [List.append_nil] at hshort
    rw [hshort, splitLetter?, hc]
    simp only [decimalPower?_eq_none (ne_letter_of_isNumeral hnumeral)]
    rfl
  | decimal m =>
    have hi : m.letter ≠ 'i' := by cases m <;> decide
    rw [split?_of_getLast (by simpa [Suffix.chars] using hi),
      splitDecimal?_of_short hclear (by simp [Suffix.chars])]
    simp [splitLetter?, Suffix.chars, decimalPower?_letter, Suffix.scale]
  | binary m =>
    have hrev : (n ++ (Suffix.binary m).chars).reverse = 'i' :: m.letter :: n.reverse := by
      simp [Suffix.chars]
    simp only [split?, hrev, binaryPower?_letter, List.reverse_reverse, Suffix.scale]
  | exponent e =>
    have hends : n ++ e.chars = (n ++ e.mark :: e.sign.chars) ++ e.digits := by
      simp [Exponent.chars]
    rw [Suffix.chars, split?_of_getLast, splitDecimal?_exponent hclear, Suffix.scale]
    intro hi
    rw [hends, List.getLast?_append_of_ne_nil _ e.ne_nil] at hi
    exact absurd (e.isDigit 'i' (List.mem_of_getLast? hi)) (by decide)

/-! ## Numbers -/

/-- A point divides a text into what stands before it and what stands behind it. -/
theorem divide_at_point {whole : List Char} (h : '.' ∉ whole) (fraction : Option (List Char)) :
    (whole ++ fraction.elim [] ('.' :: ·)).takeWhile (· ≠ '.') = whole ∧
      ((whole ++ fraction.elim [] ('.' :: ·)).dropWhile (· ≠ '.')).drop 1 = fraction.getD [] := by
  have hclear : ∀ c ∈ whole, decide (c ≠ '.') = true := by
    intro c hc
    rw [decide_eq_true_eq]
    rintro rfl
    exact h hc
  rw [List.takeWhile_append_of_pos hclear, List.dropWhile_append_of_pos hclear]
  cases fraction <;> simp

theorem exists_divided (s : List Char) : ∃ (whole : List Char) (fraction : Option (List Char)),
    '.' ∉ whole ∧ s = whole ++ fraction.elim [] ('.' :: ·) := by
  induction s with
  | nil => exact ⟨[], none, by simp, rfl⟩
  | cons c s ih =>
    by_cases hc : c = '.'
    · exact ⟨[], some s, by simp, by simp [hc]⟩
    · obtain ⟨whole, fraction, hwhole, hs⟩ := ih
      exact ⟨c :: whole, fraction, by simp [hwhole, Ne.symm hc], by rw [hs, List.cons_append]⟩

theorem magnitude?_eq_some_iff (negative : Bool) (s : List Char) (m : Number) :
    magnitude? negative s = some m ↔
      ∃ n : Numeral, n.chars = s ∧ m = ⟨negative, n.whole, n.decimals⟩ := by
  constructor
  · intro h
    obtain ⟨whole, fraction, hpoint, rfl⟩ := exists_divided s
    obtain ⟨hbefore, hbehind⟩ := divide_at_point hpoint fraction
    simp only [magnitude?, hbefore, hbehind] at h
    split at h
    · cases h
    · rename_i hform
      simp only [Bool.not_eq_true', not_or, not_and, Bool.not_eq_false, List.all_eq_true] at hform
      obtain ⟨hne, hwhole, hfraction⟩ := hform
      refine ⟨⟨whole, fraction, ?_, ?_⟩, rfl, (Option.some.inj h).symm⟩
      · exact fun c hc => (List.mem_append.mp hc).elim (hwhole c) (hfraction c)
      · exact fun hnil => hne (List.append_eq_nil_iff.mp hnil).1 (List.append_eq_nil_iff.mp hnil).2
  · rintro ⟨n, rfl, rfl⟩
    have hwhole : ∀ c ∈ n.whole, c.isDigit = true := fun c hc =>
      n.isDigit c (List.mem_append_left _ hc)
    have hdecimals : ∀ c ∈ n.decimals, c.isDigit = true := fun c hc =>
      n.isDigit c (List.mem_append_right _ hc)
    have hpoint : '.' ∉ n.whole := fun hc => absurd (hwhole '.' hc) (by decide)
    obtain ⟨hbefore, hbehind⟩ := divide_at_point hpoint n.fraction
    simp only [magnitude?, Numeral.chars, hbefore, hbehind]
    rw [if_neg]
    · rfl
    · simp only [Bool.not_eq_true', not_or, not_and, Bool.not_eq_false, List.all_eq_true]
      exact ⟨fun h h' => n.ne_nil (by rw [h, h']; rfl), hwhole, hdecimals⟩

theorem number?_spelled (x : Sign) (n : Numeral) :
    number? (x.chars ++ n.chars) = some ⟨x = .minus, n.whole, n.decimals⟩ := by
  have hread : ∀ negative, magnitude? negative n.chars = some ⟨negative, n.whole, n.decimals⟩ :=
    fun negative => (magnitude?_eq_some_iff _ _ _).mpr ⟨n, rfl, rfl⟩
  cases x with
  | none =>
    have hstops : Stops isSign n.chars := by
      simpa using stops_isSign n.isNumeral_of_mem n.chars_ne_nil []
    rw [Sign.chars, List.nil_append]
    unfold number?
    split
    · rename_i s hs
      exact absurd (hstops '-' (by rw [hs]; rfl)) (by decide)
    · rename_i s hs
      exact absurd (hstops '+' (by rw [hs]; rfl)) (by decide)
    · exact hread false
  | plus => exact hread false
  | minus => exact hread true

theorem exists_sign_numeral {s : List Char} {m : Number} (h : number? s = some m) :
    ∃ (x : Sign) (n : Numeral), s = x.chars ++ n.chars ∧
      m = ⟨x = .minus, n.whole, n.decimals⟩ := by
  unfold number? at h
  split at h
  · obtain ⟨n, rfl, rfl⟩ := (magnitude?_eq_some_iff _ _ _).mp h
    exact ⟨.minus, n, rfl, rfl⟩
  · obtain ⟨n, rfl, rfl⟩ := (magnitude?_eq_some_iff _ _ _).mp h
    exact ⟨.plus, n, rfl, rfl⟩
  · obtain ⟨n, rfl, rfl⟩ := (magnitude?_eq_some_iff _ _ _).mp h
    exact ⟨.none, n, rfl, rfl⟩

/-! ## Quantities -/

/-- The number and the suffix of a quantity are found as they are spelled. -/
theorem Spelling.split?_chars (q : Spelling) :
    split? q.chars = some (q.sign.chars ++ q.numeral.chars, q.suffix.scale) := by
  rw [Spelling.chars, ← List.append_assoc]
  refine split?_spelled ?_ ?_ ?_ q.suffix
  · exact fun c hc => (List.mem_append.mp hc).imp (q.sign.isSign_of_mem c)
      (q.numeral.isNumeral_of_mem c)
  · intro c hc
    rw [List.getLast?_append_of_ne_nil _ q.numeral.chars_ne_nil] at hc
    exact q.numeral.isNumeral_of_mem c (List.mem_of_getLast? hc)
  · exact fun hnil => q.numeral.chars_ne_nil (List.append_eq_nil_iff.mp hnil).2

/-- What is read of a text that is spelled as a quantity. -/
theorem value_spelled {s : String} {q : Spelling} (h : q.chars = Text.trimmed s.toList) :
    value s = if q.sign = .minus then .ok 0
      else evaluate q.numeral.whole q.numeral.decimals q.suffix.scale := by
  simp only [value, ← h, q.split?_chars, number?_spelled, decide_eq_true_eq]

/-- Parts that are read of a text are those of a quantity that is spelled by it. -/
theorem exists_spelling_of_parts {s numeral : List Char} {scale : Scale} {m : Number}
    (hsplit : split? s = some (numeral, scale)) (hnumber : number? numeral = some m) :
    ∃ q : Spelling, q.chars = s := by
  obtain ⟨x, hs, -⟩ := exists_suffix_of_split? hsplit
  obtain ⟨sign, n, rfl, -⟩ := exists_sign_numeral hnumber
  exact ⟨⟨sign, n, x⟩, by rw [hs, Spelling.chars, List.append_assoc]⟩

/-- A text that is not spelled as a quantity is malformed. -/
theorem exists_spelling {s : String} (h : value s ≠ .error .malformed) :
    ∃ q : Spelling, q.chars = Text.trimmed s.toList := by
  unfold value at h
  split at h
  · exact absurd rfl h
  · rename_i hsplit
    split at h
    · exact absurd rfl h
    · rename_i hnumber
      exact exists_spelling_of_parts hsplit hnumber

end FleetExporter.Quantity
