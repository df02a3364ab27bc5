/-! White space in the sense of the Unicode property of that name (25 characters), and trimming.
The lemmas say that trimming leaves no blank at either end and changes nothing when there is
none to remove. -/
namespace FleetExporter.Text

/-- Membership in a list of closed ranges of code points. -/
def inRanges (ranges : List (Nat × Nat)) (n : Nat) : Bool :=
  ranges.any fun r => r.1 ≤ n && n ≤ r.2

def blankRanges : List (Nat × Nat) :=
  [(0x09, 0x0d), (0x20, 0x20), (0x85, 0x85), (0xa0, 0xa0), (0x1680, 0x1680), (0x2000, 0x200a),
   (0x2028, 0x2029), (0x202f, 0x202f), (0x205f, 0x205f), (0x3000, 0x3000)]

def isBlank (c : Char) : Bool := inRanges blankRanges c.toNat

/-- The characters from the first to the last that is not blank. -/
def trimmed (s : List Char) : List Char :=
  ((s.dropWhile isBlank).reverse.dropWhile isBlank).reverse

def trim (s : String) : String := String.ofList (trimmed s.toList)

theorem dropWhile_eq_self_of_head (p : Char → Bool) (s : List Char)
    (h : ∀ c, s.head? = some c → p c = false) : s.dropWhile p = s := by
  cases s with
  | nil => rfl
  | cons c s => simp [h c rfl]

theorem head_dropWhile (p : Char → Bool) (s : List Char) (c : Char)
    (h : (s.dropWhile p).head? = some c) : p c = false := by
  induction s with
  | nil => simp at h
  | cons d s ih =>
    cases hd : p d with
    | true => exact ih (by simpa [hd] using h)
    | false =>
      simp only [List.dropWhile_cons, hd, Bool.false_eq_true, if_false, List.head?_cons,
        Option.some.injEq] at h
      exact h ▸ hd

theorem getLast_dropWhile (p : Char → Bool) (s : List Char) (c : Char)
    (h : (s.dropWhile p).getLast? = some c) : s.getLast? = some c := by
  induction s with
  | nil => simp at h
  | cons d s ih =>
    cases hd : p d with
    | true =>
      have h' := ih (by simpa [hd] using h)
      cases s with
      | nil => simp at h'
      | cons e s => simpa [List.getLast?_cons_cons] using h'
    | false => simpa [hd] using h

theorem head_trimmed (s : List Char) (c : Char) (h : (trimmed s).head? = some c) :
    isBlank c = false := by
  rw [trimmed, List.head?_reverse] at h
  have h' := getLast_dropWhile _ _ _ h
  rw [List.getLast?_reverse] at h'
  exact head_dropWhile _ _ _ h'

theorem getLast_trimmed (s : List Char) (c : Char) (h : (trimmed s).getLast? = some c) :
    isBlank c = false := by
  rw [trimmed, List.getLast?_reverse] at h
  exact head_dropWhile _ _ _ h

theorem trimmed_eq_self (s : List Char) (hh : ∀ c, s.head? = some c → isBlank c = false)
    (hl : ∀ c, s.getLast? = some c → isBlank c = false) : trimmed s = s := by
  rw [trimmed, dropWhile_eq_self_of_head _ s hh,
    dropWhile_eq_self_of_head _ s.reverse (by simpa using hl), List.reverse_reverse]

theorem trimmed_trimmed (s : List Char) : trimmed (trimmed s) = trimmed s :=
  trimmed_eq_self _ (head_trimmed s) (getLast_trimmed s)

end FleetExporter.Text
