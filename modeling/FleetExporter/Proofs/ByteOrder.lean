import Mathlib.Data.String.Basic

/-! The order of texts by their octets. A text stands before another by code points exactly when its
octets in UTF-8 stand before those of the other, so either may be said of keys. -/
namespace FleetExporter.Text

/-- The octets of a text in UTF-8. -/
def octets (s : String) : List UInt8 := s.toByteArray.data.toList

theorem octets_eq (s : String) : octets s = s.toList.flatMap String.utf8EncodeChar := by
  rw [octets, ← String.utf8Encode_toList]
  exact List.toList_data_toByteArray

/-- Of two characters the lower has the lower octets, whatever follows them. -/
theorem encoded_lt {c d : Char} (h : c < d) (xs ys : List UInt8) :
    String.utf8EncodeChar c ++ xs < String.utf8EncodeChar d ++ ys := by
  have hlt : c.val.toNat < d.val.toNat := UInt32.lt_iff_toNat_lt.mp (Char.lt_def.mp h)
  have hmax : d.val.toNat < 1114112 := by
    have hvalid := d.valid
    simp only [UInt32.isValidChar, Nat.isValidChar] at hvalid
    omega
  simp only [String.utf8EncodeChar]
  split_ifs
  all_goals simp only [List.cons_append, List.nil_append, List.cons_lt_cons_iff,
    UInt8.lt_iff_toNat_lt, ← UInt8.toNat_inj, UInt8.toNat_ofNat']
  -- the first octet tells how many there are, and decides where the numbers of octets differ
  all_goals try exact Or.inl (by omega)
  · by_cases hrest : xs < ys <;> simp only [hrest, and_true, or_false, and_false] <;> omega
  · by_cases hrest : xs < ys <;> simp only [hrest, and_true, or_false, and_false] <;> omega
  · -- of four octets, two decide unless the code points agree above twelve bits
    rcases Nat.lt_or_ge (c.val.toNat / 4096) (d.val.toNat / 4096) with hblock | hblock <;>
      by_cases hrest : xs < ys <;> simp only [hrest, and_true, or_false, and_false] <;> omega

theorem encodedChars_lt {s t : List Char} (h : s < t) :
    s.flatMap String.utf8EncodeChar < t.flatMap String.utf8EncodeChar := by
  induction s generalizing t with
  | nil =>
    cases t with
    | nil => exact absurd h (List.lt_irrefl [])
    | cons d t =>
      obtain ⟨x, xs, hx⟩ := List.exists_cons_of_ne_nil (String.utf8EncodeChar_ne_nil (c := d))
      rw [List.flatMap_nil, List.flatMap_cons, hx]
      exact List.nil_lt_cons _ _
  | cons c s ih =>
    cases t with
    | nil => exact absurd h (List.not_lt_nil _)
    | cons d t =>
      rw [List.flatMap_cons, List.flatMap_cons]
      rcases List.cons_lt_cons_iff.mp h with hchar | ⟨rfl, hrest⟩
      · exact encoded_lt hchar _ _
      · exact List.append_left_lt (ih hrest)

/-- The order of texts is the order of their octets. -/
theorem lt_iff_octets_lt (s t : String) : s < t ↔ octets s < octets t := by
  have hforth : ∀ {s t : String}, s < t → octets s < octets t := by
    intro s t h
    rw [octets_eq, octets_eq]
    exact encodedChars_lt (String.lt_iff_toList_lt.mp h)
  refine ⟨hforth, fun h => ?_⟩
  rcases lt_trichotomy s t with hlt | rfl | hgt
  · exact hlt
  · exact absurd h (List.lt_irrefl _)
  · exact absurd (hforth hgt) (List.lt_asymm h)

end FleetExporter.Text
