import FleetExporter.Exposition.Reader
import FleetExporter.Proofs.Scrape
import FleetExporter.Proofs.Series
import Mathlib.Data.List.Forall2
import Mathlib.Data.List.TakeWhile

/-! What an exposition tells whoever reads it. Of a family with proper names each sample is read
back from its line, whatever its label values hold, so the text of records tells the records. -/
namespace FleetExporter

/-! ## The text of numbers -/

namespace Binary64

/-- Characters of numbers, and of the names of those that are none. -/
def isTextChar (c : Char) : Bool := c.isAlphanum || c = '.' || c = '-'

theorem isTextChar_of_mem_digitChars {c : Char} {n : Nat} (h : c ∈ digitChars n) :
    isTextChar c = true := by
  have hdigit : c.isDigit = true := Nat.isDigit_of_mem_toDigits (by decide) (by decide) h
  simp [isTextChar, Char.isAlphanum, hdigit]

theorem isTextChar_of_mem_positional {c : Char} {d : Decimal} (h : c ∈ positional d) :
    isTextChar c = true := by
  have hzero : isTextChar '0' = true := by decide
  have hpoint : isTextChar '.' = true := by decide
  have hdigits : ∀ c ∈ digitChars d.digits, isTextChar c = true :=
    fun c hc => isTextChar_of_mem_digitChars hc
  simp only [positional] at h
  split at h
  · rcases List.mem_append.mp h with hc | hc
    · exact hdigits c hc
    · exact List.eq_of_mem_replicate hc ▸ hzero
  · split at h
    · rcases List.mem_append.mp h with hc | hc
      · exact hdigits c (List.mem_of_mem_take hc)
      · rcases List.mem_cons.mp hc with rfl | hc
        · exact hpoint
        · exact hdigits c (List.mem_of_mem_drop hc)
    · simp only [List.mem_append, List.mem_cons, List.not_mem_nil, or_false] at h
      rcases h with ((rfl | rfl) | hc) | hc
      · exact hzero
      · exact hpoint
      · exact List.eq_of_mem_replicate hc ▸ hzero
      · exact hdigits c hc

theorem positional_ne_nil (d : Decimal) : positional d ≠ [] := by
  have hdigits : digitChars d.digits ≠ [] := Nat.toDigits_ne_nil
  simp only [positional]
  split
  · simp [hdigits]
  · split <;> simp

/-- A number has a text, in which there are no gaps and no ends of lines. -/
theorem plainText_spec (x : Binary64) :
    x.plainText.toList ≠ [] ∧ ∀ c ∈ x.plainText.toList, isTextChar c = true := by
  cases x with
  | nan => exact ⟨by decide, List.all_eq_true.mp (by decide)⟩
  | infinite negative =>
    cases negative <;> exact ⟨by decide, List.all_eq_true.mp (by decide)⟩
  | finite negative m e =>
    have hbody : ∀ c ∈ if m = 0 then ['0'] else positional (shortest .upward m e),
        isTextChar c = true := by
      intro c hc
      split at hc
      · obtain rfl := List.mem_singleton.mp hc
        decide
      · exact isTextChar_of_mem_positional hc
    have hsome : (if m = 0 then ['0'] else positional (shortest .upward m e)) ≠ [] := by
      split
      · exact List.cons_ne_nil _ _
      · exact positional_ne_nil _
    simp only [plainText, String.toList_ofList]
    cases negative with
    | false => exact ⟨hsome, hbody⟩
    | true =>
      refine ⟨List.cons_ne_nil _ _, fun c hc => ?_⟩
      rcases List.mem_cons.mp hc with rfl | hc
      · decide
      · exact hbody c hc

end Binary64

namespace Exposition

/-! ## Quoted values -/

theorem readQuoted_cons {c : Char} (hquote : c ≠ '"') (hslash : c ≠ '\\') (r : List Char) :
    readQuoted (c :: r) = (readQuoted r).map fun p => (c :: p.1, p.2) := by
  rw [readQuoted]
  · exact hquote
  · exact fun h _ => hslash h
  · exact fun _ _ h _ => hslash h

/-- A label value is read back from its escaped text, up to the quote that ends it. -/
theorem readQuoted_valueChars (v rest : List Char) :
    readQuoted (v.flatMap valueChar ++ '"' :: rest) = some (v, rest) := by
  induction v with
  | nil => rfl
  | cons c v ih =>
    rw [List.flatMap_cons, List.append_assoc]
    by_cases hquote : c = '"'
    · subst hquote
      simp [valueChar, readQuoted, unescaped?, ih]
    by_cases hslash : c = '\\'
    · subst hslash
      simp [valueChar, helpChar, readQuoted, unescaped?, ih]
    by_cases hend : c = '\n'
    · subst hend
      simp [valueChar, helpChar, readQuoted, unescaped?, ih]
    have hplain : valueChar c = [c] := by simp [valueChar, helpChar, hquote, hslash, hend]
    rw [hplain, List.singleton_append, readQuoted_cons hquote hslash, ih]
    rfl

/-! ## Names and labels -/

/-- A name is read up to the first character that is not of names. -/
theorem readName_append {colons : Bool} {name : List Char} (hname : isName colons name = true)
    {c : Char} (hc : isNameChar colons c = false) (r : List Char) :
    readName colons (name ++ c :: r) = some (String.ofList name, c :: r) := by
  have hall : ∀ x ∈ name, isNameChar colons x = true :=
    List.all_eq_true.mp (Bool.and_eq_true_iff.mp hname).1
  simp [readName, List.takeWhile_append_of_pos hall, List.dropWhile_append_of_pos hall, hc, hname]

theorem readLabel_labelText {label : String × String} (h : isName false label.1.toList = true)
    (r : List Char) : readLabel (labelText label ++ r) = some (label, r) := by
  have htext : labelText label ++ r =
      label.1.toList ++ '=' :: '"' :: (label.2.toList.flatMap valueChar ++ '"' :: r) := by
    simp [labelText, escaped]
  rw [htext, readLabel, readName_append h (by decide)]
  simp [skipGap, isGap, readQuoted_valueChars]

theorem not_isGap_of_isNameChar {colons : Bool} {c : Char} (h : isNameChar colons c = true) :
    isGap c = false := by
  by_contra hgap
  rw [Bool.not_eq_false, isGap, Bool.or_eq_true, decide_eq_true_eq, decide_eq_true_eq] at hgap
  rcases hgap with rfl | rfl <;> cases colons <;> revert h <;> decide

/-- A name has a first character, which is one of names. -/
theorem exists_cons_of_isName {colons : Bool} {name : List Char} (h : isName colons name = true) :
    ∃ c r, name = c :: r ∧ isNameChar colons c = true := by
  cases name with
  | nil => cases h
  | cons c r =>
    have hall := List.all_eq_true.mp (Bool.and_eq_true_iff.mp h).1
    exact ⟨c, r, rfl, hall c List.mem_cons_self⟩

theorem skipGap_name {colons : Bool} {name : List Char} (h : isName colons name = true)
    (r : List Char) : skipGap (name ++ r) = name ++ r := by
  obtain ⟨c, r', rfl, hc⟩ := exists_cons_of_isName h
  exact List.dropWhile_cons_of_neg (by simp [not_isGap_of_isNameChar hc])

theorem readLabels_eq {s rest : List Char} {label : String × String} (hstart : skipGap s = s)
    (hbrace : ∀ r, s ≠ '\x7d' :: r) (h : readLabel s = some (label, rest)) :
    readLabels s =
      match skipGap rest with
      | '\x7d' :: r => some ([label], r)
      | ',' :: more => (readLabels more).map fun p => (label :: p.1, p.2)
      | _ => none := by
  rw [readLabels, hstart]
  split
  · exact absurd rfl (hbrace _)
  · split
    · rename_i hnone
      rw [h] at hnone
      cases hnone
    · rename_i label' rest' hsome
      rw [h] at hsome
      cases hsome
      split <;> simp_all

/-- The labels of a sample are read back one by one. -/
theorem readLabels_intercalate {labels : List (String × String)} (hne : labels ≠ [])
    (h : ∀ label ∈ labels, isName false label.1.toList = true) (r : List Char) :
    readLabels ([','].intercalate (labels.map labelText) ++ '\x7d' :: r) = some (labels, r) := by
  have hstart : ∀ label : String × String, isName false label.1.toList = true → ∀ t,
      skipGap (labelText label ++ t) = labelText label ++ t ∧
        ∀ r, labelText label ++ t ≠ '\x7d' :: r := by
    intro label hlabel t
    have htext : labelText label ++ t =
        label.1.toList ++ ('=' :: '"' :: escaped valueChar label.2 ++ ['"'] ++ t) := by
      simp [labelText]
    rw [htext]
    refine ⟨skipGap_name hlabel _, fun r heq => ?_⟩
    obtain ⟨c, name, hname, hc⟩ := exists_cons_of_isName hlabel
    rw [hname, List.cons_append] at heq
    rw [(List.cons_eq_cons.mp heq).1] at hc
    exact absurd hc (by decide)
  induction labels with
  | nil => exact absurd rfl hne
  | cons label rest ih =>
    obtain ⟨hlabel, hrest⟩ := List.forall_mem_cons.mp h
    cases rest with
    | nil =>
      obtain ⟨hskip, hbrace⟩ := hstart label hlabel ('\x7d' :: r)
      rw [List.map_singleton, List.intercalate_singleton,
        readLabels_eq hskip hbrace (readLabel_labelText hlabel _)]
      rfl
    | cons next rest =>
      have ih := ih (List.cons_ne_nil next rest) hrest
      rw [List.map_cons, List.map_cons, List.intercalate_cons_cons, List.append_assoc,
        List.append_assoc]
      obtain ⟨hskip, hbrace⟩ := hstart label hlabel
        ([','] ++ ([','].intercalate (labelText next :: rest.map labelText) ++ '\x7d' :: r))
      rw [readLabels_eq hskip hbrace (readLabel_labelText hlabel _)]
      rw [List.map_cons] at ih
      simp [skipGap, isGap, ih]

/-! ## Samples -/

theorem not_isGap_of_isTextChar {c : Char} (h : Binary64.isTextChar c = true) :
    isGap c = false := by
  by_contra hgap
  rw [Bool.not_eq_false, isGap, Bool.or_eq_true, decide_eq_true_eq, decide_eq_true_eq] at hgap
  rcases hgap with rfl | rfl <;> revert h <;> decide

/-- A number at the end of a line is its value. -/
theorem readValue_plainText (x : Binary64) :
    readValue x.plainText.toList = some (x.plainText, none) := by
  obtain ⟨hne, hchars⟩ := x.plainText_spec
  have hword : ∀ c ∈ x.plainText.toList, (!isGap c) = true := by
    intro c hc
    rw [not_isGap_of_isTextChar (hchars c hc)]
    rfl
  have htake : x.plainText.toList.takeWhile (!isGap ·) = x.plainText.toList :=
    List.takeWhile_eq_self_iff.mpr hword
  have hdrop : x.plainText.toList.dropWhile (!isGap ·) = [] := List.dropWhile_eq_nil_iff.mpr hword
  have hread : readWord x.plainText.toList = some (x.plainText, []) := by
    unfold readWord
    rw [htake, hdrop]
    split
    · rename_i hnil
      exact absurd hnil hne
    · rw [String.ofList_toList]
      rfl
  rw [readValue, hread]

theorem skipGap_plainText (x : Binary64) :
    skipGap (' ' :: x.plainText.toList) = x.plainText.toList := by
  obtain ⟨hne, hchars⟩ := x.plainText_spec
  obtain ⟨c, r, hcons⟩ := List.exists_cons_of_ne_nil hne
  have hc : isGap c = false := not_isGap_of_isTextChar (hchars c (by simp [hcons]))
  rw [hcons, skipGap, List.dropWhile_cons_of_pos (by decide),
    List.dropWhile_cons_of_neg (by simp [hc])]

/-- Names that a reader takes for names, of a family and of the labels of its samples. -/
structure Legible (f : Family) : Prop where
  name : isName true f.descriptor.name.toList = true
  keys : ∀ x ∈ f.samples, ∀ key ∈ x.keys, isName false key.toList = true

/-- What is read in the line of a sample. -/
def sampleRead (name : String) (x : Sample) : Line := .sample name x.labels x.value.plainText none

theorem readSample_body {name : String} {x : Sample} (hname : isName true name.toList = true)
    (hkeys : ∀ key ∈ x.keys, isName false key.toList = true) :
    readSample (name.toList ++ labelsText x.labels ++ ' ' :: x.value.plainText.toList) =
      some (sampleRead name x) := by
  obtain ⟨labels, value⟩ := x
  rw [readSample, List.append_assoc]
  cases labels with
  | nil =>
    -- no number opens a brace, so that what follows the name is no list of labels
    have hbrace : ∀ r, value.plainText.toList ≠ '\x7b' :: r := by
      intro r heq
      have hchar := value.plainText_spec.2 '\x7b' (by simp [heq])
      exact absurd hchar (by decide)
    rw [labelsText, List.nil_append, readName_append hname (by decide)]
    simp only [skipGap_plainText]
    rw [readValue_plainText, Option.map_some, String.ofList_toList]
    rfl
  | cons label rest =>
    have hlabels : ∀ l ∈ label :: rest, isName false l.1.toList = true :=
      fun l hl => hkeys l.1 (List.mem_map_of_mem hl)
    have htext : labelsText (label :: rest) ++ ' ' :: value.plainText.toList =
        '\x7b' :: ([','].intercalate ((label :: rest).map labelText) ++
          '\x7d' :: ' ' :: value.plainText.toList) := by
      simp [labelsText]
    have hskip : ∀ r, skipGap ('\x7b' :: r) = '\x7b' :: r := fun r => rfl
    rw [htext, readName_append hname (by decide)]
    simp only [hskip, readLabels_intercalate (List.cons_ne_nil label rest) hlabels,
      skipGap_plainText, readValue_plainText, Option.map_some, String.ofList_toList]
    rfl

theorem readLine_body {name : String} {x : Sample} (hname : isName true name.toList = true)
    (hkeys : ∀ key ∈ x.keys, isName false key.toList = true) :
    readLine (name.toList ++ labelsText x.labels ++ ' ' :: x.value.plainText.toList) =
      some (sampleRead name x) := by
  rw [← readSample_body hname hkeys, readLine, List.append_assoc, skipGap_name hname]
  obtain ⟨c, r, hcons, hc⟩ := exists_cons_of_isName hname
  rw [hcons, List.cons_append]
  split
  · rename_i heq
    cases heq
  · rename_i heq
    rw [(List.cons_eq_cons.mp heq).1] at hc
    exact absurd hc (by decide)
  · rfl

/-! ## Lines -/

theorem splitLines_append {l : List Char} (h : '\n' ∉ l) (rest : List Char) :
    splitLines (l ++ '\n' :: rest) = (splitLines rest).map (l :: ·) := by
  induction l with
  | nil => rfl
  | cons c l ih =>
    have hc : c ≠ '\n' := fun heq => h (heq ▸ List.mem_cons_self)
    have hl : '\n' ∉ l := fun hmem => h (List.mem_cons_of_mem c hmem)
    rw [List.cons_append, splitLines, ih hl]
    · cases splitLines rest <;> rfl
    · exact hc

/-- A line of a text, and what is read in it. -/
structure Tells (l : List Char) (line : Line) : Prop where
  isLine : IsLine l
  readLine_eq : readLine l.dropLast = some line

/-- A text of lines is read line by line. -/
theorem readLines_flatten {lines : List (List Char)} {read : List Line}
    (h : List.Forall₂ Tells lines read) :
    (splitLines lines.flatten).bind readLines = some read := by
  induction h with
  | nil => rfl
  | cons hline _ ih =>
    obtain ⟨⟨t, rfl, ht⟩, hread⟩ := hline
    rw [List.dropLast_concat] at hread
    obtain ⟨ls, hls, hrest⟩ := Option.bind_eq_some_iff.mp ih
    rw [List.flatten_cons, List.append_assoc, List.singleton_append, splitLines_append ht, hls]
    simp only [Option.map_some, Option.bind_some, readLines, hread, hrest]

theorem lineEnd_not_mem_name {colons : Bool} {name : List Char} (h : isName colons name = true) :
    '\n' ∉ name := by
  intro hmem
  have hchar := List.all_eq_true.mp (Bool.and_eq_true_iff.mp h).1 _ hmem
  cases colons <;> revert hchar <;> decide

theorem lineEnd_not_mem_plainText (x : Binary64) : '\n' ∉ x.plainText.toList := by
  intro hmem
  exact absurd (x.plainText_spec.2 _ hmem) (by decide)

theorem tells_sampleLine {name : String} {x : Sample} (hname : isName true name.toList = true)
    (hkeys : ∀ key ∈ x.keys, isName false key.toList = true) :
    Tells (sampleLine name x) (sampleRead name x) where
  isLine := isLine_sampleLine (lineEnd_not_mem_name hname)
    (fun key hkey => lineEnd_not_mem_name (hkeys key hkey)) (lineEnd_not_mem_plainText _)
  readLine_eq := by
    rw [sampleLine, List.dropLast_concat]
    exact readLine_body hname hkeys

/-- A line that begins with a number sign is a comment. -/
theorem tells_comment {t : List Char} (h : '\n' ∉ t) :
    Tells ('#' :: t ++ ['\n']) (.comment (String.ofList ('#' :: t))) where
  isLine := ⟨'#' :: t, rfl, by simpa using h⟩
  readLine_eq := by
    rw [List.dropLast_concat]
    rfl

/-! ## Families -/

theorem lineEnd_not_mem_help (s : String) : '\n' ∉ escaped helpChar s := by
  have hchar : ∀ c, '\n' ∉ helpChar c := by
    intro c
    unfold helpChar
    split
    · simp
    · split
      · simp
      · rename_i hc
        simpa using Ne.symm hc
  simp [escaped, hchar]

/-- The comments before the samples of a family: its help, if there is one, and its type. -/
def headerRead (d : Descriptor) : List Line :=
  (if d.help = "" then []
    else [.comment (String.ofList ("# HELP ".toList ++ d.name.toList ++
      ' ' :: escaped helpChar d.help))]) ++
  [.comment (String.ofList ("# TYPE ".toList ++ d.name.toList ++ " gauge".toList))]

theorem tells_typeLine {d : Descriptor} (hname : isName true d.name.toList = true) :
    Tells (typeLine d)
      (.comment (String.ofList ("# TYPE ".toList ++ d.name.toList ++ " gauge".toList))) := by
  have hbody : '\n' ∉ " TYPE ".toList ++ d.name.toList ++ " gauge".toList := by
    simp only [List.mem_append, not_or]
    exact ⟨⟨by decide, lineEnd_not_mem_name hname⟩, by decide⟩
  have htext : typeLine d =
      '#' :: (" TYPE ".toList ++ d.name.toList ++ " gauge".toList) ++ ['\n'] :=
    calc typeLine d
      _ = "# TYPE ".toList ++ d.name.toList ++ (" gauge".toList ++ ['\n']) := rfl
      _ = "# TYPE ".toList ++ d.name.toList ++ " gauge".toList ++ ['\n'] :=
        (List.append_assoc _ _ _).symm
  rw [htext]
  exact tells_comment hbody

theorem tells_helpLine {d : Descriptor} (hname : isName true d.name.toList = true)
    (hhelp : d.help ≠ "") :
    Tells (helpLine d) (.comment (String.ofList ("# HELP ".toList ++ d.name.toList ++
      ' ' :: escaped helpChar d.help))) := by
  have hbody : '\n' ∉ " HELP ".toList ++ d.name.toList ++ ' ' :: escaped helpChar d.help := by
    simp only [List.mem_append, List.mem_cons, not_or]
    exact ⟨⟨by decide, lineEnd_not_mem_name hname⟩, by decide, lineEnd_not_mem_help _⟩
  rw [helpLine, if_neg hhelp]
  exact tells_comment hbody

/-- The text of a family is read back: its header, and each sample from a line of its own. -/
theorem readText_familyText {f : Family} (h : Legible f) :
    readText (String.ofList (familyText f)) =
      some (headerRead f.descriptor ++ f.samples.map (sampleRead f.descriptor.name)) := by
  have hsamples : List.Forall₂ Tells (f.samples.map (sampleLine f.descriptor.name))
      (f.samples.map (sampleRead f.descriptor.name)) := by
    rw [List.forall₂_map_left_iff, List.forall₂_map_right_iff, List.forall₂_same]
    exact fun x hx => tells_sampleLine h.name (h.keys x hx)
  have htype := (tells_typeLine h.name)
  rw [readText, String.toList_ofList, familyText, List.flatMap_def]
  by_cases hhelp : f.descriptor.help = ""
  · have hlines := readLines_flatten (.cons htype hsamples)
    simpa [headerRead, helpLine, hhelp] using hlines
  · have hlines := readLines_flatten (.cons (tells_helpLine h.name hhelp) (.cons htype hsamples))
    simpa [headerRead, hhelp] using hlines

end Exposition

/-! ## Records -/

namespace Record

open Exposition

/-- The family of some records. -/
def family (rs : List Record) : Family := ⟨descriptor, rs.map sample⟩

/-- The line of a record. -/
def line (r : Record) : List Char := sampleLine familyName r.sample

/-- What is read in the line of a record. -/
def lineRead (r : Record) : Line := .sample familyName (labels.zip r.values) "1" none

theorem legible_family (rs : List Record) : Legible (family rs) where
  name := (by decide : isName true familyName.toList = true)
  keys := by
    intro x hx
    obtain ⟨r, -, rfl⟩ := List.mem_map.mp hx
    rw [keys_sample]
    decide

theorem sampleRead_sample (r : Record) : sampleRead familyName r.sample = r.lineRead := by
  have hone : (Binary64.ofNat 1).plainText = "1" := by decide +kernel
  simp only [sampleRead, sample, Sample.ofColumns, hone, lineRead]

theorem lineRead_injective {r r' : Record} (h : r.lineRead = r'.lineRead) : r = r' := by
  simp only [lineRead, Line.sample.injEq, true_and, and_true] at h
  have hvalues : ∀ r : Record, (labels.zip r.values).map (·.2) = r.values :=
    fun r => List.map_snd_zip (by rw [length_values])
  refine values_injective ?_
  rw [← hvalues r, h, hvalues r']

theorem readText_family (rs : List Record) :
    readText (String.ofList (familyText (family rs))) =
      some (.comment "# HELP acm_managed_cluster_info Managed cluster information" ::
        .comment "# TYPE acm_managed_cluster_info gauge" :: rs.map lineRead) := by
  have hheader : headerRead descriptor =
      [.comment "# HELP acm_managed_cluster_info Managed cluster information",
        .comment "# TYPE acm_managed_cluster_info gauge"] := by decide
  have hsamples : (rs.map sample).map (sampleRead descriptor.name) = rs.map lineRead := by
    rw [List.map_map]
    exact List.map_congr_left fun r _ => sampleRead_sample r
  have hread := readText_familyText (legible_family rs)
  simp only [family, hheader, hsamples] at hread
  exact hread

theorem render_family (rs : List Record) :
    render [family rs] =
      .ok (String.ofList (if rs = [] then [] else familyText (family rs))) := by
  have hname : (family rs).descriptor.name ≠ "" := (by decide : familyName ≠ "")
  rw [render_singleton hname]
  simp only [family, List.map_eq_nil_iff]

theorem familyText_family (rs : List Record) :
    familyText (family rs) =
      "# HELP acm_managed_cluster_info Managed cluster information\n".toList ++
        "# TYPE acm_managed_cluster_info gauge\n".toList ++ (rs.map line).flatten := by
  have hhelp : helpLine descriptor =
      "# HELP acm_managed_cluster_info Managed cluster information\n".toList := by decide
  have htype : typeLine descriptor = "# TYPE acm_managed_cluster_info gauge\n".toList := by decide
  have hlines : (rs.map sample).flatMap (sampleLine familyName) = (rs.map line).flatten := by
    rw [List.flatMap_map, List.flatMap_def]
    rfl
  rw [← hhelp, ← htype, ← hlines]
  rfl

theorem isLine_line (r : Record) : IsLine r.line :=
  (tells_sampleLine (legible_family [r]).name
    ((legible_family [r]).keys r.sample (List.mem_singleton.mpr rfl))).isLine

/-- **The text tells the records.** Records of any content are written as nothing if there are none,
and else as two lines of header and one line for each of them, in their order. A reader of
expositions finds just that: for each record a sample of its twelve labels with its values as they
are. So different lists of records have different texts. -/
theorem text_determines_records :
    (∀ rs : List Record, ∃ text, render [family rs] = .ok text ∧
      (rs = [] → text = "") ∧
      (rs ≠ [] →
        text.toList =
          "# HELP acm_managed_cluster_info Managed cluster information\n".toList ++
            "# TYPE acm_managed_cluster_info gauge\n".toList ++ (rs.map line).flatten ∧
        (∀ r ∈ rs, IsLine r.line) ∧
        readText text =
          some (.comment "# HELP acm_managed_cluster_info Managed cluster information" ::
            .comment "# TYPE acm_managed_cluster_info gauge" :: rs.map lineRead))) ∧
    ∀ rs rs' : List Record, render [family rs] = render [family rs'] → rs = rs' := by
  refine ⟨fun rs => ⟨_, render_family rs, ?_, fun hne => ⟨?_, fun r _ => isLine_line r, ?_⟩⟩, ?_⟩
  · rintro rfl
    rfl
  · rw [if_neg hne, String.toList_ofList, familyText_family]
  · rw [if_neg hne, readText_family]
  · intro rs rs' h
    rw [render_family, render_family, Except.ok.injEq] at h
    -- A text that has a header is read as two lines or more, and the empty one as none.
    have hread : ∀ {rs rs' : List Record}, rs ≠ [] →
        String.ofList (familyText (family rs)) = String.ofList (if rs' = [] then [] else
          familyText (family rs')) → rs = rs' := by
      intro rs rs' hne heq
      have hlines := readText_family rs
      rw [heq] at hlines
      by_cases hne' : rs' = []
      · rw [if_pos hne'] at hlines
        exact absurd (Option.some.inj hlines) (List.cons_ne_nil _ _).symm
      · rw [if_neg hne', readText_family] at hlines
        have hmap : rs'.map lineRead = rs.map lineRead := by simpa using hlines
        exact (List.map_inj_right fun _ _ => lineRead_injective).mp hmap.symm
    by_cases hne : rs = []
    · by_cases hne' : rs' = []
      · rw [hne, hne']
      · rw [if_neg hne'] at h
        exact (hread hne' h.symm).symm
    · rw [if_neg hne] at h
      exact hread hne h

end Record

end FleetExporter
