import FleetExporter.Scrape

/-! The text of a scrape, line by line. A store of one family gives a header and the lines of its
samples, each of which belongs to an object, and the endpoint answers with that text. -/
namespace FleetExporter

namespace Exposition

/-- A text that ends its line, and has no other end of a line in it. -/
def IsLine (l : List Char) : Prop := ∃ t, l = t ++ ['\n'] ∧ '\n' ∉ t

theorem lineEnd_not_mem_escaped (s : String) : '\n' ∉ escaped valueChar s := by
  have hchar : ∀ c, '\n' ∉ valueChar c := by
    intro c
    unfold valueChar helpChar
    split
    · simp
    · split
      · simp
      · split
        · simp
        · rename_i hc
          simpa using Ne.symm hc
  simp [escaped, hchar]

theorem lineEnd_not_mem_labelText {label : String × String} (h : '\n' ∉ label.1.toList) :
    '\n' ∉ labelText label := by
  simp [labelText, h, lineEnd_not_mem_escaped]

theorem not_mem_intercalate {α : Type} {a : α} {separator : List α} {ls : List (List α)}
    (hseparator : a ∉ separator) (h : ∀ l ∈ ls, a ∉ l) : a ∉ separator.intercalate ls := by
  induction ls with
  | nil => simp
  | cons l rest ih =>
    cases rest with
    | nil => simpa using h
    | cons l' rest =>
      rw [List.intercalate_cons_cons, List.mem_append, List.mem_append]
      simp only [not_or]
      exact ⟨⟨h l List.mem_cons_self, hseparator⟩,
        ih fun l' hl' => h l' (List.mem_cons_of_mem l hl')⟩

theorem lineEnd_not_mem_labelsText {labels : List (String × String)}
    (h : ∀ label ∈ labels, '\n' ∉ label.1.toList) : '\n' ∉ labelsText labels := by
  cases labels with
  | nil => simp [labelsText]
  | cons label rest =>
    have hbody : '\n' ∉ [','].intercalate ((label :: rest).map labelText) := by
      refine not_mem_intercalate (by simp) fun l hl => ?_
      obtain ⟨x, hx, rfl⟩ := List.mem_map.mp hl
      exact lineEnd_not_mem_labelText (h x hx)
    simpa [labelsText] using hbody

/-- Label values may hold anything: a sample is one line as long as no end of a line is in the
names of the family and of the labels, or in the number. -/
theorem isLine_sampleLine {name : String} {x : Sample} (hname : '\n' ∉ name.toList)
    (hkeys : ∀ key ∈ x.keys, '\n' ∉ key.toList) (hvalue : '\n' ∉ x.value.plainText.toList) :
    IsLine (sampleLine name x) := by
  refine ⟨name.toList ++ labelsText x.labels ++ ' ' :: x.value.plainText.toList,
    by simp [sampleLine], ?_⟩
  have hlabels : '\n' ∉ labelsText x.labels :=
    lineEnd_not_mem_labelsText fun label hlabel => hkeys label.1 (List.mem_map_of_mem hlabel)
  simp [hname, hlabels, hvalue]

/-- The text of one family that has a name. -/
theorem render_singleton {f : Family} (hname : f.descriptor.name ≠ "") :
    render [f] = .ok (String.ofList (if f.samples = [] then [] else familyText f)) := by
  by_cases hempty : f.samples = []
  · simp [render, hempty, encodeAll]
  · have hencode := encodeFamily_of_samples hempty
    rw [if_neg hname] at hencode
    simp [render, hempty, encodeAll, hencode, Except.map]

end Exposition

namespace SampleStore

/-! ## Lines -/

/-- The sample lines of a family in the order of a scrape, each with the key of its object. -/
def lines (s : SampleStore) (d : Descriptor) (i : Nat) : List (String × List Char) :=
  s.objects.toList.flatMap fun e =>
    ((e.2[i]?).getD []).map fun x => (e.1, Exposition.sampleLine d.name x)

/-- What stands before the lines of a family. -/
def header (d : Descriptor) : List Char := Exposition.helpLine d ++ Exposition.typeLine d

theorem flatten_lines (s : SampleStore) (d : Descriptor) (i : Nat) :
    ((s.lines d i).map (·.2)).flatten =
      (merged s.objects.toList i).flatMap (Exposition.sampleLine d.name) := by
  unfold lines merged
  induction s.objects.toList with
  | nil => rfl
  | cons e rest ih =>
    simp only [List.flatMap_cons, List.map_append, List.flatten_append, List.flatMap_append,
      List.map_map, ih, List.append_cancel_right_eq]
    rfl

theorem lines_eq_nil_iff (s : SampleStore) (d : Descriptor) (i : Nat) :
    s.lines d i = [] ↔ merged s.objects.toList i = [] := by
  simp [lines, merged, List.flatMap_eq_nil_iff]

/-- The part of a store that is under some keys. -/
def only (s : SampleStore) (p : String → Bool) : SampleStore :=
  { s with objects := s.objects.filter fun key _ => p key }

theorem get?_only (s : SampleStore) (p : String → Bool) (k : String) :
    (s.only p).get? k = if p k then s.get? k else none := by
  simp only [only, get?, Std.ExtTreeMap.getElem?_filter']
  cases s.objects[k]? <;> cases p k <;> simp

theorem lines_only (s : SampleStore) (p : String → Bool) (d : Descriptor) (i : Nat) :
    (s.only p).lines d i = (s.lines d i).filter fun l => p l.1 := by
  simp only [lines, only, Std.ExtTreeMap.toList_filter]
  rw [List.filter_flatMap]
  induction s.objects.toList with
  | nil => rfl
  | cons e rest ih =>
    rw [List.flatMap_cons, ← ih, List.filter_map]
    cases hp : p e.1 <;> simp [hp, Function.comp_def, List.filter_eq_self.mpr]

/-- Stores that agree under some keys have the same lines there, in the same order. -/
theorem filter_lines_congr {s t : SampleStore} {p : String → Bool}
    (hd : s.descriptors = t.descriptors) (h : ∀ k, p k = true → s.get? k = t.get? k)
    (d : Descriptor) (i : Nat) :
    ((s.lines d i).filter fun l => p l.1) = (t.lines d i).filter fun l => p l.1 := by
  have honly : s.only p = t.only p := by
    refine ext_get? hd fun k => ?_
    rw [get?_only, get?_only]
    split
    · rename_i hp
      exact h k hp
    · rfl
  rw [← lines_only, ← lines_only, honly]

/-! ## Texts -/

/-- The text of one family that has a name: its lines under a header, or nothing at all. -/
theorem render_eq {s : SampleStore} {d : Descriptor} (hd : s.descriptors = [d])
    (hname : d.name ≠ "") :
    s.render = .ok (String.ofList
      (if s.lines d 0 = [] then [] else header d ++ ((s.lines d 0).map (·.2)).flatten)) := by
  have hgather : s.gather = [⟨d, merged s.objects.toList 0⟩] := by simp [gather, hd]
  rw [render, hgather, Exposition.render_singleton hname]
  simp only [lines_eq_nil_iff, flatten_lines]
  rfl

/-- A scrape reads line by line: there is a header if there are lines of samples, and each of these
is one line of the text. -/
structure ReadsByLine (s : SampleStore) (d : Descriptor) : Prop where
  text : s.render = .ok (String.ofList
    (if s.lines d 0 = [] then [] else header d ++ ((s.lines d 0).map (·.2)).flatten))
  isLine : ∀ l ∈ s.lines d 0, Exposition.IsLine l.2

end SampleStore

namespace Scrape

/-- The endpoint answers with the text of the store, and logs nothing. -/
theorem respond_of_render {s : SampleStore} {text : String} (h : s.render = .ok text) :
    respond s ⟨"GET", metricsPath⟩ = pure ⟨200, some Exposition.contentType, none, text⟩ := by
  have hresource : resource? s metricsPath = some (metrics s) := if_pos rfl
  simp only [respond, hresource, if_true, metrics, h]

end Scrape

end FleetExporter
