import FleetExporter.Proofs.Contents
import FleetExporter.Proofs.Scrape
import Mathlib.Data.List.Nodup

/-! The text of several families. It is made of the texts that the families have each on its own,
and there is none as soon as one family with samples lacks a name. A store that holds one object
shows the families of that object in the same way. -/
namespace FleetExporter

namespace Exposition

/-! ## Families side by side -/

/-- The text of a family on its own; without samples it has none. -/
def ownText (f : Family) : List Char := if f.samples = [] then [] else familyText f

/-- Families with samples have names. -/
def Named (families : List Family) : Prop :=
  ∀ f ∈ families, f.samples ≠ [] → f.descriptor.name ≠ ""

instance (families : List Family) : Decidable (Named families) :=
  inferInstanceAs (Decidable (∀ f ∈ families, f.samples ≠ [] → f.descriptor.name ≠ ""))

theorem named_cons (f : Family) (fs : List Family) :
    Named (f :: fs) ↔ (f.samples ≠ [] → f.descriptor.name ≠ "") ∧ Named fs :=
  List.forall_mem_cons

theorem named_append (fs gs : List Family) : Named (fs ++ gs) ↔ Named fs ∧ Named gs :=
  List.forall_mem_append

/-- The encoder is given no family without samples, so that a missing name is all it refuses. -/
theorem encodeAll_filter (fs : List Family) : encodeAll (fs.filter (·.samples ≠ [])) =
    if Named fs then .ok (fs.flatMap ownText) else .error .noName := by
  induction fs with
  | nil => rfl
  | cons f fs ih =>
    by_cases hsamples : f.samples = []
    · rw [List.filter_cons_of_neg (by simpa using hsamples), ih]
      simp [hsamples, named_cons, ownText]
    · rw [List.filter_cons_of_pos (by simpa using hsamples), encodeAll,
        encodeFamily_of_samples hsamples, ih]
      by_cases hname : f.descriptor.name = ""
      · simp [hname, hsamples, named_cons]
      · by_cases hrest : Named fs <;>
          simp [hname, hsamples, hrest, named_cons, ownText, Except.map]

/-- The complaint about a family without a name. -/
def noNameError : Error := .encode "Error: MetricFamily has no name"

theorem render_eq_ite (fs : List Family) : render fs =
    if Named fs then .ok (String.ofList (fs.flatMap ownText)) else .error noNameError := by
  rw [render, encodeAll_filter]
  by_cases h : Named fs
  · rw [if_pos h, if_pos h]
  · rw [if_neg h, if_neg h]
    rfl

theorem render_append (fs gs : List Family) : render (fs ++ gs) = do
    let s ← render fs
    let t ← render gs
    return s ++ t := by
  simp only [render_eq_ite, named_append, List.flatMap_append, String.ofList_append]
  by_cases hfs : Named fs
  · by_cases hgs : Named gs
    · rw [if_pos ⟨hfs, hgs⟩, if_pos hfs, if_pos hgs]
      rfl
    · rw [if_neg fun h => hgs h.2, if_pos hfs, if_neg hgs]
      rfl
  · rw [if_neg fun h => hfs h.1, if_neg hfs]
    rfl

/-- The text of families is what they have each on its own, one after the other. -/
theorem render_eq_join (fs : List Family) :
    render fs = (fs.mapM fun f => render [f]).map String.join := by
  induction fs with
  | nil => rfl
  | cons f fs ih =>
    rw [← List.singleton_append, render_append, ih, List.singleton_append, List.mapM_cons]
    cases render [f] with
    | error e => rfl
    | ok s =>
      cases fs.mapM fun f => render [f] with
      | error e => rfl
      | ok texts => exact congrArg Except.ok (String.join_cons ..).symm

theorem render_of_no_samples {f : Family} (h : f.samples = []) : render [f] = .ok "" := by
  simp [render_eq_ite, Named, ownText, h]

theorem exists_render_iff (fs : List Family) : (∃ t, render fs = .ok t) ↔ Named fs := by
  rw [render_eq_ite]
  split <;> simp_all

theorem encode_of_render {fs : List Family} {e : Error} (h : render fs = .error e) :
    ∃ family, e = .encode ("Error: MetricFamily has no name" ++ family) := by
  rw [render_eq_ite] at h
  split at h <;> cases h
  exact ⟨"", rfl⟩

/-! ## Octets -/

/-- Families written to a buffer one after the other; the first that is refused ends the writing. -/
def writeAll (buffer : ByteArray) : List Family → Except Complaint ByteArray
  | [] => .ok buffer
  | f :: rest =>
    match encodeFamily f with
    | .error c => .error c
    | .ok s => writeAll (buffer ++ (String.ofList s).toUTF8) rest

theorem writeAll_eq (buffer : ByteArray) (fs : List Family) :
    writeAll buffer fs = (encodeAll fs).map fun s => buffer ++ (String.ofList s).toUTF8 := by
  induction fs generalizing buffer with
  | nil => simp [writeAll, encodeAll, Except.map]
  | cons f fs ih =>
    rw [writeAll, encodeAll]
    cases encodeFamily f with
    | error c => rfl
    | ok s =>
      simp only [ih]
      cases encodeAll fs with
      | error c => rfl
      | ok rest => simp [Except.map, String.ofList_append, ByteArray.append_assoc]

theorem fromUTF8?_toByteArray (s : String) : String.fromUTF8? s.toByteArray = some s := by
  rw [String.fromUTF8?, dif_pos s.isValidUTF8]
  rfl

/-- What is written is read back as the text. -/
theorem fromUTF8?_of_writeAll {fs : List Family} {buffer : ByteArray}
    (h : writeAll .empty (fs.filter (·.samples ≠ [])) = .ok buffer) :
    ∃ t, String.fromUTF8? buffer = some t ∧ render fs = .ok t := by
  rw [writeAll_eq, encodeAll_filter] at h
  by_cases hnamed : Named fs
  · rw [if_pos hnamed] at h
    obtain rfl := Except.ok.inj h
    refine ⟨String.ofList (fs.flatMap ownText), ?_, by rw [render_eq_ite, if_pos hnamed]⟩
    simp only [ByteArray.empty_append, String.toUTF8_eq_toByteArray, fromUTF8?_toByteArray]
  · rw [if_neg hnamed] at h
    cases h

end Exposition

namespace SampleStore

/-! ## One object -/

/-- Of families with different names the one of a name is found, in whatever order they are. -/
theorem find?_of_nodup {fs gs : List Family} (hnames : (fs.map (·.descriptor.name)).Nodup)
    (hperm : gs.Perm fs) {f : Family} (hf : f ∈ fs) :
    gs.find? (·.descriptor.name = f.descriptor.name) = some f := by
  cases hfound : gs.find? (·.descriptor.name = f.descriptor.name) with
  | none =>
    have hnone := List.find?_eq_none.mp hfound f (hperm.mem_iff.mpr hf)
    simp at hnone
  | some g =>
    have hname : g.descriptor.name = f.descriptor.name := by simpa using List.find?_some hfound
    have hg : g ∈ fs := hperm.mem_iff.mp (List.mem_of_find?_eq_some hfound)
    rw [List.inj_on_of_nodup_map hnames hg hf hname]

/-- There is nothing in a store but what may be under one key. -/
def Alone (s : SampleStore) (key : String) : Prop := ∀ k, k ≠ key → s.get? k = none

theorem keys_put_of_alone {s : SampleStore} {key : String} (h : s.Alone key)
    (families : List Family) : (s.put key families).keys = [key] := by
  have hnodup : (s.put key families).keys.Nodup :=
    (pairwise_keys _).imp fun {k k'} hlt => ne_of_lt hlt
  refine List.perm_singleton.mp
    ((List.perm_ext_iff_of_nodup hnodup (List.nodup_singleton key)).mpr fun k => ?_)
  rw [mem_keys_iff, get?_put, List.mem_singleton]
  by_cases hk : key = k
  · simp [hk]
  · simp [hk, h k (Ne.symm hk), Ne.symm hk]

/-- A store that holds one object has its families, in the order in which they are registered. -/
theorem gather_put_of_alone {s : SampleStore} {key : String} (h : s.Alone key)
    {fs gs : List Family} (hd : s.descriptors = fs.map (·.descriptor))
    (hnames : (fs.map (·.descriptor.name)).Nodup) (hperm : gs.Perm fs) :
    (s.put key gs).gather = fs := by
  have hholds : (s.put key gs).Holds fun k => if key = k then some gs else none := by
    intro k
    rw [get?_put, descriptors_put]
    by_cases hk : key = k
    · simp [hk]
    · simp [hk, h k (Ne.symm hk)]
  -- with one key, what is gathered for a descriptor is the samples of the family of that name
  rw [gather_of_holds hholds, keys_put_of_alone h, descriptors_put, hd, List.map_map]
  refine (List.map_congr_left fun f hf => ?_).trans (List.map_id fs)
  simp [Contents.samplesAt, find?_of_nodup hnames hperm hf]

/-! ## A missing name -/

/-- A registered family without a name has a sample. -/
def ShowsNameless (s : SampleStore) : Prop :=
  ∃ (i : Nat) (d : Descriptor) (key : String) (v : Slots) (xs : List Sample),
    s.descriptors[i]? = some d ∧ d.name = "" ∧ s.get? key = some v ∧ v[i]? = some xs ∧ xs ≠ []

theorem merged_ne_nil_iff (s : SampleStore) (i : Nat) : merged s.objects.toList i ≠ [] ↔
    ∃ (key : String) (v : Slots) (xs : List Sample),
      s.get? key = some v ∧ v[i]? = some xs ∧ xs ≠ [] := by
  simp only [merged, Ne, List.flatMap_eq_nil_iff, not_forall]
  constructor
  · rintro ⟨⟨key, v⟩, he, hne⟩
    cases hslot : v[i]? with
    | none => simp [hslot] at hne
    | some xs =>
      rw [hslot, Option.getD_some] at hne
      exact ⟨key, v, xs, (mem_toList_iff s key v).mp he, hslot, hne⟩
  · rintro ⟨key, v, xs, hv, hslot, hne⟩
    refine ⟨(key, v), (mem_toList_iff s key v).mpr hv, ?_⟩
    rwa [hslot, Option.getD_some]

theorem not_named_gather_iff (s : SampleStore) :
    ¬ Exposition.Named s.gather ↔ s.ShowsNameless := by
  simp only [Exposition.Named, not_forall, not_not, ShowsNameless]
  constructor
  · rintro ⟨f, hf, hsamples, hname⟩
    obtain ⟨i, hi, rfl⟩ := List.mem_mapIdx.mp hf
    obtain ⟨key, v, xs, hv, hslot, hne⟩ := (merged_ne_nil_iff s i).mp hsamples
    exact ⟨i, s.descriptors[i], key, v, xs, List.getElem?_eq_getElem hi, hname, hv, hslot, hne⟩
  · rintro ⟨i, d, key, v, xs, hd, hname, hv, hslot, hne⟩
    obtain ⟨hi, rfl⟩ := List.getElem?_eq_some_iff.mp hd
    exact ⟨_, List.mem_mapIdx.mpr ⟨i, hi, rfl⟩,
      (merged_ne_nil_iff s i).mpr ⟨key, v, xs, hv, hslot, hne⟩, hname⟩

end SampleStore

namespace Scrape

/-- If there is no text, the answer holds nothing of it, and the reason is logged. -/
theorem respond_of_render_error {s : SampleStore} {e : Error} (h : s.render = .error e) :
    respond s ⟨"GET", metricsPath⟩ = (do
      Traced.log .error failureText [("error", e.message)]
      return ⟨500, some plainText, none, failureText⟩) := by
  have hresource : resource? s metricsPath = some (metrics s) := if_pos rfl
  simp only [respond, hresource, if_true, metrics, h]

theorem status_respond (s : SampleStore) : (respond s ⟨"GET", metricsPath⟩).value.status =
    if Exposition.Named s.gather then 200 else 500 := by
  have hrender : s.render = _ := Exposition.render_eq_ite s.gather
  by_cases h : Exposition.Named s.gather
  · rw [if_pos h] at hrender ⊢
    rw [respond_of_render hrender]
    rfl
  · rw [if_neg h] at hrender ⊢
    rw [respond_of_render_error hrender]
    rfl

theorem status_respond_iff (s : SampleStore) :
    ((respond s ⟨"GET", metricsPath⟩).value.status = 500 ↔ s.ShowsNameless) ∧
    ((respond s ⟨"GET", metricsPath⟩).value.status = 200 ↔ ¬ s.ShowsNameless) := by
  rw [status_respond, ← SampleStore.not_named_gather_iff]
  split_ifs with h <;> simp [h]

end Scrape

namespace Exposition

/-- **Rendering is homomorphic.** Families have a text iff those with samples have names, and it is
what they have each on their own, in order; a missing name is the only fault there is. What a store
with one object shows does not depend on how its families came about, and the endpoint fails iff a
registered family without a name has a sample. -/
theorem render_homomorphic :
    (∀ fs : List Family,
      ((∃ t, render fs = .ok t) ↔ Named fs) ∧
      render fs = (fs.mapM fun f => render [f]).map String.join ∧
      (∀ e, render fs = .error e →
        ∃ family, e = .encode ("Error: MetricFamily has no name" ++ family)) ∧
      encodeAll (fs.filter (·.samples ≠ [])) ≠ .error .noMetrics ∧
      ∀ buffer, writeAll .empty (fs.filter (·.samples ≠ [])) = .ok buffer →
        ∃ t, String.fromUTF8? buffer = some t ∧ render fs = .ok t) ∧
    (∀ f : Family, f.samples = [] → render [f] = .ok "") ∧
    (∀ fs gs : List Family, render (fs ++ gs) = do
      let s ← render fs
      let t ← render gs
      return s ++ t) ∧
    (∀ (s : SampleStore) (key : String) (fs gs : List Family),
      s.descriptors = fs.map (·.descriptor) → s.Alone key →
      (fs.map (·.descriptor.name)).Nodup → gs.Perm fs →
      (s.put key gs).render = (fs.mapM fun f => render [f]).map String.join) ∧
    ∀ s : SampleStore,
      ((Scrape.respond s ⟨"GET", "/metrics"⟩).value.status = 500 ↔ s.ShowsNameless) ∧
      ((Scrape.respond s ⟨"GET", "/metrics"⟩).value.status = 200 ↔ ¬ s.ShowsNameless) := by
  refine ⟨fun fs => ⟨exists_render_iff fs, render_eq_join fs, fun e => encode_of_render, ?_,
    fun buffer => fromUTF8?_of_writeAll⟩, fun f => render_of_no_samples, render_append,
    fun s key fs gs hd halone hnames hperm => ?_, Scrape.status_respond_iff⟩
  · rw [encodeAll_filter]
    split <;> simp
  · rw [SampleStore.render, SampleStore.gather_put_of_alone halone hd hnames hperm, render_eq_join]

def temperature : Family where
  descriptor := ⟨"temperature", "Degrees"⟩
  samples := [⟨[("room", "attic")], .ofNat 21⟩]

def humidity : Family where
  descriptor := ⟨"humidity", ""⟩
  samples := []

def nameless : Family where
  descriptor := ⟨"", ""⟩
  samples := temperature.samples

theorem render_homomorphic_two_families :
    ((SampleStore.empty [temperature.descriptor, humidity.descriptor]).put "attic"
      [humidity, temperature]).render =
        ([temperature, humidity].mapM fun f => render [f]).map String.join ∧
    render [humidity] = .ok "" ∧
    (∃ buffer, writeAll .empty [temperature] = .ok buffer ∧
      ∃ t, String.fromUTF8? buffer = some t ∧ render [temperature, humidity] = .ok t) ∧
    ∃ e family, render [temperature, nameless] = .error e ∧
      e = .encode ("Error: MetricFamily has no name" ++ family) := by
  obtain ⟨hlists, hempty, -, hstore, -⟩ := render_homomorphic
  obtain ⟨-, -, -, -, hwritten⟩ := hlists [temperature, humidity]
  obtain ⟨-, -, hfault, -, -⟩ := hlists [temperature, nameless]
  have hnameless : render [temperature, nameless] = .error noNameError := rfl
  obtain ⟨family, hfamily⟩ := hfault _ hnameless
  exact ⟨hstore _ _ _ _ rfl (fun k _ => SampleStore.get?_empty _ k) (by decide)
    (List.Perm.swap _ _ _), hempty humidity rfl, ⟨_, rfl, hwritten _ rfl⟩,
    ⟨_, family, hnameless, hfamily⟩⟩

end Exposition

end FleetExporter
