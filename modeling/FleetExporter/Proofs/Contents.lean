import FleetExporter.Proofs.ByteOrder
import FleetExporter.SampleStore
import Mathlib.Data.List.Induction

/-! The store as a plain map. Whatever is put, dropped and pruned, it holds under each key the
families that were last put there, tells how many keys a change took away, and shows the samples of
its keys in the order of their octets, in whatever order the entries are come upon. Changes that
touch different keys may be exchanged. -/
namespace FleetExporter.SampleStore

/-! ## Plain maps -/

/-- What is under each key: the families that were last put there, if they are still there. -/
abbrev Contents := String → Option (List Family)

namespace Contents

/-- A map after a change. -/
def after (m : Contents) : Edit → Contents
  | .keep => m
  | .put key families => fun k => if key = k then some families else m k
  | .drop key => fun k => if key = k then none else m k
  | .prune scope live => fun k => if scope.toList <+: k.toList ∧ k ∉ live then none else m k

/-- The samples of a key for a family: those of the first family of that name under the key. -/
def samplesAt (m : Contents) (name k : String) : List Sample :=
  match (m k).bind (List.find? (·.descriptor.name = name)) with
  | some f => f.samples
  | none => []

end Contents

/-- What a map holds after changes in a row. -/
def contents (changes : List Edit) : Contents := changes.foldl Contents.after fun _ => none

/-- How many of the keys of a map a change takes away. -/
def lost (keys : List String) : Edit → Nat
  | .keep => 0
  | .put _ _ => 0
  | .drop key => if key ∈ keys then 1 else 0
  | .prune scope live => (keys.filter fun k => scope.toList <+: k.toList ∧ k ∉ live).length

/-- Whether a change decides what is under a key. -/
def Edit.touches (k : String) : Edit → Bool
  | .keep => false
  | .put key _ => key = k
  | .drop key => key = k
  | .prune scope live => scope.toList <+: k.toList ∧ k ∉ live

/-! ## Stores and maps -/

/-- The store after changes in a row. -/
def stored (descriptors : List Descriptor) (changes : List Edit) : SampleStore :=
  changes.foldl (fun s e => (s.apply e).1) (.empty descriptors)

/-- A store holds the slots that the families of a map fill. -/
def Holds (s : SampleStore) (m : Contents) : Prop :=
  ∀ k, s.get? k = (m k).map (slots s.descriptors)

theorem Holds.apply {s : SampleStore} {m : Contents} (h : s.Holds m) (e : Edit) :
    (s.apply e).1.Holds (m.after e) := by
  intro k
  rw [descriptors_apply]
  cases e with
  | keep => exact h k
  | put key families =>
    have hget : (s.apply (.put key families)).1.get? k =
        if key = k then some (slots s.descriptors families) else s.get? k :=
      get?_put s key families k
    rw [hget, h k]
    by_cases hk : key = k <;> simp [Contents.after, hk]
  | drop key =>
    have hget : (s.apply (.drop key)).1.get? k = if key = k then none else s.get? k :=
      get?_drop s key k
    rw [hget, h k]
    by_cases hk : key = k <;> simp [Contents.after, hk]
  | prune scope live =>
    have hget : (s.apply (.prune scope live)).1.get? k =
        if inScope scope k ∧ live.contains k = false then none else s.get? k :=
      get?_prune s scope live.contains k
    have hpruned : (inScope scope k ∧ live.contains k = false) ↔
        (scope.toList <+: k.toList ∧ k ∉ live) := by
      rw [inScope_iff, ← Bool.not_eq_true, List.contains_iff_mem]
    simp only [hget, hpruned, h k, Contents.after]
    split <;> rfl

section Stored

variable (descriptors : List Descriptor) (changes : List Edit)

theorem stored_concat (e : Edit) :
    stored descriptors (changes ++ [e]) = ((stored descriptors changes).apply e).1 := by
  simp [stored]

theorem contents_concat (e : Edit) : contents (changes ++ [e]) = (contents changes).after e := by
  simp [contents]

@[simp] theorem descriptors_stored : (stored descriptors changes).descriptors = descriptors := by
  induction changes using List.reverseRecOn with
  | nil => rfl
  | append_singleton changes e ih => rw [stored_concat, descriptors_apply, ih]

/-- After any changes a store holds what a map does. -/
theorem holds_stored : (stored descriptors changes).Holds (contents changes) := by
  induction changes using List.reverseRecOn with
  | nil => exact fun k => get?_empty descriptors k
  | append_singleton changes e ih =>
    rw [stored_concat, contents_concat]
    exact ih.apply e

end Stored

/-! ## Changes that touch different keys -/

theorem Contents.after_congr {m m' : Contents} {k : String} (h : m k = m' k) (e : Edit) :
    m.after e k = m'.after e k := by
  cases e with
  | keep => exact h
  | put key families => simp only [after, h]
  | drop key => simp only [after, h]
  | prune scope live => simp only [after, h]

theorem Contents.after_of_not_touches {e : Edit} {k : String} (h : e.touches k = false)
    (m : Contents) : m.after e k = m k := by
  cases e with
  | keep => rfl
  | put key families => exact if_neg (of_decide_eq_false h)
  | drop key => exact if_neg (of_decide_eq_false h)
  | prune scope live => exact if_neg (of_decide_eq_false h)

/-- What is under a key depends only on the changes that touch it. -/
theorem foldl_after_touching (k : String) (changes : List Edit) {m n : Contents}
    (h : m k = n k) :
    changes.foldl Contents.after m k = (changes.filter (·.touches k)).foldl Contents.after n k := by
  induction changes generalizing m n with
  | nil => exact h
  | cons e rest ih =>
    rw [List.foldl_cons, List.filter_cons]
    split
    · exact ih (Contents.after_congr h e)
    · rename_i huntouched
      rw [Bool.not_eq_true] at huntouched
      exact ih ((Contents.after_of_not_touches huntouched m).trans h)

/-- Two rows of changes in which those that touch a key are in the same order, for each key, leave
the same store. -/
theorem stored_congr (descriptors : List Descriptor) {changes changes' : List Edit}
    (h : ∀ k, changes.filter (·.touches k) = changes'.filter (·.touches k)) :
    stored descriptors changes = stored descriptors changes' := by
  have hcontents : contents changes = contents changes' := by
    funext k
    let nothing : Contents := fun _ => none
    have hone := foldl_after_touching k changes (m := nothing) (n := nothing) rfl
    have hother := foldl_after_touching k changes' (m := nothing) (n := nothing) rfl
    rw [h k] at hone
    exact hone.trans hother.symm
  refine ext_get? (by simp) fun k => ?_
  rw [holds_stored descriptors changes k, holds_stored descriptors changes' k, hcontents,
    descriptors_stored, descriptors_stored]

/-! ## Keys and entries -/

/-- The keys of a store in their order. -/
def keys (s : SampleStore) : List String := s.objects.toList.map (·.1)

theorem mem_keys_iff {s : SampleStore} {k : String} : k ∈ s.keys ↔ (s.get? k).isSome = true := by
  rw [Option.isSome_iff_exists]
  constructor
  · intro hk
    obtain ⟨⟨k', v⟩, he, rfl⟩ := List.mem_map.mp hk
    exact ⟨v, (mem_toList_iff s k' v).mp he⟩
  · rintro ⟨v, hv⟩
    exact List.mem_map.mpr ⟨(k, v), (mem_toList_iff s k v).mpr hv, rfl⟩

theorem length_keys (s : SampleStore) : s.keys.length = s.size := by
  rw [keys, List.length_map]
  exact Std.ExtTreeMap.length_toList

theorem keys_ascend (s : SampleStore) :
    s.keys.Pairwise fun k k' => Text.octets k < Text.octets k' :=
  (pairwise_keys s).imp fun {k k'} h => (Text.lt_iff_octets_lt k k').mp h

/-- A change takes away as many keys as it would of a plain map. -/
theorem lost_apply (s : SampleStore) (e : Edit) : (s.apply e).2 = lost s.keys e := by
  cases e with
  | keep => rfl
  | put key families => rfl
  | drop key =>
    change (if s.contains key then 1 else 0) = if key ∈ s.keys then 1 else 0
    simp only [contains_eq_isSome, mem_keys_iff]
  | prune scope live =>
    change s.size - (s.prune scope live.contains).size =
      (s.keys.filter fun k => scope.toList <+: k.toList ∧ k ∉ live).length
    have hkept : (s.prune scope live.contains).keys =
        s.keys.filter fun k => !decide (scope.toList <+: k.toList ∧ k ∉ live) := by
      simp only [keys, prune, Std.ExtTreeMap.toList_filter, List.filter_map]
      refine congrArg _ (List.filter_congr fun e _ => ?_)
      rw [Bool.eq_iff_iff]
      simp [← inScope_iff]
    have hsplit := List.length_eq_length_filter_add
      (l := s.keys) fun k => decide (scope.toList <+: k.toList ∧ k ∉ live)
    rw [← length_keys s, ← length_keys (s.prune _ _), hkept]
    omega

/-- What a scrape makes of the entries of a store as they are come upon: it sorts them by their
keys, and merges them for each family. -/
def gathered (descriptors : List Descriptor) (entries : List (String × Slots)) : List Family :=
  let sorted := entries.mergeSort fun e e' => e.1 ≤ e'.1
  descriptors.mapIdx fun i d => ⟨d, merged sorted i⟩

/-- Sorted, the entries of a store are in the order of its map. -/
theorem mergeSort_entries {s : SampleStore} {entries : List (String × Slots)}
    (h : entries.Perm s.objects.toList) :
    (entries.mergeSort fun e e' => e.1 ≤ e'.1) = s.objects.toList := by
  have hsorted : (entries.mergeSort fun e e' => decide (e.1 ≤ e'.1)).Pairwise
      fun e e' => e.1 ≤ e'.1 := by
    refine (List.pairwise_mergeSort ?_ ?_ entries).imp fun {e e'} hle => of_decide_eq_true hle
    · intro a b c hab hbc
      exact decide_eq_true ((of_decide_eq_true hab).trans (of_decide_eq_true hbc))
    · intro a b
      simpa using le_total a.1 b.1
  have hmap : s.objects.toList.Pairwise fun e e' => e.1 ≤ e'.1 :=
    (List.pairwise_map.mp (pairwise_keys s)).imp fun {e e'} hlt => le_of_lt hlt
  have hperm := (List.mergeSort_perm entries fun e e' => decide (e.1 ≤ e'.1)).trans h
  refine List.Perm.eq_of_pairwise (fun e e' he he' hle hle' => ?_) hsorted hmap hperm
  -- a key has one entry only, so that entries of equal keys are equal
  obtain ⟨k, v⟩ := e
  obtain ⟨k', v'⟩ := e'
  obtain rfl : k = k' := le_antisymm hle hle'
  have hv : s.get? k = some v := (mem_toList_iff s k v).mp (hperm.mem_iff.mp he)
  have hv' : s.get? k = some v' := (mem_toList_iff s k v').mp he'
  rw [Option.some.inj (hv.symm.trans hv')]

theorem gathered_eq_gather {s : SampleStore} {entries : List (String × Slots)}
    (h : entries.Perm s.objects.toList) : gathered s.descriptors entries = s.gather := by
  rw [gathered, mergeSort_entries h, gather]

/-- In each family a key has the samples that a plain map has for it. -/
theorem gather_of_holds {s : SampleStore} {m : Contents} (h : s.Holds m) :
    s.gather = s.descriptors.map fun d => ⟨d, s.keys.flatMap (m.samplesAt d.name)⟩ := by
  refine List.ext_getElem (by simp [gather]) fun i hi hi' => ?_
  have hdescriptor : i < s.descriptors.length := by simpa using hi'
  simp only [gather, List.getElem_mapIdx, List.getElem_map, Family.mk.injEq, true_and, merged, keys,
    List.flatMap_map]
  refine List.flatMap_congr fun e he => ?_
  have hslots : (m e.1).map (slots s.descriptors) = some e.2 := by
    rw [← h e.1]
    exact (mem_toList_iff s e.1 e.2).mp he
  obtain ⟨families, hfamilies, hslots⟩ := Option.map_eq_some_iff.mp hslots
  have hslot : e.2[i]? = some (samplesNamed s.descriptors[i].name families) := by
    rw [← hslots, slots, List.getElem?_map, List.getElem?_eq_getElem hdescriptor]
    rfl
  rw [hslot, Contents.samplesAt, hfamilies]
  simp only [Option.getD_some, Option.bind_some, samplesNamed]
  cases List.find? (fun f => decide (f.descriptor.name = s.descriptors[i].name)) families <;> rfl

/-- **A store is a map by key, shown in the order of the keys.** After any changes the store has the
keys that a plain map has, and each further change takes away as many of them. In whatever order its
entries are come upon, a scrape has one family for each descriptor, with the samples of the first
family of that name that was last put under each key, in ascending order of the octets of the keys.
Rows of changes that differ in the order of those that touch different keys leave the same. -/
theorem store_refines_map (descriptors : List Descriptor) (changes : List Edit) :
    let s := stored descriptors changes
    let m := contents changes
    (∃ live : List String,
      live.Pairwise (fun k k' => Text.octets k < Text.octets k') ∧
      (∀ k, k ∈ live ↔ (m k).isSome = true) ∧
      s.size = live.length ∧ (s.size = 0 ↔ ∀ k, m k = none) ∧
      (∀ e, (s.apply e).2 = lost live e) ∧
      ∀ entries, entries.Perm s.objects.toList →
        gathered descriptors entries = s.gather ∧
        s.gather = descriptors.map fun d => ⟨d, live.flatMap (m.samplesAt d.name)⟩) ∧
    ∀ changes', (∀ k, changes.filter (·.touches k) = changes'.filter (·.touches k)) →
      s = stored descriptors changes' := by
  intro s m
  have hholds : s.Holds m := holds_stored descriptors changes
  have hdescriptors : s.descriptors = descriptors := descriptors_stored descriptors changes
  have hlive : ∀ k, k ∈ s.keys ↔ (m k).isSome = true := by
    intro k
    rw [mem_keys_iff, hholds k, Option.isSome_map]
  have hempty : s.size = 0 ↔ ∀ k, m k = none := by
    rw [← length_keys, List.length_eq_zero_iff, List.eq_nil_iff_forall_not_mem]
    simp only [hlive, Bool.not_eq_true, Option.isSome_eq_false_iff, Option.isNone_iff_eq_none]
  refine ⟨⟨s.keys, keys_ascend s, hlive, (length_keys s).symm, hempty, lost_apply s, ?_⟩,
    fun changes' h => stored_congr descriptors h⟩
  intro entries hentries
  have hgathered := gathered_eq_gather hentries
  have hgather := gather_of_holds hholds
  rw [hdescriptors] at hgathered hgather
  exact ⟨hgathered, hgather⟩

end FleetExporter.SampleStore
