import FleetExporter.Json.Basic
import Mathlib.Data.List.Induction
import Mathlib.Data.String.Basic

/-! Entries of objects as maps. What counts at a key is its last value; sorting keeps just that, in
ascending order of the keys, so it is a normal form of entries. -/
namespace FleetExporter.Json

variable {α β : Type}

/-! ## The last value at a key -/

/-- The last value at a key. -/
def last? (key : String) (entries : List (String × α)) : Option α := entries.reverse.lookup key

@[simp] theorem last?_nil (key : String) : last? key ([] : List (String × α)) = none := rfl

theorem last?_append (key : String) (xs ys : List (String × α)) :
    last? key (xs ++ ys) = (last? key ys).or (last? key xs) := by
  rw [last?, List.reverse_append, List.lookup_append]
  rfl

@[simp] theorem last?_singleton (key : String) (e : String × α) :
    last? key [e] = if key = e.1 then some e.2 else none := by
  obtain ⟨k, a⟩ := e
  rw [last?, List.reverse_singleton, List.lookup_cons, List.lookup_nil]
  by_cases h : key = k
  · rw [if_pos h, beq_iff_eq.mpr h]
  · rw [if_neg h, beq_eq_false_iff_ne.mpr h]

theorem last?_cons (key : String) (e : String × α) (es : List (String × α)) :
    last? key (e :: es) = (last? key es).or (if key = e.1 then some e.2 else none) := by
  rw [← List.singleton_append, last?_append, last?_singleton]

theorem last?_concat (key : String) (es : List (String × α)) (e : String × α) :
    last? key (es ++ [e]) = if key = e.1 then some e.2 else last? key es := by
  rw [last?_append, last?_singleton]
  split <;> rfl

theorem last?_eq_none_iff {key : String} {es : List (String × α)} :
    last? key es = none ↔ key ∉ es.map (·.1) := by
  induction es with
  | nil => simp
  | cons e es ih =>
    rw [last?_cons, Option.or_eq_none_iff, ih, List.map_cons, List.mem_cons, not_or]
    by_cases h : key = e.1 <;> simp [h]

theorem mem_of_last? {key : String} {es : List (String × α)} {v : α}
    (h : last? key es = some v) : (key, v) ∈ es := by
  induction es with
  | nil => cases h
  | cons e es ih =>
    rw [last?_cons, Option.or_eq_some_iff] at h
    rcases h with h | ⟨-, h⟩
    · exact List.mem_cons_of_mem e (ih h)
    · split at h
      · rename_i hkey
        cases h
        exact hkey ▸ List.mem_cons_self
      · cases h

theorem last?_map (key : String) (f : α → β) (es : List (String × α)) :
    last? key (es.map fun e => (e.1, f e.2)) = (last? key es).map f := by
  induction es with
  | nil => rfl
  | cons e es ih =>
    rw [List.map_cons, last?_cons, last?_cons, ih]
    cases last? key es <;> simp [apply_ite]

/-- Of keys set beside items, the value of a key is the item of its place. -/
theorem last?_zip (key : String) {keys : List String} (distinct : keys.Nodup) {items : List α}
    (h : items.length ≤ keys.length) : last? key (keys.zip items) = items[keys.idxOf key]? := by
  induction keys generalizing items with
  | nil =>
    obtain rfl : items = [] := List.eq_nil_of_length_eq_zero (Nat.le_zero.mp h)
    rfl
  | cons k keys ih =>
    obtain ⟨hk, hkeys⟩ := List.nodup_cons.mp distinct
    cases items with
    | nil => simp
    | cons x items =>
      have hlength : items.length ≤ keys.length := Nat.le_of_succ_le_succ h
      rw [List.zip_cons_cons, last?_cons, ih hkeys hlength]
      by_cases hkey : key = k
      · subst hkey
        rw [List.idxOf_of_notMem hk, List.getElem?_eq_none hlength]
        simp
      · rw [List.idxOf_cons_ne keys (Ne.symm hkey)]
        simp [hkey]

/-! ## Ascending keys -/

/-- Each key stands once, and keys ascend. -/
def Ascending (es : List (String × α)) : Prop := es.Pairwise (·.1 < ·.1)

theorem last?_eq_none_of_forall_lt {key : String} {es : List (String × α)}
    (h : ∀ e ∈ es, key < e.1) : last? key es = none := by
  rw [last?_eq_none_iff, List.mem_map]
  rintro ⟨e, he, rfl⟩
  exact lt_irrefl _ (h e he)

theorem Ascending.mem_iff {es : List (String × α)} (h : Ascending es) (key : String) (v : α) :
    (key, v) ∈ es ↔ last? key es = some v := by
  refine ⟨fun hmem => ?_, mem_of_last?⟩
  induction es with
  | nil => cases hmem
  | cons e es ih =>
    obtain ⟨hfirst, hrest⟩ := List.pairwise_cons.mp h
    rw [last?_cons]
    rcases List.mem_cons.mp hmem with rfl | hmem
    · rw [last?_eq_none_of_forall_lt hfirst]
      simp
    · rw [ih hrest hmem]
      rfl

/-- Ascending entries are told by their values. -/
theorem Ascending.ext {xs ys : List (String × α)} (hx : Ascending xs) (hy : Ascending ys)
    (h : ∀ key, last? key xs = last? key ys) : xs = ys := by
  have hnodup : ∀ {es : List (String × α)}, Ascending es → es.Nodup := by
    intro es hes
    exact hes.imp fun hlt heq => ne_of_lt hlt (congrArg Prod.fst heq)
  have hperm : xs.Perm ys := by
    rw [List.perm_ext_iff_of_nodup (hnodup hx) (hnodup hy)]
    rintro ⟨key, v⟩
    rw [hx.mem_iff, hy.mem_iff, h key]
  exact hperm.eq_of_pairwise (fun _ _ _ _ hlt hgt => absurd hgt (lt_asymm hlt)) hx hy

theorem forall_lt_setEntry {key k : String} {v : α} {es : List (String × α)} (hk : k < key)
    (h : ∀ e ∈ es, k < e.1) : ∀ e ∈ setEntry key v es, k < e.1 := by
  induction es with
  | nil => simpa [setEntry] using hk
  | cons e es ih =>
    obtain ⟨hfirst, hrest⟩ := List.forall_mem_cons.mp h
    unfold setEntry
    split
    · exact List.forall_mem_cons.mpr ⟨hk, h⟩
    · split
      · exact List.forall_mem_cons.mpr ⟨hk, hrest⟩
      · exact List.forall_mem_cons.mpr ⟨hfirst, ih hrest⟩

theorem Ascending.setEntry {es : List (String × α)} (h : Ascending es) (key : String) (v : α) :
    Ascending (setEntry key v es) := by
  induction es with
  | nil => exact List.pairwise_singleton _ _
  | cons e es ih =>
    obtain ⟨hfirst, hrest⟩ := List.pairwise_cons.mp h
    unfold Json.setEntry
    split
    · rename_i hlt
      refine List.pairwise_cons.mpr ⟨List.forall_mem_cons.mpr ⟨hlt, fun e' he' => ?_⟩, h⟩
      exact hlt.trans (hfirst e' he')
    · rename_i hge
      split
      · rename_i heq
        exact List.pairwise_cons.mpr ⟨fun e' he' => heq ▸ hfirst e' he', hrest⟩
      · rename_i hne
        have hgt : e.1 < key := lt_of_le_of_ne (not_lt.mp hge) (Ne.symm hne)
        exact List.pairwise_cons.mpr ⟨forall_lt_setEntry hgt hfirst, ih hrest⟩

theorem Ascending.last?_setEntry {es : List (String × α)} (h : Ascending es) (key k : String)
    (v : α) : last? k (Json.setEntry key v es) = if k = key then some v else last? k es := by
  induction es with
  | nil => simp [Json.setEntry]
  | cons e es ih =>
    obtain ⟨hfirst, hrest⟩ := List.pairwise_cons.mp h
    unfold Json.setEntry
    split
    · rename_i hlt
      rw [last?_cons]
      by_cases hk : k = key
      · subst hk
        have hnone : last? k (e :: es) = none := by
          refine last?_eq_none_of_forall_lt (List.forall_mem_cons.mpr ⟨hlt, fun e' he' => ?_⟩)
          exact hlt.trans (hfirst e' he')
        simp [hnone]
      · simp [hk]
    · split
      · rename_i heq
        subst heq
        rw [last?_cons, last?_cons]
        by_cases hk : k = e.1
        · subst hk
          rw [last?_eq_none_of_forall_lt hfirst]
          simp
        · simp [hk]
      · rename_i hne
        rw [last?_cons, last?_cons, ih hrest]
        by_cases hk : k = key
        · subst hk
          simp
        · simp [hk]

theorem Ascending.countP_le {es : List (String × α)} (h : Ascending es) (key : String) :
    es.countP (·.1 = key) ≤ 1 := by
  induction es with
  | nil => exact Nat.zero_le 1
  | cons e es ih =>
    obtain ⟨hfirst, hrest⟩ := List.pairwise_cons.mp h
    by_cases hkey : e.1 = key
    · have hnone : es.countP (·.1 = key) = 0 := by
        rw [List.countP_eq_zero]
        intro e' he'
        simpa using hkey ▸ (hfirst e' he').ne'
      rw [List.countP_cons_of_pos (by simpa using hkey), hnone]
    · rw [List.countP_cons_of_neg (by simpa using hkey)]
      exact ih hrest

/-! ## Sorted entries -/

theorem sortEntries_concat (es : List (String × α)) (e : String × α) :
    sortEntries (es ++ [e]) = setEntry e.1 e.2 (sortEntries es) := by
  simp [sortEntries, List.foldl_append]

theorem ascending_sortEntries (es : List (String × α)) : Ascending (sortEntries es) := by
  induction es using List.reverseRecOn with
  | nil => exact List.Pairwise.nil
  | append_singleton es e ih =>
    rw [sortEntries_concat]
    exact ih.setEntry _ _

@[simp] theorem last?_sortEntries (key : String) (es : List (String × α)) :
    last? key (sortEntries es) = last? key es := by
  induction es using List.reverseRecOn with
  | nil => rfl
  | append_singleton es e ih =>
    rw [sortEntries_concat, (ascending_sortEntries es).last?_setEntry, last?_concat, ih]

theorem Ascending.sortEntries_eq {es : List (String × α)} (h : Ascending es) :
    sortEntries es = es :=
  (ascending_sortEntries es).ext h fun key => last?_sortEntries key es

theorem mem_sortEntries_iff {es : List (String × α)} {key : String} {v : α} :
    (key, v) ∈ sortEntries es ↔ last? key es = some v := by
  rw [(ascending_sortEntries es).mem_iff, last?_sortEntries]

theorem last?_filter (key : String) (p : String → Bool) (es : List (String × α)) :
    last? key (es.filter fun e => p e.1) = if p key then last? key es else none := by
  induction es with
  | nil => simp
  | cons e es ih =>
    rw [List.filter_cons, last?_cons]
    by_cases hkey : key = e.1
    · subst hkey
      cases hp : p e.1 <;> simp [ih, hp, last?_cons]
    · cases hp : p e.1 <;> simp [ih, hkey, last?_cons]

/-! ## Sorted values -/

theorem sortedEntries_eq (es : List (String × Json)) :
    sortedEntries es = es.map fun e => (e.1, e.2.sorted) := by
  induction es with
  | nil => rfl
  | cons e es ih => rw [sortedEntries, ih, List.map_cons]

theorem sortedItems_eq (items : List Json) : sortedItems items = items.map sorted := by
  induction items with
  | nil => rfl
  | cons j items ih => rw [sortedItems, ih, List.map_cons]

/-- An object of sorted values is sorted once its keys are. -/
theorem sorted_ofEntries {es : List (String × Json)} (h : ∀ e ∈ es, e.2.sorted = e.2) :
    (ofEntries es).sorted = ofEntries es := by
  have hvalues : sortedEntries (sortEntries es) = sortEntries es := by
    have hentry : ∀ e ∈ sortEntries es, (e.1, e.2.sorted) = e := by
      rintro ⟨key, j⟩ he
      rw [h (key, j) (mem_of_last? (mem_sortEntries_iff.mp he))]
    rw [sortedEntries_eq, List.map_congr_left hentry, List.map_id']
  rw [ofEntries, sorted, hvalues, (ascending_sortEntries es).sortEntries_eq]

mutual

/-- What is sorted stays as it is. -/
theorem sorted_sorted : ∀ j : Json, j.sorted.sorted = j.sorted
  | .null | .bool _ | .integer _ | .real _ | .string _ => rfl
  | .array items => by
    rw [sorted, sorted, sortedItems_sortedItems items]
  | .object entries => by
    have hvalues : ∀ e ∈ sortedEntries entries, e.2.sorted = e.2 :=
      sorted_of_mem_sortedEntries entries
    exact sorted_ofEntries hvalues

theorem sortedItems_sortedItems : ∀ items : List Json,
    sortedItems (sortedItems items) = sortedItems items
  | [] => rfl
  | j :: items => by
    rw [sortedItems, sortedItems, sorted_sorted j, sortedItems_sortedItems items]

theorem sorted_of_mem_sortedEntries : ∀ entries : List (String × Json),
    ∀ e ∈ sortedEntries entries, e.2.sorted = e.2
  | [], _, h => by cases h
  | (k, j) :: entries, e, h => by
    rw [sortedEntries] at h
    rcases List.mem_cons.mp h with rfl | h
    · exact sorted_sorted j
    · exact sorted_of_mem_sortedEntries entries e h

end

theorem Ascending.map {es : List (String × α)} (h : Ascending es) (f : α → β) :
    Ascending (es.map fun e => (e.1, f e.2)) := by
  rw [Ascending, List.pairwise_map]
  exact h

theorem sorted_ofStringMap {es : List (String × String)} (h : Ascending es) :
    (ofStringMap es).sorted = ofStringMap es := by
  have hentries : ofStringMap es = ofEntries (es.map fun e => (e.1, .string e.2)) := by
    rw [ofEntries, (h.map Json.string).sortEntries_eq, ofStringMap]
  rw [hentries]
  refine sorted_ofEntries fun e he => ?_
  obtain ⟨e, -, rfl⟩ := List.mem_map.mp he
  rfl

theorem sorted_eq_null_iff {j : Json} : j.sorted = .null ↔ j = .null := by
  cases j <;> simp [sorted]

end FleetExporter.Json
