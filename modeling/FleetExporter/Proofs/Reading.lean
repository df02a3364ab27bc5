import FleetExporter.Proofs.Entries
import FleetExporter.View.Kind
import Mathlib.Logic.Function.Basic

/-! What the reading of a record comes to. It succeeds exactly when all that stands under a known
key, or at a known position, is accepted; a property that every field keeps is one of the record
that is read; and the record is told by the last values at its keys. -/
namespace FleetExporter

variable {α : Type}

@[simp] theorem isOk_ok {ε : Type} (a : α) : (Except.ok a : Except ε α).isOk = true := rfl

@[simp] theorem isOk_error {ε : Type} (e : ε) : (Except.error e : Except ε α).isOk = false := rfl

@[simp] theorem isOk_map {β ε : Type} (f : α → β) (x : Except ε α) : (x.map f).isOk = x.isOk := by
  cases x <;> rfl

theorem exists_of_map_eq_ok {β ε : Type} {f : α → β} {x : Except ε α} {b : β}
    (h : x.map f = .ok b) : ∃ a, x = .ok a ∧ f a = b := by
  cases x with
  | error e => cases h
  | ok a => exact ⟨a, rfl, Except.ok.inj h⟩

/-- What succeeds under a condition, and then with one result, is told by both. -/
theorem eq_ok_iff_of_isOk {ε : Type} {x : Except ε α} {P : Prop} {v : α}
    (hok : x.isOk = true ↔ P) (hvalue : ∀ a, x = .ok a → a = v) (a : α) :
    x = .ok a ↔ P ∧ a = v := by
  rw [← hok]
  constructor
  · rintro rfl
    exact ⟨rfl, hvalue a rfl⟩
  · rintro ⟨hisOk, rfl⟩
    cases x with
    | error e => cases hisOk
    | ok b => rw [hvalue b rfl]

namespace Field

/-! ## When reading succeeds -/

/-- What stands under a key is accepted, if the key is known. -/
def Accepts (fields : List (Field α)) (key : String) (j : Json) : Prop :=
  ∀ f, fields.find? (·.key = key) = some f → (f.read j).isOk = true

@[simp] theorem accepts_nil (key : String) (j : Json) : Accepts ([] : List (Field α)) key j :=
  fun _ h => by cases h

theorem accepts_cons (f : Field α) (fields : List (Field α)) (key : String) (j : Json) :
    Accepts (f :: fields) key j ↔
      if f.key = key then (f.read j).isOk = true else Accepts fields key j := by
  by_cases hk : f.key = key <;> simp [Accepts, hk]

theorem isOk_visit (fields : List (Field α)) (entries : List (String × Json)) (a : α) :
    (visit fields entries a).isOk = true ↔ ∀ e ∈ entries, Accepts fields e.1 e.2 := by
  induction entries generalizing a with
  | nil => simp [visit]
  | cons e rest ih =>
    obtain ⟨k, j⟩ := e
    simp only [visit, List.forall_mem_cons]
    cases hf : fields.find? (·.key = k) with
    | none =>
      have hknown : Accepts fields k j := fun f h => by rw [hf] at h; cases h
      simp [ih, hknown]
    | some f =>
      have hknown : Accepts fields k j ↔ (f.read j).isOk = true :=
        ⟨fun h => h f hf, fun h g hg => by rw [hf] at hg; cases hg; exact h⟩
      rw [hknown]
      cases hread : f.read j with
      | error m => simp [hread]
      | ok set => simp [hread, ih]

theorem isOk_position (fields : List (Field α)) (items : List Json) (a : α) :
    (position fields items a).isOk = true ↔
      ∀ p ∈ fields.zip items, (p.1.read p.2).isOk = true := by
  induction fields generalizing items a with
  | nil => simp [position]
  | cons f fields ih =>
    cases items with
    | nil => simp [position]
    | cons j rest =>
      simp only [position, List.zip_cons_cons, List.forall_mem_cons]
      cases f.read j with
      | error m => simp
      | ok set => simp [ih]

@[simp] theorem key_make {β : Type} (key : String) (r : Reader β) (set : β → α → α) :
    (make key r set).key = key := rfl

@[simp] theorem isOk_read_make {β : Type} (key : String) (r : Reader β) (set : β → α → α)
    (j : Json) : ((make key r set).read j).isOk = (r j).isOk :=
  isOk_map set (r j)

/-! ## What reading keeps -/

/-- A property of records that no value of a field destroys. -/
def Keeps (P : α → Prop) (f : Field α) : Prop :=
  ∀ j set a, f.read j = .ok set → P a → P (set a)

theorem keeps_make {β : Type} {P : α → Prop} {key : String} {r : Reader β} {set : β → α → α}
    (h : ∀ j v a, r j = .ok v → P a → P (set v a)) : Keeps P (make key r set) := by
  intro j s a hs ha
  obtain ⟨v, hv, rfl⟩ := exists_of_map_eq_ok hs
  exact h j v a hv ha

/-- Only the fields whose keys are there matter. -/
theorem keeps_visit_known {P : α → Prop} {fields : List (Field α)}
    {entries : List (String × Json)} {a b : α}
    (keeps : ∀ e ∈ entries, ∀ f, fields.find? (·.key = e.1) = some f → f.Keeps P)
    (h : visit fields entries a = .ok b) (ha : P a) : P b := by
  induction entries generalizing a with
  | nil => cases h; exact ha
  | cons e rest ih =>
    obtain ⟨k, j⟩ := e
    obtain ⟨hfirst, hrest⟩ := List.forall_mem_cons.mp keeps
    simp only [visit] at h
    split at h
    · exact ih hrest h ha
    · rename_i f hf
      split at h
      · cases h
      · rename_i set hset
        exact ih hrest h (hfirst f hf j set a hset ha)

theorem keeps_visit {P : α → Prop} {fields : List (Field α)} (keeps : ∀ f ∈ fields, f.Keeps P)
    {entries : List (String × Json)} {a b : α} (h : visit fields entries a = .ok b) (ha : P a) :
    P b :=
  keeps_visit_known (fun _ _ f hf => keeps f (List.mem_of_find?_eq_some hf)) h ha

/-- A property that a field brings about holds once its key was there. -/
theorem visit_of_mem {P : α → Prop} {fields : List (Field α)} (keeps : ∀ f ∈ fields, f.Keeps P)
    {f : Field α} {key : String} (hf : fields.find? (·.key = key) = some f)
    (gives : ∀ j set a, f.read j = .ok set → P (set a)) {entries : List (String × Json)} {a b : α}
    (h : visit fields entries a = .ok b) (hkey : key ∈ entries.map (·.1)) : P b := by
  obtain ⟨e, he, rfl⟩ := List.mem_map.mp hkey
  obtain ⟨before, after, rfl⟩ := List.append_of_mem he
  rw [visit_append] at h
  cases hbefore : visit fields before a with
  | error m => rw [hbefore] at h; cases h
  | ok c =>
    rw [hbefore] at h
    obtain ⟨k, j⟩ := e
    change visit fields ((k, j) :: after) c = .ok b at h
    simp only [visit, hf] at h
    split at h
    · cases h
    · rename_i set hset
      exact keeps_visit keeps h (gives j set c hset)

theorem keeps_position {P : α → Prop} {fields : List (Field α)} (keeps : ∀ f ∈ fields, f.Keeps P)
    {items : List Json} {a b : α} (h : position fields items a = .ok b) (ha : P a) : P b := by
  induction fields generalizing items a with
  | nil => cases h; exact ha
  | cons f fields ih =>
    cases items with
    | nil => cases h; exact ha
    | cons j rest =>
      simp only [position] at h
      split at h
      · cases h
      · rename_i set hset
        exact ih (fun g hg => keeps g (List.mem_cons_of_mem f hg)) h
          (keeps f List.mem_cons_self j set a hset ha)

/-! ## What reading gives -/

/-- A record is given by what stands at its keys. Reading a field then does the same as putting what
is read at its key. -/
def Fills (of : (String → Option Json) → α) (f : Field α) : Prop :=
  ∀ j set values, f.read j = .ok set →
    set (of values) = of (Function.update values f.key (some j))

theorem fills_make {β : Type} {of : (String → Option Json) → α} {key : String} {r : Reader β}
    {set : β → α → α} (h : ∀ j v values, r j = .ok v →
      set v (of values) = of (Function.update values key (some j))) :
    Fills of (make key r set) := by
  intro j s values hs
  obtain ⟨v, hv, rfl⟩ := exists_of_map_eq_ok hs
  exact h j v values hv

/-- What stands at keys that are not known does not matter. -/
def Disregards (fields : List (Field α)) (of : (String → Option Json) → α) : Prop :=
  ∀ key ∉ fields.map (·.key), ∀ v values, of (Function.update values key v) = of values

theorem eq_of_visit {fields : List (Field α)} {of : (String → Option Json) → α}
    (fills : ∀ f ∈ fields, f.Fills of) (others : Disregards fields of)
    {entries : List (String × Json)} {a : α}
    (h : visit fields entries (of fun _ => none) = .ok a) :
    a = of fun key => Json.last? key entries := by
  induction entries using List.reverseRecOn generalizing a with
  | nil =>
    cases h
    rfl
  | append_singleton entries e ih =>
    obtain ⟨k, j⟩ := e
    have hlast : (fun key => Json.last? key (entries ++ [(k, j)])) =
        Function.update (fun key => Json.last? key entries) k (some j) := by
      funext key
      simp only [Json.last?_concat, Function.update_apply]
    rw [visit_append] at h
    cases hentries : visit fields entries (of fun _ => none) with
    | error m => rw [hentries] at h; cases h
    | ok b =>
      rw [hentries] at h
      change visit fields [(k, j)] b = .ok a at h
      rw [hlast]
      simp only [visit] at h
      cases hf : fields.find? (·.key = k) with
      | none =>
        have hunknown : k ∉ fields.map (·.key) := by simpa using hf
        rw [hf] at h
        cases h
        rw [ih hentries, others k hunknown]
      | some f =>
        have hkey : f.key = k := by simpa using List.find?_some hf
        rw [hf] at h
        simp only at h
        cases hread : f.read j with
        | error m => rw [hread] at h; cases h
        | ok set =>
          rw [hread] at h
          cases h
          rw [ih hentries, ← hkey]
          exact fills f (List.mem_of_find?_eq_some hf) j set _ hread

theorem find?_key {fields : List (Field α)} (distinct : (fields.map (·.key)).Nodup) {f : Field α}
    (hf : f ∈ fields) : fields.find? (·.key = f.key) = some f := by
  induction fields with
  | nil => cases hf
  | cons g fields ih =>
    obtain ⟨hg, hfields⟩ := List.nodup_cons.mp distinct
    rcases List.mem_cons.mp hf with rfl | hf
    · simp
    · have hne : g.key ≠ f.key := fun heq => hg (List.mem_map.mpr ⟨f, hf, heq.symm⟩)
      rw [List.find?_cons_of_neg (by simpa using hne), ih hfields hf]

/-- An array is read as the object that has its items under the keys of their places. -/
theorem position_eq_visit {fields : List (Field α)} (distinct : (fields.map (·.key)).Nodup)
    (items : List Json) (a : α) :
    position fields items a = visit fields ((fields.map (·.key)).zip items) a := by
  -- The fields still to come are walked through, while all of them are searched for a key.
  have hrest : ∀ rest ⊆ fields, ∀ items a,
      position rest items a = visit fields ((rest.map (·.key)).zip items) a := by
    intro rest hrest
    induction rest with
    | nil => exact fun _ _ => rfl
    | cons f rest ih =>
      obtain ⟨hf, hrest⟩ := List.cons_subset.mp hrest
      intro items a
      cases items with
      | nil => rfl
      | cons j items =>
        simp only [position, List.map_cons, List.zip_cons_cons, visit, find?_key distinct hf]
        cases f.read j with
        | error m => rfl
        | ok set => exact ih hrest items (set a)
  exact hrest fields (List.Subset.refl _) items a

end Field

namespace Reader

/-- A record is read from an object whose known entries are accepted, or from an array of no more
items than fields that are accepted in their order. -/
theorem isOk_record (name : String) (fields : List (Field α)) (start : α) (j : Json) :
    (record name fields start j).isOk = true ↔
      (∃ entries, j = .object entries ∧ ∀ e ∈ entries, Field.Accepts fields e.1 e.2) ∨
      ∃ items, j = .array items ∧ items.length ≤ fields.length ∧
        ∀ p ∈ fields.zip items, (p.1.read p.2).isOk = true := by
  cases j with
  | object entries => simpa [record] using Field.isOk_visit fields entries start
  | array items =>
    have hposition := Field.isOk_position fields items start
    simp only [record]
    cases hp : Field.position fields items start with
    | error m =>
      rw [hp] at hposition
      have hrefused : ¬ ∀ p ∈ fields.zip items, (p.1.read p.2).isOk = true :=
        fun h => by cases hposition.mpr h
      simp only [isOk_error, Bool.false_eq_true, false_iff]
      rintro (⟨entries, heq, -⟩ | ⟨items', heq, -, h⟩)
      · cases heq
      · cases heq
        exact hrefused h
    | ok a =>
      rw [hp] at hposition
      have hitems : ∀ p ∈ fields.zip items, (p.1.read p.2).isOk = true := hposition.mp rfl
      by_cases hlong : fields.length < items.length
      · simp [hlong, Nat.not_le.mpr hlong]
      · have hlength : items.length ≤ fields.length := Nat.not_lt.mp hlong
        simp only [hlong, if_false, isOk_ok, true_iff]
        exact Or.inr ⟨items, rfl, hlength, hitems⟩
  | null => simp [record]
  | bool b => simp [record]
  | integer n => simp [record]
  | real x => simp [record]
  | string s => simp [record]

theorem keeps_record {P : α → Prop} {name : String} {fields : List (Field α)} {start a : α}
    {j : Json} (keeps : ∀ f ∈ fields, f.Keeps P) (h : record name fields start j = .ok a)
    (hstart : P start) : P a := by
  simp only [record] at h
  split at h
  · exact Field.keeps_visit keeps h hstart
  · split at h
    · cases h
    · rename_i b hb
      split at h
      · cases h
      · cases h
        exact Field.keeps_position keeps hb hstart
  · cases h

/-- An optional text is null or a text. -/
theorem isOk_nullable_text (j : Json) :
    (nullable text j).isOk = true ↔ j = .null ∨ ∃ s, j = .string s := by
  cases j <;> simp [nullable, text, Except.map]

theorem eq_ok_of_nullable {r : Reader α} {j : Json} {a : α}
    (h : nullable r j = .ok (some a)) : r j = .ok a := by
  simp only [nullable] at h
  split at h
  · cases h
  · obtain ⟨b, hb, heq⟩ := exists_of_map_eq_ok h
    rw [hb, Option.some.inj heq]

end Reader

namespace Parts

variable {Spec Status : Type}

/-- The parts of a typed view are those that the fields of the object leave. -/
theorem exists_visit {fields : List (Field (Parts Spec Status))} {o : Untyped} {spec : Spec}
    {status : Option Status} (h : read fields o = .ok (spec, status)) :
    ∃ p, Field.visit fields o.fields {} = .ok p ∧ p.spec = some spec ∧ p.status = status := by
  unfold read at h
  split at h
  · cases h
  · rename_i p hp
    split at h
    · cases h
    · rename_i s hs
      cases h
      exact ⟨p, hp, hs, rfl⟩

/-- A typed view is read when a specification is there and all that is known is accepted. -/
theorem isOk_read {fields : List (Field (Parts Spec Status))} {r : Reader Spec}
    (hspec : fields.find? (·.key = "spec") = some (specField r))
    (keeps : ∀ f ∈ fields, f.Keeps fun p => p.spec.isSome = true)
    (others : ∀ f ∈ fields, f.key ≠ "spec" → f.Keeps fun p => p.spec = none) (o : Untyped) :
    (read fields o).isOk = true ↔
      "spec" ∈ o.fields.map (·.1) ∧ ∀ e ∈ o.fields, Field.Accepts fields e.1 e.2 := by
  rw [← Field.isOk_visit fields o.fields {}]
  unfold read
  cases hvisit : Field.visit fields o.fields {} with
  | error m => simp
  | ok p =>
    have hpresent : "spec" ∈ o.fields.map (·.1) ↔ p.spec.isSome = true := by
      constructor
      · refine Field.visit_of_mem (P := fun p => p.spec.isSome = true) keeps hspec ?_ hvisit
        intro j set q hset
        obtain ⟨v, -, rfl⟩ := exists_of_map_eq_ok hset
        rfl
      · intro hsome
        by_contra habsent
        have hnone : p.spec = none := by
          refine Field.keeps_visit_known (P := fun p => p.spec = none) ?_ hvisit rfl
          intro e he f hf
          have hkey : f.key = e.1 := by simpa using List.find?_some hf
          refine others f (List.mem_of_find?_eq_some hf) fun h => habsent ?_
          exact List.mem_map.mpr ⟨e, he, hkey.symm.trans h⟩
        rw [hnone] at hsome
        cases hsome
    simp only [hpresent, isOk_ok, and_true]
    cases p.spec <;> simp

end Parts

end FleetExporter
