import FleetExporter.Object.Timestamp
import FleetExporter.Proofs.Reading
import Mathlib.Data.List.Forall2

/-! Shapes of JSON values, apart from the readers. A shape says which values are accepted and what
of a value is known to it. A reader is described by a shape when it accepts just what has the shape,
gives the value that stands there, and sees nothing that the shape does not know. -/
namespace FleetExporter

/-- What a JSON value looks like. An object gives its fields by key, a record by key or by place;
they are in the order of their declaration. -/
inductive Shape where
  | any
  | text
  | flag
  | long
  | time
  | nullable (some : Shape)
  | list (item : Shape)
  | map (value : Shape)
  | object (fields : List (String × Shape))
  | record (fields : List (String × Shape))

namespace Shape

/-- A number of 64 bits with a sign. -/
def IsLong (n : Int) : Prop := -Int.pow 2 63 ≤ n ∧ n < Int.pow 2 63

mutual

/-- A record is an object in which every known key holds what conforms, or an array of at most as
many items as there are fields, each of which conforms to the field of its place. -/
def Conforms : Shape → Json → Prop
  | .any, _ => True
  | .text, j => ∃ s, j = .string s
  | .flag, j => ∃ b, j = .bool b
  | .long, j => ∃ n, j = .integer n ∧ IsLong n
  | .time, j => ∃ s t, j = .string s ∧ Timestamp.ofText s = .ok t
  | .nullable s, j => j = .null ∨ s.Conforms j
  | .list s, j => ∃ items, j = .array items ∧ ∀ item ∈ items, s.Conforms item
  | .map s, j => ∃ entries, j = .object entries ∧ ∀ e ∈ entries, s.Conforms e.2
  | .object fields, j => ∃ entries, j = .object entries ∧ ByKey fields entries
  | .record fields, j =>
    (∃ entries, j = .object entries ∧ ByKey fields entries) ∨
    ∃ items, j = .array items ∧ items.length ≤ fields.length ∧ ByPlace fields items

def ByKey : List (String × Shape) → List (String × Json) → Prop
  | [], _ => True
  | (key, s) :: rest, entries => (∀ j, (key, j) ∈ entries → s.Conforms j) ∧ ByKey rest entries

def ByPlace : List (String × Shape) → List Json → Prop
  | (_, s) :: rest, j :: items => s.Conforms j ∧ ByPlace rest items
  | _, _ => True

end

theorem byKey_iff {schema : List (String × Shape)} {entries : List (String × Json)} :
    ByKey schema entries ↔ ∀ p ∈ schema, ∀ j, (p.1, j) ∈ entries → p.2.Conforms j := by
  induction schema with
  | nil => simp [ByKey]
  | cons p schema ih => rw [ByKey, ih, List.forall_mem_cons]

mutual

/-- What is left of a value without the keys that are not known, at any level. -/
def prune : Shape → Json → Json
  | .nullable s, j => s.prune j
  | .list s, .array items => .array (items.map fun item => s.prune item)
  | .map s, .object entries => .object (entries.map fun e => (e.1, s.prune e.2))
  | .object fields, .object entries | .record fields, .object entries =>
    .object (entries.filterMap fun e => pruneEntry fields e.1 e.2)
  | .record fields, .array items => .array (pruneItems fields items)
  | _, j => j

def pruneEntry : List (String × Shape) → String → Json → Option (String × Json)
  | [], _, _ => none
  | (key, s) :: rest, k, j => if key = k then some (k, s.prune j) else pruneEntry rest k j

def pruneItems : List (String × Shape) → List Json → List Json
  | (_, s) :: rest, j :: items => s.prune j :: pruneItems rest items
  | _, items => items

end

end Shape

namespace Json

/-! ## The values that stand in JSON -/

/-- What is given for a field: the last value at its key, or the item of its place. -/
def part? (fields : List (String × Shape)) : Json → String → Option Json
  | .object entries, key => last? key entries
  | .array items, key => items[(fields.map (·.1)).idxOf key]?
  | _, _ => none

def asText : Json → String
  | .string s => s
  | _ => ""

def asFlag : Json → Bool
  | .bool b => b
  | _ => false

def asLong : Json → Int
  | .integer n => n
  | _ => 0

def asTime : Json → Timestamp
  | .string s => (Timestamp.ofText s).toOption.getD ⟨0, false⟩
  | _ => ⟨0, false⟩

/-- Null stands for absence. -/
def asOption {α : Type} (value : Json → α) : Json → Option α
  | .null => none
  | j => some (value j)

def asList {α : Type} (value : Json → α) : Json → List α
  | .array items => items.map value
  | _ => []

/-- Each key once, with its last value, in ascending order. -/
def asMap {α : Type} (value : Json → α) : Json → List (String × α)
  | .object entries => sortEntries (entries.map fun e => (e.1, value e.2))
  | _ => []

end Json

namespace Shape

variable {α β : Type}

/-! ## Readers of a shape -/

/-- A reader takes just what has a shape, as the value that stands there, and does not see what the
shape does not know, not even when it refuses. -/
structure Describes (s : Shape) (r : Reader α) (value : Json → α) : Prop where
  isOk_iff : ∀ j, (r j).isOk = true ↔ s.Conforms j
  eq_value : ∀ j a, r j = .ok a → a = value j
  read_prune : ∀ j, r (s.prune j) = r j

theorem Describes.read_eq_ok_iff {s : Shape} {r : Reader α} {value : Json → α}
    (h : s.Describes r value) (j : Json) (a : α) : r j = .ok a ↔ s.Conforms j ∧ a = value j :=
  eq_ok_iff_of_isOk (h.isOk_iff j) (h.eq_value j) a

theorem describes_text : text.Describes .text Json.asText where
  isOk_iff j := by cases j <;> simp [Reader.text, Conforms]
  eq_value j a h := by cases j <;> cases h; rfl
  read_prune j := by cases j <;> rfl

theorem describes_flag : flag.Describes .flag Json.asFlag where
  isOk_iff j := by cases j <;> simp [Reader.flag, Conforms]
  eq_value j a h := by cases j <;> cases h; rfl
  read_prune j := by cases j <;> rfl

theorem describes_long : long.Describes .long Json.asLong where
  isOk_iff j := by
    cases j with
    | integer n =>
      simp only [Reader.long, Reader.read_scalar, Conforms, IsLong, Json.integer.injEq]
      split <;> simp_all
    | _ => simp [Reader.long, Conforms]
  eq_value j a h := by
    cases j with
    | integer n =>
      simp only [Reader.long, Reader.read_scalar] at h
      split at h
      · cases h
        rfl
      · cases h
    | _ => cases h
  read_prune j := by cases j <;> rfl

theorem describes_time : time.Describes Timestamp.read Json.asTime where
  isOk_iff j := by
    cases j with
    | string s =>
      simp only [Timestamp.read, Reader.read_scalar, Conforms, Json.string.injEq]
      cases hs : Timestamp.ofText s <;> simp [hs]
    | _ => simp [Timestamp.read, Conforms]
  eq_value j a h := by
    cases j with
    | string s =>
      simp only [Timestamp.read, Reader.read_scalar] at h
      cases hs : Timestamp.ofText s with
      | error f => rw [hs] at h; cases h
      | ok t =>
        rw [hs] at h
        cases h
        simp [Json.asTime, hs, Except.toOption]
    | _ => cases h
  read_prune j := by cases j <;> rfl

theorem describes_any : any.Describes .any Json.sorted where
  isOk_iff j := by simp [Reader.any, Conforms]
  eq_value j a h := by cases h; rfl
  read_prune j := rfl

theorem prune_null : ∀ s : Shape, s.prune .null = .null
  | .nullable s => prune_null s
  | .any | .text | .flag | .long | .time | .list _ | .map _ | .object _ | .record _ => rfl

theorem prune_ne_null {j : Json} (h : j ≠ .null) : ∀ s : Shape, s.prune j ≠ .null
  | .nullable s => prune_ne_null h s
  | .any | .text | .flag | .long | .time => h
  | .list _ | .map _ | .object _ | .record _ => by
    cases j <;> first | exact h | exact Json.noConfusion

theorem nullable_of_ne_null (r : Reader α) {j : Json} (h : j ≠ .null) :
    Reader.nullable r j = (r j).map some := by
  cases j <;> first | rfl | exact absurd rfl h

theorem Describes.nullable {s : Shape} {r : Reader α} {value : Json → α}
    (h : s.Describes r value) :
    (Shape.nullable s).Describes (.nullable r) (Json.asOption value) where
  isOk_iff j := by
    by_cases hj : j = .null
    · subst hj
      simp [Reader.nullable, Conforms]
    · rw [nullable_of_ne_null r hj, isOk_map, h.isOk_iff, Conforms, or_iff_right hj]
  eq_value j a ha := by
    by_cases hj : j = .null
    · subst hj
      cases ha
      rfl
    · have hvalue : Json.asOption value j = some (value j) := by
        cases j <;> first | rfl | exact absurd rfl hj
      rw [nullable_of_ne_null r hj] at ha
      obtain ⟨b, hb, rfl⟩ := exists_of_map_eq_ok ha
      rw [hvalue, h.eq_value j b hb]
  read_prune j := by
    by_cases hj : j = .null
    · subst hj
      rw [prune_null]
    · rw [nullable_of_ne_null r hj, nullable_of_ne_null r (prune_ne_null hj (.nullable s)), prune,
        h.read_prune]

theorem Describes.into {s : Shape} {r : Reader α} {value : Json → α} (h : s.Describes r value)
    (f : α → β) : s.Describes (r.into f) fun j => f (value j) where
  isOk_iff j := by rw [Reader.into, isOk_map, h.isOk_iff]
  eq_value j b hb := by
    obtain ⟨a, ha, rfl⟩ := exists_of_map_eq_ok hb
    rw [h.eq_value j a ha]
  read_prune j := congrArg (Except.map f) (h.read_prune j)

/-! ## Lists and maps -/

theorem isOk_items {s : Shape} {r : Reader α} {value : Json → α} (h : s.Describes r value)
    (items : List Json) :
    (Reader.items r items).isOk = true ↔ ∀ item ∈ items, s.Conforms item := by
  induction items with
  | nil => simp [Reader.items]
  | cons j items ih =>
    rw [List.forall_mem_cons, ← ih, ← h.isOk_iff]
    simp only [Reader.items]
    cases r j with
    | error m => simp
    | ok a => simp

theorem items_eq {s : Shape} {r : Reader α} {value : Json → α} (h : s.Describes r value)
    {items : List Json} {as : List α} (has : Reader.items r items = .ok as) :
    as = items.map value := by
  induction items generalizing as with
  | nil => cases has; rfl
  | cons j items ih =>
    simp only [Reader.items] at has
    cases hj : r j with
    | error m => rw [hj] at has; cases has
    | ok a =>
      rw [hj] at has
      obtain ⟨rest, hrest, rfl⟩ := exists_of_map_eq_ok has
      rw [List.map_cons, h.eq_value j a hj, ih hrest]

theorem Describes.list {s : Shape} {r : Reader α} {value : Json → α} (h : s.Describes r value) :
    (Shape.list s).Describes (.list r) (Json.asList value) where
  isOk_iff j := by
    cases j with
    | array items => simpa [Reader.list, Conforms] using isOk_items h items
    | _ => simp [Reader.list, Conforms]
  eq_value j as has := by
    cases j with
    | array items => exact items_eq h has
    | _ => cases has
  read_prune j := by
    cases j with
    | array items =>
      have hitems : Reader.items r (items.map fun item => s.prune item) = Reader.items r items := by
        induction items with
        | nil => rfl
        | cons j items ih => simp only [List.map_cons, Reader.items, h.read_prune, ih]
      exact hitems
    | _ => rfl

/-- The values of a map are read as the items of a list. -/
theorem entries_eq_items (r : Reader α) (entries : List (String × Json)) :
    Reader.entries r entries =
      (Reader.items r (entries.map (·.2))).map ((entries.map (·.1)).zip ·) := by
  induction entries with
  | nil => rfl
  | cons e entries ih =>
    obtain ⟨k, j⟩ := e
    simp only [Reader.entries, Reader.items, List.map_cons, ih]
    cases r j with
    | error m => rfl
    | ok a => cases Reader.items r (entries.map (·.2)) <;> rfl

theorem Describes.map {s : Shape} {r : Reader α} {value : Json → α} (h : s.Describes r value) :
    (Shape.map s).Describes (.map r) (Json.asMap value) where
  isOk_iff j := by
    cases j with
    | object entries =>
      have hitems := isOk_items h (entries.map (·.2))
      rw [List.forall_mem_map] at hitems
      simpa [Reader.map, entries_eq_items, Conforms] using hitems
    | _ => simp [Reader.map, Conforms]
  eq_value j as has := by
    cases j with
    | object entries =>
      simp only [Reader.map, entries_eq_items] at has
      obtain ⟨es, hes, rfl⟩ := exists_of_map_eq_ok has
      obtain ⟨values, hvalues, rfl⟩ := exists_of_map_eq_ok hes
      rw [items_eq h hvalues, List.map_map, List.zip_map']
      rfl
    | _ => cases has
  read_prune j := by
    cases j with
    | object entries =>
      have hentries : Reader.entries r (entries.map fun e => (e.1, s.prune e.2)) =
          Reader.entries r entries := by
        induction entries with
        | nil => rfl
        | cons e entries ih => simp only [List.map_cons, Reader.entries, h.read_prune, ih]
      simp only [prune, Reader.map, hentries]
    | _ => rfl

/-! ## Records -/

/-- A field reads the values of a shape under its key, and puts them there. -/
structure Fits (of : (String → Option Json) → α) (p : String × Shape) (f : Field α) : Prop where
  key : f.key = p.1
  isOk_iff : ∀ j, (f.read j).isOk = true ↔ p.2.Conforms j
  fills : f.Fills of
  read_prune : ∀ j, f.read (p.2.prune j) = f.read j

theorem fits_make {of : (String → Option Json) → α} {s : Shape} {key : String} {r : Reader β}
    {value : Json → β} {set : β → α → α} (h : s.Describes r value)
    (hset : ∀ j values, set (value j) (of values) =
      of (Function.update values key (some j))) :
    Fits of (key, s) (.make key r set) where
  key := rfl
  isOk_iff j := by rw [Field.isOk_read_make, h.isOk_iff]
  fills := Field.fills_make fun j v values hv => by rw [h.eq_value j v hv, hset]
  read_prune j := by simp only [Field.make, h.read_prune]

/-- The fields of a record are those of its shape, in their order; each is known by its key, and
other keys do not matter. -/
structure Frames (schema : List (String × Shape)) (fields : List (Field α))
    (of : (String → Option Json) → α) : Prop where
  fits : List.Forall₂ (Fits of) schema fields
  distinct : (schema.map (·.1)).Nodup
  others : ∀ key ∉ schema.map (·.1), ∀ v values, of (Function.update values key v) = of values

theorem keys_of_fits {schema : List (String × Shape)} {fields : List (Field α)}
    {of : (String → Option Json) → α} (h : List.Forall₂ (Fits of) schema fields) :
    fields.map (·.key) = schema.map (·.1) := by
  induction h with
  | nil => rfl
  | cons hfirst _ ih => rw [List.map_cons, List.map_cons, ih, hfirst.key]

theorem fills_of_fits {schema : List (String × Shape)} {fields : List (Field α)}
    {of : (String → Option Json) → α} (h : List.Forall₂ (Fits of) schema fields) :
    ∀ f ∈ fields, f.Fills of := by
  induction h with
  | nil => exact fun f hf => by cases hf
  | cons hfirst _ ih => exact List.forall_mem_cons.mpr ⟨hfirst.fills, ih⟩

section Record

variable {schema : List (String × Shape)} {fields : List (Field α)}
  {of : (String → Option Json) → α}

theorem isOk_entries (fits : List.Forall₂ (Fits of) schema fields)
    (distinct : (schema.map (·.1)).Nodup) (entries : List (String × Json)) :
    (∀ e ∈ entries, Field.Accepts fields e.1 e.2) ↔ ByKey schema entries := by
  induction fits with
  | nil => simp [ByKey]
  | @cons p f schema fields hfirst hrest ih =>
    obtain ⟨hkey, hdistinct⟩ := List.nodup_cons.mp distinct
    -- What stands at the first key is not known to the other fields.
    have hsplit : ∀ e : String × Json, Field.Accepts (f :: fields) e.1 e.2 ↔
        (p.1 = e.1 → p.2.Conforms e.2) ∧ Field.Accepts fields e.1 e.2 := by
      intro e
      rw [Field.accepts_cons, hfirst.key, hfirst.isOk_iff]
      by_cases he : p.1 = e.1
      · have hothers : Field.Accepts fields e.1 e.2 := by
          intro g hg
          have hmem : g.key ∈ fields.map (·.key) :=
            List.mem_map_of_mem (List.mem_of_find?_eq_some hg)
          have hgkey : g.key = e.1 := by simpa using List.find?_some hg
          rw [keys_of_fits hrest, hgkey, ← he] at hmem
          exact absurd hmem hkey
        simp [he, hothers]
      · simp [he]
    simp only [hsplit, ByKey, ← ih hdistinct]
    constructor
    · intro h
      exact ⟨fun j hj => (h _ hj).1 rfl, fun e he => (h e he).2⟩
    · rintro ⟨hkey, hothers⟩ ⟨k, j⟩ he
      exact ⟨fun hk => hkey j (by subst hk; exact he), hothers _ he⟩

theorem isOk_places (fits : List.Forall₂ (Fits of) schema fields) (items : List Json) :
    (∀ p ∈ fields.zip items, (p.1.read p.2).isOk = true) ↔ ByPlace schema items := by
  induction fits generalizing items with
  | nil => simp [ByPlace]
  | cons hfirst _ ih =>
    cases items with
    | nil => simp [ByPlace]
    | cons j items =>
      rw [List.zip_cons_cons, List.forall_mem_cons, hfirst.isOk_iff, ih, ByPlace]

/-- An entry is kept if its key is known, and then it is read as before. -/
theorem pruneEntry_spec (fits : List.Forall₂ (Fits of) schema fields) (k : String) (j : Json) :
    (fields.find? (·.key = k) = none ∧ pruneEntry schema k j = none) ∨
    ∃ f j', fields.find? (·.key = k) = some f ∧ pruneEntry schema k j = some (k, j') ∧
      f.read j' = f.read j := by
  induction fits with
  | nil => exact Or.inl ⟨rfl, rfl⟩
  | @cons p f schema fields hfirst _ ih =>
    by_cases hk : p.1 = k
    · refine Or.inr ⟨f, p.2.prune j, ?_, if_pos hk, hfirst.read_prune j⟩
      exact List.find?_cons_of_pos (by simpa [hfirst.key] using hk)
    · have hfind : (f :: fields).find? (·.key = k) = fields.find? (·.key = k) :=
        List.find?_cons_of_neg (by simpa [hfirst.key] using hk)
      have hprune : pruneEntry (p :: schema) k j = pruneEntry schema k j := if_neg hk
      rw [hfind, hprune]
      exact ih

theorem visit_prune (fits : List.Forall₂ (Fits of) schema fields) (entries : List (String × Json))
    (a : α) :
    Field.visit fields (entries.filterMap fun e => pruneEntry schema e.1 e.2) a =
      Field.visit fields entries a := by
  induction entries generalizing a with
  | nil => rfl
  | cons e entries ih =>
    obtain ⟨k, j⟩ := e
    rcases pruneEntry_spec fits k j with ⟨hfind, hprune⟩ | ⟨f, j', hfind, hprune, hread⟩
    · simp only [List.filterMap_cons, hprune, Field.visit, hfind, ih]
    · simp only [List.filterMap_cons, hprune, Field.visit, hfind, hread, ih]

theorem position_prune (fits : List.Forall₂ (Fits of) schema fields) (items : List Json) (a : α) :
    Field.position fields (pruneItems schema items) a = Field.position fields items a := by
  induction fits generalizing items a with
  | nil => rfl
  | cons hfirst _ ih =>
    cases items with
    | nil => rfl
    | cons j items => simp only [pruneItems, Field.position, hfirst.read_prune, ih]

theorem length_pruneItems (schema : List (String × Shape)) (items : List Json) :
    (pruneItems schema items).length = items.length := by
  induction schema generalizing items with
  | nil => rfl
  | cons p schema ih =>
    cases items with
    | nil => rfl
    | cons j items => rw [pruneItems, List.length_cons, List.length_cons, ih]

theorem Frames.eq_of_visit (h : Frames schema fields of) {entries : List (String × Json)} {a : α}
    (hvisit : Field.visit fields entries (of fun _ => none) = .ok a) :
    a = of fun key => Json.last? key entries := by
  refine Field.eq_of_visit (fills_of_fits h.fits) ?_ hvisit
  intro key hkey
  exact h.others key (keys_of_fits h.fits ▸ hkey)

theorem Frames.visit_eq_ok_iff (h : Frames schema fields of) (entries : List (String × Json))
    (a : α) : Field.visit fields entries (of fun _ => none) = .ok a ↔
      ByKey schema entries ∧ a = of fun key => Json.last? key entries := by
  have hok := Field.isOk_visit fields entries (of fun _ => none)
  rw [isOk_entries h.fits h.distinct] at hok
  exact eq_ok_iff_of_isOk hok (fun _ => h.eq_of_visit) a

/-- An object is read as what stands at its keys. -/
theorem Frames.mapping (h : Frames schema fields of) (expected : String) :
    (Shape.object schema).Describes (.mapping expected fields (of fun _ => none))
      fun j => of (j.part? schema) where
  isOk_iff j := by
    cases j with
    | object entries =>
      simpa [Reader.mapping, Conforms, ← isOk_entries h.fits h.distinct]
        using Field.isOk_visit fields entries (of fun _ => none)
    | _ => simp [Reader.mapping, Conforms]
  eq_value j a ha := by
    cases j with
    | object entries => exact h.eq_of_visit ha
    | _ => cases ha
  read_prune j := by
    cases j with
    | object entries => exact visit_prune h.fits entries _
    | _ => rfl

/-- A record is read as what stands at its keys, or at its places. -/
theorem Frames.record (h : Frames schema fields of) (name : String) :
    (Shape.record schema).Describes (.record name fields (of fun _ => none))
      fun j => of (j.part? schema) where
  isOk_iff j := by
    rw [Reader.isOk_record, Conforms, h.fits.length_eq]
    simp only [isOk_entries h.fits h.distinct, isOk_places h.fits]
  eq_value j a ha := by
    cases j with
    | object entries => exact h.eq_of_visit ha
    | array items =>
      have hkeys := keys_of_fits h.fits
      simp only [Reader.record] at ha
      cases hposition : Field.position fields items (of fun _ => none) with
      | error m => rw [hposition] at ha; cases ha
      | ok b =>
        rw [hposition] at ha
        by_cases hlong : fields.length < items.length
        · simp only [hlong, if_true] at ha
          cases ha
        · simp only [hlong, if_false] at ha
          cases ha
          have hlength : items.length ≤ (schema.map (·.1)).length := by
            rw [List.length_map, h.fits.length_eq]
            exact Nat.not_lt.mp hlong
          rw [Field.position_eq_visit (hkeys ▸ h.distinct), hkeys] at hposition
          rw [h.eq_of_visit hposition]
          refine congrArg of (funext fun key => ?_)
          exact Json.last?_zip key h.distinct hlength
    | _ => cases ha
  read_prune j := by
    cases j with
    | object entries => exact visit_prune h.fits entries _
    | array items =>
      simp only [prune, Reader.record, position_prune h.fits, length_pruneItems]
    | _ => rfl

end Record

end Shape

end FleetExporter
