import FleetExporter.Object.Metadata
import FleetExporter.Proofs.Shape
import FleetExporter.Proofs.Timestamp

/-! What is read again of what was written. A value comes back when its text conforms and the value
stands in it; for records that is a matter of their parts, wherever sorting puts them. -/
namespace FleetExporter

variable {α β : Type}

theorem last?_optionalEntry (key k : String) (write : α → Json) (v : Option α) :
    Json.last? key (optionalEntry k write v) = if key = k then v.map write else none := by
  cases v <;> simp [optionalEntry]

namespace Shape

/-- A value is written as what conforms, and stands in it. -/
structure Restores (s : Shape) (value : Json → α) (write : α → Json) (a : α) : Prop where
  conforms : s.Conforms (write a)
  value_write : value (write a) = a

/-! ## Values -/

theorem restores_text (s : String) : text.Restores Json.asText .string s where
  conforms := ⟨s, rfl⟩
  value_write := rfl

theorem restores_flag (b : Bool) : flag.Restores Json.asFlag .bool b where
  conforms := ⟨b, rfl⟩
  value_write := rfl

theorem restores_long {n : Int} (h : IsLong n) :
    long.Restores Json.asLong .integer n where
  conforms := ⟨n, rfl, h⟩
  value_write := rfl

theorem restores_time {t : Timestamp} (h : t.Valid) :
    time.Restores Json.asTime (.string ·.text) t where
  conforms := ⟨t.text, t, rfl, Timestamp.ofText_text h⟩
  value_write := by simp [Json.asTime, Timestamp.ofText_text h, Except.toOption]

theorem restores_any {j : Json} (h : j.sorted = j) : any.Restores Json.sorted id j where
  conforms := trivial
  value_write := h

theorem restores_map {es : List (String × String)} (h : Json.Ascending es) :
    (map .text).Restores (Json.asMap Json.asText) .ofStringMap es where
  conforms := by
    refine ⟨_, rfl, fun e he => ?_⟩
    obtain ⟨e, -, rfl⟩ := List.mem_map.mp he
    exact ⟨e.2, rfl⟩
  value_write := by
    have hentries :
        (es.map fun e => (e.1, Json.string e.2)).map (fun e => (e.1, e.2.asText)) = es := by
      rw [List.map_map]
      exact List.map_id es
    rw [Json.ofStringMap, Json.asMap, hentries, h.sortEntries_eq]

theorem restores_list {s : Shape} {value : Json → α} {write : α → Json} {as : List α}
    (h : ∀ a ∈ as, s.Restores value write a) :
    (list s).Restores (Json.asList value) (fun as => .array (as.map write)) as where
  conforms := by
    refine ⟨_, rfl, fun j hj => ?_⟩
    obtain ⟨a, ha, rfl⟩ := List.mem_map.mp hj
    exact (h a ha).conforms
  value_write := by
    have hvalues : ∀ a ∈ as, value (write a) = a := fun a ha => (h a ha).value_write
    rw [Json.asList, List.map_map]
    exact (List.map_congr_left hvalues).trans (List.map_id' as)

theorem valid_asTime {j : Json} (h : time.Conforms j) : j.asTime.Valid := by
  obtain ⟨s, t, rfl, ht⟩ := h
  have hvalue : (Json.string s).asTime = t := by simp [Json.asTime, ht, Except.toOption]
  exact hvalue ▸ Timestamp.valid_of_ofText ht

theorem isLong_asLong {j : Json} (h : long.Conforms j) : IsLong j.asLong := by
  obtain ⟨n, rfl, hlong⟩ := h
  exact hlong

theorem ascending_asMap (value : Json → α) (j : Json) : Json.Ascending (j.asMap value) := by
  cases j with
  | object entries => exact Json.ascending_sortEntries _
  | _ => exact List.Pairwise.nil

theorem ascending_elim_asMap (value : Json → α) (part : Option Json) :
    Json.Ascending (part.elim [] (Json.asMap value)) := by
  cases part with
  | none => exact List.Pairwise.nil
  | some j => exact ascending_asMap value j

/-! ## Optional values -/

/-- A value that may be absent is written only if it is there, and stands there then. -/
structure RestoresPart (s : Shape) (value : Json → α) (write : α → Json) (v : Option α) : Prop where
  conforms : ∀ j, v.map write = some j → (nullable s).Conforms j
  value_write : (v.map write).bind (Json.asOption value) = v

/-- What is never written as null is restored, and so is its absence. -/
theorem restores_part {s : Shape} {value : Json → α} {write : α → Json} {v : Option α}
    (h : ∀ a ∈ v, s.Restores value write a) (hnull : ∀ a ∈ v, write a ≠ .null) :
    s.RestoresPart value write v where
  conforms j hj := by
    obtain ⟨a, ha, rfl⟩ := Option.map_eq_some_iff.mp hj
    exact Or.inr (h a ha).conforms
  value_write := by
    cases v with
    | none => rfl
    | some a =>
      have hvalue : Json.asOption value (write a) = some (value (write a)) := by
        cases hw : write a <;> first | rfl | exact absurd hw (hnull a rfl)
      rw [Option.map_some, Option.bind_some, hvalue, (h a rfl).value_write]

theorem restores_part_text (v : Option String) : text.RestoresPart Json.asText .string v :=
  restores_part (fun s _ => restores_text s) fun _ _ => Json.noConfusion

theorem restores_part_flag (v : Option Bool) : flag.RestoresPart Json.asFlag .bool v :=
  restores_part (fun b _ => restores_flag b) fun _ _ => Json.noConfusion

/-! ## Parts that are written always, or unless they have their default -/

section Part

variable {s : Shape} {value : Json → α} {write : α → Json} {a : α}

theorem Restores.always (h : s.Restores value write a) :
    ∀ j, some (write a) = some j → s.Conforms j :=
  fun _ hj => Option.some.inj hj ▸ h.conforms

theorem Restores.unless (h : s.Restores value write a) (c : Prop) [Decidable c] :
    ∀ j, (if c then none else some (write a)) = some j → s.Conforms j := by
  intro j hj
  split at hj
  · cases hj
  · exact h.always j hj

theorem Restores.elim_unless (h : s.Restores value write a) (missing : α)
    [Decidable (a = missing)] :
    (if a = missing then none else some (write a)).elim missing value = a := by
  split
  · rename_i hmissing
    exact hmissing.symm
  · exact h.value_write

theorem last?_unless (key k : String) (c : Prop) [Decidable c] (j : Json) :
    Json.last? key (if c then [] else [(k, j)]) =
      if key = k then (if c then none else some j) else none := by
  by_cases hc : c <;> simp [hc]

theorem sorted_of_mem_optionalEntry {key : String} {v : Option α}
    (h : ∀ a ∈ v, (write a).sorted = write a) :
    ∀ e ∈ optionalEntry key write v, e.2.sorted = e.2 := by
  cases v with
  | none => exact fun e he => by cases he
  | some a => exact List.forall_mem_cons.mpr ⟨h a rfl, fun e he => by cases he⟩

end Part

/-! ## Records -/

section Record

variable {schema : List (String × Shape)}

/-- Entries conform when what stands last at each known key does. -/
def Holds (schema : List (String × Shape)) (entries : List (String × Json)) : Prop :=
  ∀ p ∈ schema, ∀ j, Json.last? p.1 entries = some j → p.2.Conforms j

theorem byKey_sortEntries {entries : List (String × Json)} :
    ByKey schema (Json.sortEntries entries) ↔ Holds schema entries := by
  simp only [byKey_iff, Holds, Json.mem_sortEntries_iff]

theorem Holds.object {entries : List (String × Json)} (h : Holds schema entries) :
    (object schema).Conforms (.ofEntries entries) :=
  ⟨_, rfl, byKey_sortEntries.mpr h⟩

theorem Holds.record {entries : List (String × Json)} (h : Holds schema entries) :
    (record schema).Conforms (.ofEntries entries) :=
  Or.inl ⟨_, rfl, byKey_sortEntries.mpr h⟩

theorem part?_ofEntries (entries : List (String × Json)) :
    (Json.ofEntries entries).part? schema = fun key => Json.last? key entries :=
  funext fun key => Json.last?_sortEntries key entries

/-- An optional part that is there was read from a value that conforms and is not null. -/
theorem exists_of_optional {key : String} {s : Shape} (hs : (key, nullable s) ∈ schema) {j : Json}
    (h : (object schema).Conforms j) {value : Json → α} {a : α}
    (ha : a ∈ (j.part? schema key).bind (Json.asOption value)) :
    ∃ j', j' ≠ .null ∧ s.Conforms j' ∧ a = value j' := by
  obtain ⟨entries, rfl, hentries⟩ := h
  obtain ⟨j', hj', hvalue⟩ := Option.bind_eq_some_iff.mp ha
  have hnull : j' ≠ .null := by
    rintro rfl
    cases hvalue
  have hconforms := byKey_iff.mp hentries _ hs j' (Json.mem_of_last? hj')
  refine ⟨j', hnull, hconforms.resolve_left hnull, ?_⟩
  cases j' <;> cases hvalue <;> rfl

end Record

end Shape

end FleetExporter
