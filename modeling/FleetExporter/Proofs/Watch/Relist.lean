import FleetExporter.Proofs.Publication
import FleetExporter.Proofs.Watch.Step
import Mathlib.Data.List.Basic
import Mathlib.Data.List.Induction

/-! A complete list brings any handler and any store to the same place. Whatever was seen before its
start is forgotten, what it shows last under a key of the scope counts, what it does not show is
dropped at its end, and other scopes are left alone. -/
namespace FleetExporter.Watch

open SampleStore

/-- An object of a list, with the answers about companions that hold when it is taken. -/
abbrev Listed := Companions × Untyped

namespace Listed

def moment (e : Listed) : Moment := ⟨e.1, .ok (.listed e.2)⟩

/-- A complete list: no answers are needed for its start and its end. -/
def relist (c : Companions) (listed : List Listed) : List Moment :=
  ⟨c, .ok .started⟩ :: listed.map moment ++ [⟨c, .ok .completed⟩]

/-- What a list shows last under a key. -/
def last? (k : String) (listed : List Listed) : Option Listed :=
  listed.reverse.find? fun e => e.2.key = k

theorem last?_concat (k : String) (listed : List Listed) (e : Listed) :
    last? k (listed ++ [e]) = if e.2.key = k then some e else last? k listed := by
  by_cases hk : e.2.key = k <;> simp [last?, hk]

theorem last?_eq_none_iff {k : String} {listed : List Listed} :
    last? k listed = none ↔ ∀ e ∈ listed, e.2.key ≠ k := by
  simp [last?]

theorem mem_of_last? {k : String} {listed : List Listed} {e : Listed}
    (h : last? k listed = some e) : e ∈ listed ∧ e.2.key = k :=
  ⟨List.mem_reverse.mp (List.mem_of_find?_eq_some h), by simpa using List.find?_some h⟩

end Listed

open Listed

section Listing

variable (generators : List Generator) (h : Handler) (s : SampleStore) (listed : List Listed)
  (k : String)

/-- After the objects of a list, what it showed last under a key is there in place of what was. -/
theorem get?_takeAll_listed :
    (h.takeAll generators s (listed.map moment)).value.2.get? k =
      (last? k listed).elim (s.get? k) fun e => slotsOf generators s.descriptors e.1 e.2 := by
  induction listed using List.reverseRecOn with
  | nil => rfl
  | append_singleton listed e ih =>
    rw [List.map_append, List.map_singleton, Handler.takeAll_concat, last?_concat]
    simp only [moment, Handler.take_listed, get?_refreshed, Handler.descriptors_takeAll]
    split
    · rfl
    · exact ih

/-- A key is still missing when nothing that decodes was listed under it. -/
theorem misses_takeAll_listed :
    (h.takeAll generators s (listed.map moment)).value.1.misses k = true ↔
      h.misses k = true ∧ ∀ e ∈ listed, e.2.key = k → e.2.decodes = false := by
  induction listed using List.reverseRecOn with
  | nil => simp
  | append_singleton listed e ih =>
    rw [List.map_append, List.map_singleton, Handler.takeAll_concat]
    simp only [moment, Handler.take_listed]
    cases hd : e.2.decodes
    · simp [ih, or_imp, forall_and, hd]
    · simp [Handler.misses_see, ih, or_imp, forall_and, hd, and_assoc]

end Listing

section Relist

variable (generators : List Generator) (h : Handler) (s : SampleStore) (c : Companions)
  (listed : List Listed) (k : String)

theorem takeAll_relist :
    (h.takeAll generators s (relist c listed)).value =
      let within := (Handler.takeAll generators ⟨h.scope, some []⟩ s (listed.map moment)).value
      (within.1.take generators c within.2 (.ok .completed)).value := by
  rw [relist, List.cons_append, Handler.takeAll_cons, Handler.takeAll_concat]
  rfl

/-- A complete list leaves no re-list behind. -/
theorem handler_relist :
    (h.takeAll generators s (relist c listed)).value.1 = ⟨h.scope, none⟩ := by
  rw [takeAll_relist, Handler.take_completed]
  simp

theorem descriptors_relist :
    (h.takeAll generators s (relist c listed)).value.2.descriptors = s.descriptors := by
  simp

/-- In the scope, what a list showed last under a key is all that is left. -/
theorem get?_relist_of_inScope (hk : inScope h.scope k = true) :
    (h.takeAll generators s (relist c listed)).value.2.get? k =
      (last? k listed).bind fun e => slotsOf generators s.descriptors e.1 e.2 := by
  rw [takeAll_relist, Handler.get?_take_completed, get?_takeAll_listed]
  simp only [Handler.scope_takeAll, hk, misses_takeAll_listed, Handler.misses_started, true_and]
  cases hl : last? k listed with
  | none =>
    have habsent := last?_eq_none_iff.mp hl
    exact if_pos fun e he hek => absurd hek (habsent e he)
  | some e =>
    obtain ⟨he, hek⟩ := mem_of_last? hl
    split
    · rename_i hspoilt
      -- nothing listed under the key decodes, so the last of it fills no slots either
      have hnone := isSome_slotsOf generators s.descriptors e.1 e.2
      rw [hspoilt e he hek, Option.isSome_eq_false_iff, Option.isNone_iff_eq_none] at hnone
      exact hnone.symm
    · rfl

/-- Out of the scope, a list changes nothing. -/
theorem get?_relist_of_not_inScope (inside : ∀ e ∈ listed, inScope h.scope e.2.key = true)
    (hk : inScope h.scope k = false) :
    (h.takeAll generators s (relist c listed)).value.2.get? k = s.get? k := by
  have habsent : last? k listed = none := by
    rw [last?_eq_none_iff]
    rintro e he rfl
    rw [inside e he] at hk
    cases hk
  rw [takeAll_relist, Handler.get?_take_completed, get?_takeAll_listed, habsent]
  simp [hk]

/-- In the scope, the keys that are left are those whose last object decodes. -/
theorem contains_relist (hk : inScope h.scope k = true) :
    (h.takeAll generators s (relist c listed)).value.2.contains k = true ↔
      ∃ e, last? k listed = some e ∧ e.2.decodes = true := by
  rw [contains_eq_isSome, get?_relist_of_inScope _ _ _ _ _ _ hk]
  cases last? k listed with
  | none => simp
  | some e => simp [isSome_slotsOf]

/-- Two stores of the same descriptors that agree out of a scope agree after a list of it. -/
theorem store_relist_congr {t : SampleStore} {h' : Handler} (hscope : h'.scope = h.scope)
    (hd : t.descriptors = s.descriptors)
    (inside : ∀ e ∈ listed, inScope h.scope e.2.key = true)
    (hout : ∀ k, inScope h.scope k = false → t.get? k = s.get? k) :
    (h'.takeAll generators t (relist c listed)).value.2 =
      (h.takeAll generators s (relist c listed)).value.2 := by
  refine ext_get? (by simp [hd]) fun k => ?_
  cases hk : inScope h.scope k with
  | true =>
    rw [get?_relist_of_inScope _ _ _ _ _ _ hk,
      get?_relist_of_inScope _ _ _ _ _ _ (by rw [hscope]; exact hk), hd]
  | false =>
    rw [get?_relist_of_not_inScope _ _ _ _ _ _ inside hk,
      get?_relist_of_not_inScope _ _ _ _ _ _ (by rw [hscope]; exact inside)
        (by rw [hscope]; exact hk), hout k hk]

/-- **A complete list forgets the past.** From any store and any handler, also one left in the
middle of a list, a complete list of a scope leaves no list in progress; of the scope exactly the
keys whose last object decodes, with the samples of that object; and everything else as it was.
So no past of the handler or of the scope can be told from what follows, and to repeat the list
changes nothing. -/
theorem relist_converges (inside : ∀ e ∈ listed, inScope h.scope e.2.key = true) :
    let after := (h.takeAll generators s (relist c listed)).value
    after.1 = ⟨h.scope, none⟩ ∧
    (∀ k, inScope h.scope k = true →
      (after.2.contains k = true ↔ ∃ e, last? k listed = some e ∧ e.2.decodes = true) ∧
      after.2.get? k =
        (last? k listed).bind fun e => slotsOf generators s.descriptors e.1 e.2) ∧
    (∀ k, inScope h.scope k = false → after.2.get? k = s.get? k) ∧
    (∀ relisted objects k, inScope h.scope k = true →
      (Handler.takeAll generators ⟨h.scope, relisted⟩ ⟨s.descriptors, objects⟩
        (relist c listed)).value.2.get? k = after.2.get? k) ∧
    (after.1.takeAll generators after.2 (relist c listed)).value = after := by
  intro after
  have hafter : after.1 = ⟨h.scope, none⟩ := handler_relist generators h s c listed
  refine ⟨hafter, fun k hk => ⟨contains_relist generators h s c listed k hk,
    get?_relist_of_inScope generators h s c listed k hk⟩,
    fun k hk => get?_relist_of_not_inScope generators h s c listed k inside hk, ?_, ?_⟩
  · intro relisted objects k hk
    exact (get?_relist_of_inScope generators ⟨h.scope, relisted⟩ ⟨s.descriptors, objects⟩ c listed
      k hk).trans (get?_relist_of_inScope generators h s c listed k hk).symm
  · have hstore : (after.1.takeAll generators after.2 (relist c listed)).value.2 = after.2 :=
      store_relist_congr generators h s c listed (by rw [hafter])
        (descriptors_relist generators h s c listed) inside
        fun k hk => get?_relist_of_not_inScope generators h s c listed k inside hk
    refine Prod.ext ?_ hstore
    rw [handler_relist, hafter]

end Relist

/-- A key seen before the list was broken off, one that decoded first, one that did so at last and
the imported cluster, beside a key of another scope. -/
theorem relist_converges_after_abort :
    let c := Join.importedHub.companions
    let broken : Handler := ⟨"c1/", some ["c1/old"]⟩
    let store := ((SampleStore.empty [Record.descriptor]).put "c1/old" []).put "a/a" []
    let listed : List Listed := [(c, .bare "c1" "x" true), (c, .bare "c1" "y" false),
      (c, Join.importedReport), (c, .bare "c1" "x" false), (c, .bare "c1" "y" true)]
    let after := (broken.takeAll [.clusterInfo "hub"] store (relist c listed)).value.2
    (∀ e ∈ listed, inScope broken.scope e.2.key = true) ∧
    after.get? "c1/old" = none ∧ after.get? "c1/x" = none ∧
    after.get? "c1/y" = some [[]] ∧ after.get? "a/a" = some [[]] ∧
    after.get? "c1/c1" = some
      [[Record.sample ⟨"hub", "c1", "AKS", "Azure", "v1.24.6", .other, { cpu := 4 }⟩]] := by
  intro c broken store listed after
  have inside : ∀ e ∈ listed, inScope broken.scope e.2.key = true := by decide
  obtain ⟨-, hin, hout, -⟩ :=
    relist_converges [.clusterInfo "hub"] broken store c listed inside
  refine ⟨inside, ?_, ?_, ?_, ?_, ?_⟩
  · exact (hin "c1/old" (by decide)).2
  · exact (hin "c1/x" (by decide)).2
  · exact (hin "c1/y" (by decide)).2
  · rw [hout "a/a" (by decide)]
    rfl
  · rw [(hin "c1/c1" (by decide)).2]
    decide +kernel

end FleetExporter.Watch
