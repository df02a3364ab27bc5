import FleetExporter.Proofs.ByteOrder
import FleetExporter.Proofs.Watch.Scope
import FleetExporter.Settings.Basic
import Mathlib.Data.List.Destutter
import Mathlib.Data.List.Sort

/-! Which namespaces are watched. The selection depends only on the set of names that are asked for
once blanks are taken away: it holds each of them once, in the order of their octets, and selecting
again changes nothing. Each selected namespace has one watch, which keeps its scope for ever. -/
namespace FleetExporter

/-! ## Names -/

theorem Text.trim_trim (s : String) : Text.trim (Text.trim s) = Text.trim s := by
  unfold Text.trim
  rw [String.toList_ofList, Text.trimmed_trimmed]

namespace Namespaces

/-- A name that some of the given names is when trimmed, and that is not empty. -/
def Requested (names : List String) (n : String) : Prop :=
  n ≠ "" ∧ ∃ given ∈ names, Text.trim given = n

theorem Requested.trim_eq {names : List String} {n : String} (h : Requested names n) :
    Text.trim n = n := by
  obtain ⟨-, given, -, rfl⟩ := h
  exact Text.trim_trim given

theorem mem_select_iff {names : List String} {n : String} :
    n ∈ select names ↔ Requested names n := mem_select

theorem select_eq_nil_iff {names : List String} :
    select names = [] ↔ ∀ n, ¬ Requested names n := by
  simp only [List.eq_nil_iff_forall_not_mem, mem_select_iff]

/-- Names that come to the same once trimmed are selected the same. -/
theorem select_congr {names names' : List String}
    (h : ∀ n, Requested names n ↔ Requested names' n) : select names = select names' := by
  refine (select_ascending names).eq_of_mem_iff (select_ascending names') fun n => ?_
  rw [mem_select_iff, mem_select_iff, h]

theorem requested_select_iff {names : List String} {n : String} :
    Requested (select names) n ↔ Requested names n := by
  constructor
  · rintro ⟨-, given, hgiven, rfl⟩
    have hrequested := mem_select_iff.mp hgiven
    rwa [hrequested.trim_eq]
  · intro h
    exact ⟨h.1, n, mem_select_iff.mpr h, h.trim_eq⟩

theorem select_select (names : List String) : select (select names) = select names :=
  select_congr fun _ => requested_select_iff

/-- The names may as well be trimmed first, then sorted, and of neighbours that are equal one be
kept. -/
theorem select_eq_destutter (names : List String) :
    select names =
      (((names.map Text.trim).filter (· ≠ "")).mergeSort (· ≤ ·)).destutter (· ≠ ·) := by
  obtain ⟨sorted, hsorted⟩ : ∃ sorted,
      ((names.map Text.trim).filter (· ≠ "")).mergeSort (· ≤ ·) = sorted := ⟨_, rfl⟩
  have hle : sorted.Pairwise (· ≤ ·) := hsorted ▸ List.pairwise_mergeSort' (· ≤ ·) _
  have hmem : ∀ n, n ∈ sorted ↔ Requested names n := by
    intro n
    simp only [← hsorted, List.mem_mergeSort, List.mem_filter, List.mem_map, decide_eq_true_eq,
      Requested, and_comm]
  have hlt : sorted.dedup.Pairwise (· < ·) := by
    have hboth := (hle.sublist (List.dedup_sublist sorted)).and (List.nodup_dedup sorted)
    exact hboth.imp fun h => lt_of_le_of_ne h.1 h.2
  -- in a sorted list equal names are neighbours
  rw [hsorted, hle.destutter_eq_dedup]
  refine (select_ascending names).eq_of_mem_iff hlt fun n => ?_
  rw [mem_select_iff, List.mem_dedup, hmem]

end Namespaces

/-! ## Settings -/

namespace Settings

open Namespaces (select)

theorem namespaces_of_ok {a : Arguments} {s : Settings} (h : ofArguments a = .ok s) :
    s.namespaces = select a.namespaces := by
  unfold ofArguments at h
  split at h
  · cases h
  · cases h
    rfl

theorem exists_ofArguments {a : Arguments} (h : (Address.read? a.host).isSome = true) :
    ∃ s, ofArguments a = .ok s := by
  obtain ⟨address, haddress⟩ := Option.isSome_iff_exists.mp h
  unfold ofArguments
  rw [haddress]
  exact ⟨_, rfl⟩

/-- Names that are selected already give the same settings. -/
theorem ofArguments_selected (a : Arguments) :
    ofArguments { a with namespaces := select a.namespaces } = ofArguments a := by
  unfold ofArguments
  rw [Namespaces.select_select]

end Settings

/-! ## Watches -/

namespace Watch

open Namespaces (Requested select)

theorem scopeOf_eq (ns : String) : scopeOf ns = ns ++ "/" := rfl

theorem scopeOf_injective : Function.Injective scopeOf := by
  intro ns ns' h
  rw [scopeOf_eq, scopeOf_eq, ← String.toList_inj, String.toList_append, String.toList_append] at h
  exact String.toList_inj.mp (List.append_cancel_right h)

theorem scopeOf_ne_empty (ns : String) : scopeOf ns ≠ "" := by
  intro h
  have hlist := congrArg String.toList h
  rw [scopeOf_eq, String.toList_append] at hlist
  simp at hlist

namespace Fleet

/-- The scopes of the watches, in their order. -/
def scopes (f : Fleet) : List String := f.handlers.map (·.scope)

variable (generators : List Generator) (c : Companions)

/-- A delivery neither adds a watch nor changes the scope of one. -/
theorem scopes_take (f : Fleet) (i : Nat) (d : Delivery) :
    (f.take generators c i d).value.scopes = f.scopes := by
  unfold take
  cases hi : f.handlers[i]? with
  | none => rfl
  | some h =>
    have hscope : (h.take generators c f.store d).value.1.scope = h.scope :=
      Handler.scope_take generators c h f.store d
    have hat : (f.handlers.map (·.scope))[i]? = some h.scope := by
      rw [List.getElem?_map, hi, Option.map_some]
    obtain ⟨hlt, heq⟩ := List.getElem?_eq_some_iff.mp hat
    simp only [Computation.value_bind, Computation.value_pure, scopes, List.map_set, hscope]
    rw [← heq, List.set_getElem_self]

theorem scopes_takeAll (f : Fleet) (ds : List (Nat × Delivery)) :
    (takeAll generators c f ds).value.scopes = f.scopes := by
  induction ds generalizing f with
  | nil => rfl
  | cons d ds ih =>
    obtain ⟨i, d⟩ := d
    rw [takeAll, Computation.value_bind, ih, scopes_take]

theorem scopes_run (namespaces : List String) (transcripts : List Transcript)
    (descriptors : List Descriptor) :
    (run generators c namespaces transcripts descriptors).value.scopes =
      (start namespaces descriptors).scopes := scopes_takeAll generators c _ _

theorem targets_eq (namespaces : List String) :
    targets namespaces = if namespaces = [] then [none] else namespaces.map some := by
  cases namespaces <;> rfl

theorem scope_forTarget (target : Option String) :
    (Handler.forTarget target).scope = target.elim "" scopeOf := by
  cases target <;> rfl

theorem scopes_start (namespaces : List String) (descriptors : List Descriptor) :
    (start namespaces descriptors).scopes =
      (targets namespaces).map fun target => target.elim "" scopeOf := by
  simp only [start, handlersFor, scopes, List.map_map, Function.comp_def, scope_forTarget]

/-- The watches, each opened for its target, cover what is requested: each of the names by a watch
of its own, and without any name all namespaces by one. Handlers keep to the scopes of their
watches. -/
structure Covers (names : List String) (targets : List (Option String)) (f : Fleet) : Prop where
  some_mem_iff : ∀ n, some n ∈ targets ↔ Requested names n
  none_mem_iff : none ∈ targets ↔ ∀ n, ¬ Requested names n
  scopes_eq : f.scopes = targets.map fun target => target.elim "" scopeOf
  nodup : f.scopes.Nodup
  mem_scopes_iff : ∀ scope, scope ∈ f.scopes ↔
    (∃ n, Requested names n ∧ scope = scopeOf n) ∨ (scope = "" ∧ ∀ n, ¬ Requested names n)
  all_iff : f.scopes = [""] ↔ ∀ n, ¬ Requested names n

theorem covers_of_scopes {names : List String} {f : Fleet}
    (h : f.scopes = (targets (select names)).map fun target => target.elim "" scopeOf) :
    Covers names (targets (select names)) f := by
  have hscopes := h
  by_cases hnone : select names = []
  · have hrequested := Namespaces.select_eq_nil_iff.mp hnone
    have htargets : targets (select names) = [none] := by rw [targets_eq, if_pos hnone]
    rw [htargets, List.map_singleton, Option.elim_none] at h
    refine ⟨fun n => ?_, ?_, hscopes, ?_, fun scope => ?_, iff_of_true h hrequested⟩
    · simp [htargets, hrequested]
    · simp [htargets, hrequested]
    · rw [h]
      exact List.nodup_singleton ""
    · simp [h, hrequested]
  · have hrequested := mt Namespaces.select_eq_nil_iff.mpr hnone
    have htargets : targets (select names) = (select names).map some := by
      rw [targets_eq, if_neg hnone]
    rw [htargets, List.map_map] at h
    have hmem : ∀ scope, scope ∈ f.scopes ↔ ∃ n, Requested names n ∧ scope = scopeOf n := by
      intro scope
      simp [h, Namespaces.mem_select_iff, eq_comm]
    refine ⟨fun n => ?_, ?_, hscopes, ?_, fun scope => ?_,
      iff_of_false (fun hall => ?_) hrequested⟩
    · simp [htargets, Namespaces.mem_select_iff]
    · simpa [htargets] using hrequested
    · rw [h]
      exact (Namespaces.select_ascending names).nodup.map scopeOf_injective
    · rw [hmem, or_iff_left fun hall => hrequested hall.2]
    · obtain ⟨n, -, hn⟩ := (hmem "").mp (hall ▸ List.mem_singleton_self "")
      exact scopeOf_ne_empty n hn.symm

end Fleet

end Watch

/-- **The selection of namespaces is canonical.** Arguments whose host is an address give settings
in which the namespaces stand in strictly ascending order of their octets, trimmed and not empty,
and are the names requested and no others; they are what sorting the trimmed names and keeping one
of equal neighbours gives. Other arguments that request the same names give the same selection, and
a selection is selected as it is. While it runs, every requested namespace has one watch that is
opened for it and keeps to its scope; only if no name is requested is there a watch of all
namespaces. -/
theorem selection_canonical (a : Arguments) (h : (Address.read? a.host).isSome = true) :
    ∃ s, Settings.ofArguments a = .ok s ∧
      s.namespaces.Pairwise (fun x y => Text.octets x < Text.octets y) ∧
      (∀ n ∈ s.namespaces, n ≠ "" ∧ Text.trim n = n) ∧
      (∀ n, n ∈ s.namespaces ↔ Namespaces.Requested a.namespaces n) ∧
      s.namespaces = (((a.namespaces.map Text.trim).filter (· ≠ "")).mergeSort (· ≤ ·)).destutter
        (· ≠ ·) ∧
      (∀ a' s', Settings.ofArguments a' = .ok s' →
        (∀ n, Namespaces.Requested a'.namespaces n ↔ Namespaces.Requested a.namespaces n) →
        s'.namespaces = s.namespaces) ∧
      Settings.ofArguments { a with namespaces := s.namespaces } = .ok s ∧
      ∀ generators c transcripts descriptors,
        Watch.Fleet.Covers a.namespaces (Watch.Fleet.targets s.namespaces)
          (Watch.Fleet.run generators c s.namespaces transcripts descriptors).value := by
  obtain ⟨s, hs⟩ := Settings.exists_ofArguments h
  have hselect := Settings.namespaces_of_ok hs
  refine ⟨s, hs, ?_, fun n hn => ?_, fun n => ?_, ?_, fun a' s' hs' hsame => ?_, ?_, ?_⟩
  · rw [hselect]
    exact (Namespaces.select_ascending _).imp fun hlt => (Text.lt_iff_octets_lt _ _).mp hlt
  · rw [hselect, Namespaces.mem_select_iff] at hn
    exact ⟨hn.1, hn.trim_eq⟩
  · rw [hselect, Namespaces.mem_select_iff]
  · rw [hselect, Namespaces.select_eq_destutter]
  · rw [hselect, Settings.namespaces_of_ok hs']
    exact Namespaces.select_congr hsame
  · rw [hselect, Settings.ofArguments_selected, hs]
  · intro generators c transcripts descriptors
    rw [hselect]
    refine Watch.Fleet.covers_of_scopes ?_
    rw [Watch.Fleet.scopes_run, Watch.Fleet.scopes_start]

/-! Two ways to ask for two namespaces. -/

def paddedArguments : Arguments := { namespaces := ["é", " z", "", "é"] }

def terseArguments : Arguments := { host := "::1", namespaces := ["z\t", "é"] }

theorem selection_canonical_padded :
    (Address.read? paddedArguments.host).isSome = true ∧
    ∃ s, Settings.ofArguments paddedArguments = .ok s ∧ s.namespaces = ["z", "é"] ∧
      (∃ s', Settings.ofArguments terseArguments = .ok s' ∧ s'.namespaces = s.namespaces) ∧
      ∀ generators c transcripts descriptors,
        Watch.Fleet.Covers paddedArguments.namespaces [some "z", some "é"]
          (Watch.Fleet.run generators c s.namespaces transcripts descriptors).value := by
  have haddress : (Address.read? paddedArguments.host).isSome = true := by decide
  obtain ⟨s, hs, -, -, -, -, hsame, -, hcovers⟩ := selection_canonical paddedArguments haddress
  have hselect : s.namespaces = ["z", "é"] := Settings.namespaces_of_ok hs
  have hterse : Settings.ofArguments terseArguments =
      .ok ⟨.six [0, 0, 0, 0, 0, 0, 0, 1], 8080, ["z", "é"], none, none, .json⟩ := by decide
  have htargets : Watch.Fleet.targets s.namespaces = [some "z", some "é"] := by rw [hselect]; rfl
  rw [htargets] at hcovers
  refine ⟨haddress, s, hs, hselect, ⟨_, hterse, hsame _ _ hterse fun n => ?_⟩, hcovers⟩
  have heq : Namespaces.select terseArguments.namespaces =
      Namespaces.select paddedArguments.namespaces := by decide
  rw [← Namespaces.mem_select_iff, heq, Namespaces.mem_select_iff]

end FleetExporter
