import FleetExporter.Proofs.Publication
import FleetExporter.Proofs.Watch.Crew
import Mathlib.Data.List.Induction
import Mathlib.Data.List.Nodup

/-! Watches of several namespaces on one store, interleaved in any order. The keys of a namespace
are changed by its own worker alone, so at any time they are as its handler would have left them on
a store of its own. -/
namespace FleetExporter.Watch

open SampleStore

/-- What the handler of a namespace comes to with some deliveries on a store of its own. -/
def alone (gs : List Inquirer) (c : Companions) (descriptors : List Descriptor) (ns : String)
    (ds : List Delivery) : Handler × SampleStore :=
  ((Handler.forNamespace ns).takeAll (gs.map (·.toGenerator)) (.empty descriptors)
    (ds.map fun d => ⟨c, d⟩)).value

/-- Watches of different namespaces, none with a slash, each over objects of its own. -/
structure Apart (watches : List (String × List Delivery)) : Prop where
  nodup : (watches.map (·.1)).Nodup
  plain : ∀ w ∈ watches, '/' ∉ w.1.toList
  own : ∀ w ∈ watches, ∀ d ∈ w.2, d.Of w.1

section Alone

variable (gs : List Inquirer) (c : Companions) (descriptors : List Descriptor) (ns : String)

theorem alone_concat (ds : List Delivery) (d : Delivery) :
    alone gs c descriptors ns (ds ++ [d]) =
      ((alone gs c descriptors ns ds).1.take (gs.map (·.toGenerator)) c
        (alone gs c descriptors ns ds).2 d).value := by
  rw [alone, List.map_append, List.map_singleton, Handler.takeAll_concat]
  rfl

@[simp] theorem scope_alone (ds : List Delivery) :
    (alone gs c descriptors ns ds).1.scope = scopeOf ns := Handler.scope_takeAll _ _ _ _

@[simp] theorem descriptors_alone (ds : List Delivery) :
    (alone gs c descriptors ns ds).2.descriptors = descriptors :=
  Handler.descriptors_takeAll _ _ _ _

/-- Alone, a handler stores keys of its scope only. -/
theorem get?_alone_of_not_inScope {ds : List Delivery} (own : ∀ d ∈ ds, d.Of ns) {k : String}
    (hk : inScope (scopeOf ns) k = false) : (alone gs c descriptors ns ds).2.get? k = none := by
  induction ds using List.reverseRecOn with
  | nil => exact get?_empty descriptors k
  | append_singleton ds d ih =>
    have hd : d.Of ns := own d (by simp)
    rw [alone_concat, Handler.value_take_snd,
      get?_apply_of_not_inScope _ (Handler.within_edit _ _ (scope_alone ..) hd) hk]
    exact ih fun e he => own e (by simp [he])

theorem inScope_of_get?_alone {gs : List Inquirer} {c : Companions}
    {descriptors : List Descriptor} {ns : String} {ds : List Delivery}
    (own : ∀ d ∈ ds, d.Of ns) {k : String} {v : Slots}
    (hv : (alone gs c descriptors ns ds).2.get? k = some v) : inScope (scopeOf ns) k = true := by
  by_contra hk
  rw [get?_alone_of_not_inScope gs c descriptors ns own (by simpa using hk)] at hv
  cases hv

theorem inScope_of_contains_alone {gs : List Inquirer} {c : Companions}
    {descriptors : List Descriptor} {ns : String} {ds : List Delivery}
    (own : ∀ d ∈ ds, d.Of ns) {k : String}
    (hk : (alone gs c descriptors ns ds).2.contains k = true) :
    inScope (scopeOf ns) k = true := by
  rw [contains_eq_isSome] at hk
  obtain ⟨v, hv⟩ := Option.isSome_iff_exists.mp hk
  exact inScope_of_get?_alone own hv

end Alone

/-! ## The invariant of a crew -/

section Agrees

variable (gs : List Inquirer) (c : Companions) (descriptors : List Descriptor)
  (watches : List (String × List Delivery))

/-- A worker has dealt with some first deliveries of its watch, and under the keys of its namespace
the store is as these leave it. -/
def Accounts (crew : Crew) (i : Nat) (ns : String) (inbox : List Delivery) : Prop :=
  ∃ w past later, crew.workers[i]? = some w ∧ inbox = past ++ later ∧
    w.At gs c (alone gs c descriptors ns past).1 later ∧
    ∀ k, inScope (scopeOf ns) k = true →
      crew.store.get? k = (alone gs c descriptors ns past).2.get? k

/-- Every worker accounts for its namespace, and there is nothing else in the store. -/
structure Agrees (crew : Crew) : Prop where
  descriptors_eq : crew.store.descriptors = descriptors
  length_eq : crew.workers.length = watches.length
  worker : ∀ i ns inbox, watches[i]? = some (ns, inbox) →
    Accounts gs c descriptors crew i ns inbox
  outside : ∀ k, (∀ w ∈ watches, inScope (scopeOf w.1) k = false) → crew.store.get? k = none

variable {gs c descriptors watches}

theorem agrees_start : Agrees gs c descriptors watches (Crew.start descriptors watches) where
  descriptors_eq := rfl
  length_eq := by simp [Crew.start]
  worker i ns inbox hi :=
    ⟨⟨.forNamespace ns, none, inbox⟩, [], inbox, by simp [Crew.start, hi], rfl, Or.inl rfl,
      fun k _ => rfl⟩
  outside k _ := get?_empty descriptors k

theorem Apart.not_inScope (apart : Apart watches) {i j : Nat} {v w : String × List Delivery}
    (hi : watches[i]? = some v) (hj : watches[j]? = some w) (hne : i ≠ j) {k : String}
    (hk : inScope (scopeOf w.1) k = true) : inScope (scopeOf v.1) k = false := by
  rw [← Bool.not_eq_true]
  intro hv
  have heq : v.1 = w.1 := eq_of_inScope (apart.plain v (List.mem_of_getElem? hi))
    (apart.plain w (List.mem_of_getElem? hj)) hv hk
  have hlt : i < (watches.map (·.1)).length := by
    obtain ⟨hlt, -⟩ := List.getElem?_eq_some_iff.mp hi
    simpa using hlt
  refine hne ((List.getElem?_inj hlt apart.nodup).mp ?_)
  simp [hi, hj, heq]

theorem Agrees.exists_watch {crew : Crew} (h : Agrees gs c descriptors watches crew) {i : Nat}
    {w : Worker} (hw : crew.workers[i]? = some w) : ∃ v, watches[i]? = some v := by
  obtain ⟨hlt, -⟩ := List.getElem?_eq_some_iff.mp hw
  exact ⟨_, List.getElem?_eq_getElem (h.length_eq ▸ hlt)⟩

/-- What a step does to the store is within the scope of the worker that takes it. -/
theorem Agrees.within_step {crew : Crew} (h : Agrees gs c descriptors watches crew)
    (apart : Apart watches) {i : Nat} {v : String × List Delivery} {w : Worker}
    (hv : watches[i]? = some v) (hw : crew.workers[i]? = some w) :
    (w.step gs c).2.Within (scopeOf v.1) := by
  obtain ⟨w', past, later, hw', hsplit, hat, -⟩ := h.worker i v.1 v.2 hv
  obtain rfl : w' = w := Option.some.inj (hw'.symm.trans hw)
  rcases hat.step with ⟨hkeep, -⟩ | ⟨d, rest, rfl, hedit, -⟩
  · rw [hkeep]
    trivial
  · rw [hedit]
    refine Handler.within_edit _ _ (scope_alone ..) ?_
    exact apart.own v (List.mem_of_getElem? hv) d (by simp [hsplit])

/-- A step is not seen under a key, unless that is in the scope of the worker that takes it. -/
theorem Agrees.get?_step {crew : Crew} (h : Agrees gs c descriptors watches crew)
    (apart : Apart watches) (i : Nat) {k : String}
    (hk : ∀ v, watches[i]? = some v → inScope (scopeOf v.1) k = false) :
    (crew.step gs c i).store.get? k = crew.store.get? k := by
  cases hw : crew.workers[i]? with
  | none => rw [Crew.step_of_none hw]
  | some w =>
    obtain ⟨v, hv⟩ := h.exists_watch hw
    rw [Crew.store_step hw]
    exact get?_apply_of_not_inScope _ (h.within_step apart hv hw) (hk v hv)

/-- A step of one worker is not seen under the keys of another namespace. -/
theorem Agrees.get?_step_of_ne {crew : Crew} (h : Agrees gs c descriptors watches crew)
    (apart : Apart watches) {i j : Nat} (hne : i ≠ j) {w : String × List Delivery}
    (hj : watches[j]? = some w) {k : String} (hk : inScope (scopeOf w.1) k = true) :
    (crew.step gs c i).store.get? k = crew.store.get? k :=
  h.get?_step apart i fun _ hv => apart.not_inScope hv hj hne hk

/-- The worker that takes a step goes on to account for its namespace. -/
theorem Agrees.accounts_step_self {crew : Crew} (h : Agrees gs c descriptors watches crew)
    {i : Nat} {ns : String} {inbox : List Delivery} (hi : watches[i]? = some (ns, inbox)) :
    Accounts gs c descriptors (crew.step gs c i) i ns inbox := by
  obtain ⟨w, past, later, hw, hsplit, hat, hkeys⟩ := h.worker i ns inbox hi
  have hself : (crew.step gs c i).workers[i]? = some (w.step gs c).1 :=
    Crew.getElem?_step_self hw
  have hstore : (crew.step gs c i).store = (crew.store.apply (w.step gs c).2).1 :=
    Crew.store_step hw
  rcases hat.step with ⟨hkeep, hat'⟩ | ⟨d, rest, rfl, hedit, hat'⟩
  · refine ⟨_, past, later, hself, hsplit, hat', fun k hk => ?_⟩
    rw [hstore, hkeep]
    exact hkeys k hk
  · refine ⟨_, past ++ [d], rest, hself, by simp [hsplit], ?_, fun k hk => ?_⟩
    · rw [alone_concat]
      exact hat' _
    · rw [alone_concat, Handler.value_take_snd, hstore, hedit]
      exact get?_apply_congr (by rw [h.descriptors_eq, descriptors_alone]) (hkeys k hk) _

/-- The others account for theirs as before. -/
theorem Agrees.accounts_step_of_ne {crew : Crew} (h : Agrees gs c descriptors watches crew)
    (apart : Apart watches) {i j : Nat} (hne : i ≠ j) {ns : String} {inbox : List Delivery}
    (hj : watches[j]? = some (ns, inbox)) :
    Accounts gs c descriptors (crew.step gs c i) j ns inbox := by
  obtain ⟨w, past, later, hw, hsplit, hat, hkeys⟩ := h.worker j ns inbox hj
  refine ⟨w, past, later, ?_, hsplit, hat, fun k hk => ?_⟩
  · rw [Crew.getElem?_step_of_ne crew hne]
    exact hw
  · exact (h.get?_step_of_ne apart hne hj hk).trans (hkeys k hk)

theorem Agrees.step {crew : Crew} (h : Agrees gs c descriptors watches crew)
    (apart : Apart watches) (i : Nat) : Agrees gs c descriptors watches (crew.step gs c i) := by
  refine ⟨?_, ?_, fun j ns inbox hj => ?_, fun k hk => ?_⟩
  · rw [Crew.descriptors_step, h.descriptors_eq]
  · rw [Crew.length_step, h.length_eq]
  · by_cases hij : i = j
    · subst hij
      exact h.accounts_step_self hj
    · exact h.accounts_step_of_ne apart hij hj
  · refine (h.get?_step apart i fun v hv => ?_).trans (h.outside k hk)
    exact hk v (List.mem_of_getElem? hv)

theorem Agrees.run {crew : Crew} (h : Agrees gs c descriptors watches crew)
    (apart : Apart watches) (schedule : List Nat) :
    Agrees gs c descriptors watches (crew.run gs c schedule) := by
  induction schedule generalizing crew with
  | nil => exact h
  | cons i rest ih => exact ih (h.step apart i)

/-- Once all have finished, each namespace is as its handler alone leaves it. -/
theorem Agrees.get?_of_finished {crew : Crew} (h : Agrees gs c descriptors watches crew)
    (hf : crew.Finished) {w : String × List Delivery} (hw : w ∈ watches) {k : String}
    (hk : inScope (scopeOf w.1) k = true) :
    crew.store.get? k = (alone gs c descriptors w.1 w.2).2.get? k := by
  obtain ⟨i, hi⟩ := List.getElem?_of_mem hw
  obtain ⟨worker, past, later, hworker, hsplit, hat, hkeys⟩ := h.worker i w.1 w.2 hi
  have hlater : later = [] := hat.eq_nil (hf worker (List.mem_of_getElem? hworker))
  rw [hsplit, hlater, List.append_nil]
  exact hkeys k hk

end Agrees

/-- **Watches of different namespaces do not disturb each other.** Whatever the order of their
steps, at any time what the store holds of a namespace is what its handler alone would have stored
after some first deliveries of its watch, and the steps of the others leave it so. Once all have
finished, the store is the disjoint union of what each handler alone would leave; and from
wherever the steps have led, all can finish. -/
theorem store_of_interleaving (gs : List Inquirer) (c : Companions)
    (descriptors : List Descriptor) (watches : List (String × List Delivery))
    (apart : Apart watches) (schedule : List Nat) :
    let crew := (Crew.start descriptors watches).run gs c schedule
    (∀ i ns inbox, watches[i]? = some (ns, inbox) →
      (∃ past later, inbox = past ++ later ∧ ∀ k,
        (alone gs c descriptors ns past).2.get? k =
          if inScope (scopeOf ns) k then crew.store.get? k else none) ∧
      ∀ j, j ≠ i → ∀ k, inScope (scopeOf ns) k = true →
        (crew.step gs c j).store.get? k = crew.store.get? k) ∧
    (crew.Finished →
      (∀ k v, crew.store.get? k = some v ↔
        ∃ w ∈ watches, (alone gs c descriptors w.1 w.2).2.get? k = some v) ∧
      ∀ v ∈ watches, ∀ w ∈ watches, ∀ k,
        (alone gs c descriptors v.1 v.2).2.contains k = true →
        (alone gs c descriptors w.1 w.2).2.contains k = true → v = w) ∧
    ∃ more, (crew.run gs c more).Finished := by
  intro crew
  have h : Agrees gs c descriptors watches crew := agrees_start.run apart schedule
  refine ⟨fun i ns inbox hi => ⟨?_, fun j hj k hk => h.get?_step_of_ne apart hj hi hk⟩,
    fun hf => ⟨fun k v => ⟨fun hv => ?_, ?_⟩, ?_⟩, Crew.exists_run_finished crew⟩
  · obtain ⟨-, past, later, -, rfl, -, hkeys⟩ := h.worker i ns inbox hi
    refine ⟨past, later, rfl, fun k => ?_⟩
    cases hk : inScope (scopeOf ns) k with
    | true => simpa using (hkeys k hk).symm
    | false =>
      have own := apart.own _ (List.mem_of_getElem? hi)
      simpa using get?_alone_of_not_inScope gs c descriptors ns
        (fun d hd => own d (List.mem_append_left later hd)) hk
  -- a stored key is in the scope of some watch, as nothing is stored out of all of them
  · by_cases hk : ∃ w ∈ watches, inScope (scopeOf w.1) k = true
    · obtain ⟨w, hw, hk⟩ := hk
      exact ⟨w, hw, by rw [← h.get?_of_finished hf hw hk, hv]⟩
    · rw [h.outside k fun w hw => by simpa using fun hs => hk ⟨w, hw, hs⟩] at hv
      cases hv
  · rintro ⟨w, hw, hv⟩
    rw [h.get?_of_finished hf hw (inScope_of_get?_alone (apart.own w hw) hv), hv]
  · intro v hv w hw k hkv hkw
    have hname : v.1 = w.1 := eq_of_inScope (apart.plain v hv) (apart.plain w hw)
      (inScope_of_contains_alone (apart.own v hv) hkv)
      (inScope_of_contains_alone (apart.own w hw) hkw)
    exact List.inj_on_of_nodup_map apart.nodup hv hw hname

/-- An object of one namespace is stored while a list of the other, which drops one of its own and
publishes the imported cluster, is under way. -/
theorem store_of_interleaving_during_list :
    let gs := [Inquirer.clusterInfo "hub"]
    let c := Join.importedHub.companions
    let watches : List (String × List Delivery) :=
      [("c1", [.ok (.changed (.bare "c1" "old" true)), .ok .started,
        .ok (.listed Join.importedReport), .ok .completed]),
       ("b", [.ok (.changed (.bare "b" "y" true))])]
    let schedule := [0, 0, 0, 1, 0, 0, 0, 0, 1, 0, 1, 0, 0, 0]
    let crew := (Crew.start [Record.descriptor] watches).run gs c schedule
    Apart watches ∧ crew.Finished ∧ crew.store.get? "c1/old" = none ∧
      crew.store.get? "b/y" = some [[]] ∧ crew.store.get? "c1/c1" = some
        [[Record.sample ⟨"hub", "c1", "AKS", "Azure", "v1.24.6", .other, { cpu := 4 }⟩]] := by
  intro gs c watches schedule crew
  have apart : Apart watches :=
    ⟨by decide, by decide, by simp [watches, Delivery.Of, Untyped.bare, Join.importedReport]⟩
  have finished : crew.Finished := by decide +kernel
  obtain ⟨-, union, -⟩ := store_of_interleaving gs c [Record.descriptor] watches apart schedule
  have stored := (union finished).1
  refine ⟨apart, finished, ?_, ?_, ?_⟩
  · have gone : ∀ w ∈ watches,
        (alone gs c [Record.descriptor] w.1 w.2).2.get? "c1/old" = none := by decide +kernel
    refine Option.eq_none_iff_forall_ne_some.mpr fun v hv => ?_
    obtain ⟨w, hw, hv⟩ := (stored "c1/old" v).mp hv
    rw [gone w hw] at hv
    cases hv
  · exact (stored "b/y" _).mpr ⟨_, List.mem_cons_of_mem _ List.mem_cons_self, by decide +kernel⟩
  · exact (stored "c1/c1" _).mpr ⟨_, List.mem_cons_self, by decide +kernel⟩

end FleetExporter.Watch
