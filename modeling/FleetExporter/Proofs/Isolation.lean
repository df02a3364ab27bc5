import FleetExporter.Proofs.Watch.Overflow
import FleetExporter.Proofs.WellFormed

/-! The fleet apart from one name. Two histories may differ in everything that is delivered about
the objects of one name, and in every answer about it: what is stored and scraped of all other
objects is the same. Only a quantity of that name that overflows, in checked arithmetic, ends the
watch of them all. -/
namespace FleetExporter

/-! ## Names and keys -/

/-- The name in a key: what stands behind the first slash. -/
def nameIn (key : String) : String := String.ofList ((key.toList.dropWhile (· ≠ '/')).drop 1)

/-- An object whose namespace is without a slash, as all namespaces are. -/
def Untyped.Plain (o : Untyped) : Prop := '/' ∉ (o.metadata.namespaceName.getD "").toList

theorem nameIn_key {o : Untyped} (h : o.Plain) : nameIn o.key = o.metadata.nameAny := by
  have hkey : o.key.toList =
      (o.metadata.namespaceName.getD "").toList ++ '/' :: o.metadata.nameAny.toList := by
    simp [Untyped.key, Metadata.key]
  have hbefore : ∀ c ∈ (o.metadata.namespaceName.getD "").toList, decide (c ≠ '/') = true := by
    intro c hc
    simp only [decide_eq_true_eq]
    rintro rfl
    exact h hc
  rw [nameIn, hkey, List.dropWhile_append_of_pos hbefore]
  simp

example : nameIn "ns/c1" = "c1" := by decide

namespace Watch

open SampleStore

/-! ## Histories that differ about one name -/

/-- Whether a delivery is about an object of a name. -/
def Delivery.isAbout (n : String) (d : Delivery) : Bool :=
  d.object?.any fun o => o.metadata.nameAny = n

/-- A history without all that is delivered about one name. -/
def without (n : String) (history : List Moment) : List Moment :=
  history.filter fun m => !m.delivery.isAbout n

/-- Moments of the same delivery, with answers that differ about one name at most. -/
structure Moment.SameBut (n : String) (m m' : Moment) : Prop where
  delivery_eq : m.delivery = m'.delivery
  alike : ∀ name, name ≠ n → m.companions.Alike name m'.companions

/-- Histories that are the same but for what is delivered and answered about one name. -/
structure SameBut (n : String) (past past' : List Moment) : Prop where
  plain : ∀ m ∈ past ++ past', ∀ o, m.delivery.object? = some o → o.Plain
  pairs : List.Forall₂ (Moment.SameBut n) (without n past) (without n past')

section Effects

variable (hub : String) (descriptors : List Descriptor) {n : String}

/-- An effect that may be seen under the key of another name is not about this one. -/
theorem not_isAbout_of_bears {m : Moment}
    (hplain : ∀ o, m.delivery.object? = some o → o.Plain)
    (hbears : (m.effect [.clusterInfo hub] descriptors).bears (nameIn · ≠ n) = true) :
    m.delivery.isAbout n = false := by
  rw [Effect.bears, key?_effect] at hbears
  unfold Delivery.isAbout
  cases ho : m.delivery.object? with
  | none => rfl
  | some o => simpa [ho, nameIn_key (hplain o ho)] using hbears

/-- What is delivered about a name can only be seen under the keys of that name. -/
theorem filter_effects_without {past : List Moment}
    (hplain : ∀ m ∈ past, ∀ o, m.delivery.object? = some o → o.Plain) :
    ((without n past).map (Moment.effect [.clusterInfo hub] descriptors)).filter
        (Effect.bears (nameIn · ≠ n)) =
      (past.map (Moment.effect [.clusterInfo hub] descriptors)).filter
        (Effect.bears (nameIn · ≠ n)) := by
  rw [without, List.filter_map, List.filter_map, List.filter_filter]
  -- of the two conditions on the left, the one on the effect gives the one on the delivery
  refine congrArg _ (List.filter_congr fun m hm => ?_)
  have himp := not_isAbout_of_bears hub descriptors (n := n) (hplain m hm)
  simp only [Function.comp_apply, Bool.and_eq_left_iff_imp, Bool.not_eq_true']
  exact himp

/-- Moments that are not about a name show the join the same if they differ about it alone. -/
theorem Moment.SameBut.resembles {m m' : Moment} (hm : m.delivery.isAbout n = false)
    (h : m.SameBut n m') : m.Resembles m' := by
  refine .of_alike h.delivery_eq fun o ho => h.alike _ ?_
  simpa [Delivery.isAbout, ho] using hm

theorem isAbout_of_mem_without {past : List Moment} {m : Moment} (hm : m ∈ without n past) :
    m.delivery.isAbout n = false := by
  simpa using (List.mem_filter.mp hm).2

theorem SameBut.resemble_without {past past' : List Moment} (h : SameBut n past past') :
    List.Forall₂ Moment.Resembles (without n past) (without n past') := by
  have hpairs := (List.forall₂_and_left _ _).mpr
    ⟨fun m hm => isAbout_of_mem_without (n := n) hm, h.pairs⟩
  exact hpairs.imp fun m m' hm => hm.2.resembles hm.1

theorem SameBut.filter_effects_eq {past past' : List Moment} (h : SameBut n past past') :
    (past.map (Moment.effect [.clusterInfo hub] descriptors)).filter
        (Effect.bears (nameIn · ≠ n)) =
      (past'.map (Moment.effect [.clusterInfo hub] descriptors)).filter
        (Effect.bears (nameIn · ≠ n)) := by
  rw [← filter_effects_without hub descriptors fun m hm => h.plain m (List.mem_append_left _ hm),
    ← filter_effects_without hub descriptors fun m hm => h.plain m (List.mem_append_right _ hm),
    map_effect_congr hub descriptors h.resemble_without]

end Effects

/-- What one handler leaves under the keys of other names is the same. -/
theorem SameBut.get?_exported {n : String} {past past' : List Moment} (h : SameBut n past past')
    (hub scope : String) {k : String} (hk : nameIn k ≠ n) :
    (exported hub scope past).get? k = (exported hub scope past').get? k := by
  -- both runs are compared with the run of the effects that they share
  have hagree := agreeOn_foldl_of_filter_eq (p := (nameIn · ≠ n))
    (h.filter_effects_eq hub [Record.descriptor])
    (Handler.mk scope none, SampleStore.empty [Record.descriptor])
  have hkeys := hagree.get?_eq k hk
  unfold exported
  rw [Handler.takeAll_eq_foldl, Handler.takeAll_eq_foldl]
  exact hkeys

/-- Where nothing of the name overflows, it is the others that decide whether something does. -/
theorem exists_overflows_without {n : String} {past : List Moment}
    (h : ∀ m ∈ past, m.delivery.isAbout n = true → ¬ m.Overflows) :
    (∃ m ∈ past, m.Overflows) ↔ ∃ m ∈ without n past, m.Overflows := by
  constructor
  · rintro ⟨m, hm, hoverflows⟩
    have habout : m.delivery.isAbout n ≠ true := fun habout => h m hm habout hoverflows
    exact ⟨m, List.mem_filter.mpr ⟨hm, by simpa using habout⟩, hoverflows⟩
  · rintro ⟨m, hm, hoverflows⟩
    exact ⟨m, List.mem_of_mem_filter hm, hoverflows⟩

/-- Checked arithmetic ends both runs or neither, unless something of the name overflows. -/
theorem SameBut.exported?_eq_none_iff {n : String} {past past' : List Moment}
    (h : SameBut n past past') (hub scope : String)
    (hkept : ∀ m ∈ past ++ past', m.delivery.isAbout n = true → ¬ m.Overflows) :
    exported? hub scope past = none ↔ exported? hub scope past' = none := by
  obtain ⟨hone, hother⟩ := List.forall_mem_append.mp hkept
  rw [Watch.exported?_eq_none_iff, Watch.exported?_eq_none_iff, exists_overflows_without hone,
    exists_overflows_without hother]
  exact exists_mem_congr (fun _ _ hm => hm.overflows_iff) h.resemble_without

/-- **One cluster is no other's trouble, unless it overflows.** Two runs of a handler whose
histories are the same but for one name, whatever is delivered and answered about that name in
either of them: under all keys of other names the stores hold the same, and of the lines that the
two scrapes consist of, those of other names are the same in the same order. These are the stores of
arithmetic that wraps around, and of checked arithmetic where it comes to one. It comes to none when
a managed cluster that overflows is found for an object shown, of any name; short of that for the
name in question, it comes to a store in both runs or in neither. A fleet with one watch, under
answers that stay the same, is such a run. -/
theorem isolation (hub scope n : String) (past past' : List Moment) (h : SameBut n past past') :
    let s := exported hub scope past
    let s' := exported hub scope past'
    (∀ k, nameIn k ≠ n → s.get? k = s'.get? k) ∧
    ((s.lines Record.descriptor 0).filter fun l => nameIn l.1 ≠ n) =
      ((s'.lines Record.descriptor 0).filter fun l => nameIn l.1 ≠ n) ∧
    s.ReadsByLine Record.descriptor ∧ s'.ReadsByLine Record.descriptor ∧
    (∀ history x, exported? hub scope history = some x → x = exported hub scope history) ∧
    (∀ history, exported? hub scope history = none ↔ ∃ m ∈ history, m.Overflows) ∧
    ((∀ m ∈ past ++ past', m.delivery.isAbout n = true → ¬ m.Overflows) →
      (exported? hub scope past = none ↔ exported? hub scope past' = none)) ∧
    ∀ (c : Companions) (ds : List Delivery),
      (Fleet.takeAll [.clusterInfo hub] c ⟨[⟨scope, none⟩], .empty [Record.descriptor]⟩
        (ds.map (0, ·))).checked.map (·.store) = exported? hub scope (ds.map (⟨c, ·⟩)) := by
  intro s s'
  have hs : Exports hub s := exports_exported hub scope past
  have hs' : Exports hub s' := exports_exported hub scope past'
  have hstored : ∀ k, nameIn k ≠ n → s.get? k = s'.get? k :=
    fun k hk => h.get?_exported hub scope hk
  refine ⟨hstored, ?_, hs.readsByLine, hs'.readsByLine, fun _ _ hx => eq_exported_of_exported? hx,
    fun _ => exported?_eq_none_iff, h.exported?_eq_none_iff hub scope,
    checked_takeAll_eq_exported? hub scope⟩
  refine filter_lines_congr (p := fun k => nameIn k ≠ n)
    (hs.descriptors_eq.trans hs'.descriptors_eq.symm) (fun k hk => hstored k ?_) _ 0
  simpa using hk

/-! The imported cluster, alone and beside another one. -/

/-- A hub that has something to say about a second cluster. -/
def hubBeside (second : Entry) : Directory where
  clusters := [("c2", second), ("c1", .object Join.importedObject)]

def quietHistory : List Moment :=
  [.ok .started, .ok (.listed Join.importedReport), .ok .completed].map
    (⟨Join.importedHub.companions, ·⟩)

def historyBeside (second : Entry) : List Moment :=
  [.ok (.changed (.bare "c2" "c2" true)), .ok .started, .ok (.listed Join.importedReport),
    .ok (.listed (.bare "c2" "c2" false)), .ok .completed,
    .ok (.removed (.bare "c2" "c2" true))].map (⟨(hubBeside second).companions, ·⟩)

theorem alike_hubBeside (second : Entry) {name : String} (h : name ≠ "c2") :
    Join.importedHub.companions.Alike name (hubBeside second).companions := by
  have hlookup :
      Join.importedHub.clusters.lookup name = (hubBeside second).clusters.lookup name := by
    simp only [Join.importedHub, hubBeside, List.lookup_cons, beq_false_of_ne h]
  refine ⟨?_, Iff.rfl⟩
  simp only [Directory.companions, Traced.value_bind, Traced.value_pure, hlookup]

theorem sameBut_beside (second : Entry) : SameBut "c2" quietHistory (historyBeside second) where
  plain := by
    simp [quietHistory, historyBeside, Delivery.object?, Untyped.Plain, Untyped.bare,
      Join.importedReport]
  pairs := by
    have hquiet : without "c2" quietHistory = quietHistory := rfl
    have hbeside : without "c2" (historyBeside second) =
        [.ok .started, .ok (.listed Join.importedReport), .ok .completed].map
          (⟨(hubBeside second).companions, ·⟩) := rfl
    have hsame : ∀ d, Moment.SameBut "c2" ⟨Join.importedHub.companions, d⟩
        ⟨(hubBeside second).companions, d⟩ :=
      fun d => ⟨rfl, fun _ hname => alike_hubBeside second hname⟩
    rw [hquiet, hbeside]
    exact .cons (hsame _) (.cons (hsame _) (.cons (hsame _) .nil))

/-- A second cluster that no one can look up. -/
def unreachable : Entry := .failing (.request (.unreachable "connection refused"))

theorem isolation_from_unreachable :
    SameBut "c2" quietHistory (historyBeside unreachable) ∧
      ∃ s, exported? "hub" "" (historyBeside unreachable) = some s ∧
        s.get? "c1/c1" = some (slotsOfRecord
          (some ⟨"hub", "c1", "AKS", "Azure", "v1.24.6", .other, { cpu := 4 }⟩)) := by
  have hsame := sameBut_beside unreachable
  obtain ⟨hstored, -, -, -, hchecked, -⟩ := isolation "hub" "" "c2" _ _ hsame
  obtain ⟨s, hs⟩ := Option.isSome_iff_exists.mp
    (show (exported? "hub" "" (historyBeside unreachable)).isSome = true by decide +kernel)
  refine ⟨hsame, s, hs, ?_⟩
  rw [hchecked _ s hs, ← hstored "c1/c1" (by decide)]
  decide +kernel

/-- A second cluster that overflows ends the watch in checked arithmetic, before the first one is in
the store, which alone is published. -/
theorem ends_beside_finelyCounted :
    SameBut "c2" quietHistory (historyBeside (.object (Join.finelyCounted "c2"))) ∧
    exported? "hub" "" (historyBeside (.object (Join.finelyCounted "c2"))) = none ∧
    ∃ s, exported? "hub" "" quietHistory = some s ∧
      s.get? "c1/c1" = some (slotsOfRecord
        (some ⟨"hub", "c1", "AKS", "Azure", "v1.24.6", .other, { cpu := 4 }⟩)) := by
  obtain ⟨s, hs⟩ := Option.isSome_iff_exists.mp
    (show (exported? "hub" "" quietHistory).isSome = true by decide +kernel)
  refine ⟨sameBut_beside _, Option.isNone_iff_eq_none.mp (by decide +kernel), s, hs, ?_⟩
  rw [eq_exported_of_exported? hs]
  decide +kernel

end Watch

end FleetExporter
