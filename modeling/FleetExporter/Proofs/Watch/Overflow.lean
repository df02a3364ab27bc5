import FleetExporter.Proofs.Series
import FleetExporter.Proofs.Watch.Effect
import Mathlib.Data.List.Forall2

/-! When checked arithmetic ends a watch. All arithmetic there is in a delivery is in reading an
object anew, so a run ends where an object is shown whose managed cluster reports a quantity that
overflows, and nowhere else. Every other run comes to the store of arithmetic that wraps around. -/
namespace FleetExporter.Watch

open SampleStore

/-- An object is shown whose managed cluster, by the answers of the moment, overflows. -/
def Moment.Overflows (m : Moment) : Prop :=
  ∃ o info cluster, m.delivery.shown? = some o ∧ ManagedClusterInfo.decode o = .ok info ∧
    (m.companions.cluster info.name).value = .ok (some cluster) ∧ cluster.Overflows

namespace Handler

theorem overflowed_families (hub : String) (c : Companions) (info : ManagedClusterInfo) :
    (Generator.families c info [.clusterInfo hub]).overflowed =
      (Join.join hub c info).overflowed := by
  simp [Generator.families, Generator.family, Generator.clusterInfo]

theorem overflowed_refresh (hub : String) (c : Companions) (o : Untyped) :
    (refresh [.clusterInfo hub] c o).overflowed = true ↔
      ∃ info cluster, ManagedClusterInfo.decode o = .ok info ∧
        (c.cluster info.name).value = .ok (some cluster) ∧ cluster.Overflows := by
  unfold refresh
  cases ManagedClusterInfo.decode o with
  | error e => simp
  | ok info => simp [overflowed_families, Join.overflowed_join]

/-- Of resembling objects, checked arithmetic ends the reading of both or of neither. -/
theorem overflowed_refresh_congr (hub : String) {o o' : Untyped} {c c' : Companions}
    (h : o.Resembles o') (hanswers : c.Resemble o.metadata.nameAny c') :
    (refresh [.clusterInfo hub] c o).overflowed =
      (refresh [.clusterInfo hub] c' o').overflowed := by
  unfold refresh
  rcases h.decode_cases with ⟨e, e', he, he'⟩ | ⟨info, info', ho, ho', hname, hsame, -⟩
  · rw [he, he']
    rfl
  · rw [← hname] at hanswers
    simp [ho, ho', overflowed_families, Join.overflowed_join_congr hub hsame hanswers]

end Handler

/-- Checked arithmetic ends at a moment where it ends the reading of the object shown. -/
theorem Moment.overflows_iff (hub : String) (m : Moment) :
    m.Overflows ↔ ∃ o, m.delivery.shown? = some o ∧
      (Handler.refresh [.clusterInfo hub] m.companions o).overflowed = true := by
  simp only [Moment.Overflows, Handler.overflowed_refresh, exists_and_left]

theorem Moment.Resembles.overflows_iff {m m' : Moment} (h : m.Resembles m') :
    m.Overflows ↔ m'.Overflows := by
  obtain ⟨c, d⟩ := m
  obtain ⟨c', d'⟩ := m'
  obtain ⟨hdelivery, hanswers⟩ := h
  rw [Moment.overflows_iff "", Moment.overflows_iff ""]
  cases hdelivery with
  | failed f f' => simp [Delivery.shown?]
  | started => simp [Delivery.shown?]
  | listed ho => simp [Delivery.shown?, Handler.overflowed_refresh_congr "" ho (hanswers _ rfl)]
  | completed => simp [Delivery.shown?]
  | changed ho => simp [Delivery.shown?, Handler.overflowed_refresh_congr "" ho (hanswers _ rfl)]
  | removed ho => simp [Delivery.shown?]

theorem exists_mem_congr {α : Type} {R : α → α → Prop} {p : α → Prop} {l l' : List α}
    (hR : ∀ a b, R a b → (p a ↔ p b)) (h : List.Forall₂ R l l') :
    (∃ a ∈ l, p a) ↔ ∃ b ∈ l', p b := by
  induction h with
  | nil => simp
  | cons hab _ ih => simp only [List.exists_mem_cons_iff, hR _ _ hab, ih]

/-! ## Runs -/

namespace Handler

/-- Neither the handler nor what is stored has a part in how a delivery ends. -/
theorem overflowed_take (hub : String) (h : Handler) (s : SampleStore) (m : Moment) :
    (h.take [.clusterInfo hub] m.companions s m.delivery).overflowed = true ↔ m.Overflows := by
  rw [Moment.overflows_iff hub]
  obtain ⟨c, f | e⟩ := m
  · simp [take, Delivery.shown?]
  · cases e with
    | started => simp [take, handle, plan, Delivery.shown?]
    | listed o => simp [take, handle, plan, Delivery.shown?]
    | completed =>
      obtain ⟨scope, _ | seen⟩ := h <;> simp [take, handle, plan, Delivery.shown?]
    | changed o => simp [take, handle, plan, Delivery.shown?]
    | removed o => simp [take, handle, plan, Delivery.shown?]

/-- A run ends where one of its moments overflows, and only there. -/
theorem overflowed_takeAll (hub : String) (h : Handler) (s : SampleStore)
    (history : List Moment) :
    (h.takeAll [.clusterInfo hub] s history).overflowed = true ↔
      ∃ m ∈ history, m.Overflows := by
  induction history generalizing h s with
  | nil => simp [takeAll]
  | cons m rest ih =>
    rw [takeAll, Computation.overflowed_bind, Bool.or_eq_true, overflowed_take, ih,
      List.exists_mem_cons_iff]

end Handler

/-- The store that checked arithmetic comes to; none if it ends on the way. -/
def exported? (hub scope : String) (history : List Moment) : Option SampleStore :=
  ((Handler.mk scope none).takeAll [.clusterInfo hub] (.empty [Record.descriptor])
    history).checked.map (·.2)

theorem exported?_eq_none_iff {hub scope : String} {history : List Moment} :
    exported? hub scope history = none ↔ ∃ m ∈ history, m.Overflows := by
  rw [exported?, Option.map_eq_none_iff, Computation.checked_eq_none_iff,
    Handler.overflowed_takeAll]

theorem eq_exported_of_exported? {hub scope : String} {history : List Moment} {s : SampleStore}
    (h : exported? hub scope history = some s) : s = exported hub scope history := by
  obtain ⟨x, hx, rfl⟩ := Option.map_eq_some_iff.mp h
  obtain ⟨-, rfl⟩ := Computation.checked_eq_some_iff.mp hx
  rfl

/-- Histories that show the join the same leave the same store, in either arithmetic. -/
theorem exported_congr {hub scope : String} {past past' : List Moment}
    (h : List.Forall₂ Moment.Resembles past past') :
    exported hub scope past = exported hub scope past' ∧
      exported? hub scope past = exported? hub scope past' := by
  have hvalue := Handler.takeAll_congr [.clusterInfo hub] (.mk scope none)
    (.empty [Record.descriptor]) (map_effect_congr hub [Record.descriptor] h)
  have hends : ((Handler.mk scope none).takeAll [.clusterInfo hub] (.empty [Record.descriptor])
      past).overflowed = ((Handler.mk scope none).takeAll [.clusterInfo hub]
        (.empty [Record.descriptor]) past').overflowed := by
    rw [Bool.eq_iff_iff, Handler.overflowed_takeAll, Handler.overflowed_takeAll]
    exact exists_mem_congr (fun _ _ hm => hm.overflows_iff) h
  exact ⟨congrArg Prod.snd hvalue, by simp only [exported?, Computation.checked, hvalue, hends]⟩

/-- It is the store of a fleet that has one watch. -/
theorem checked_takeAll_eq_exported? (hub scope : String) (c : Companions) (ds : List Delivery) :
    (Fleet.takeAll [.clusterInfo hub] c ⟨[⟨scope, none⟩], .empty [Record.descriptor]⟩
      (ds.map (0, ·))).checked.map (·.store) = exported? hub scope (ds.map (⟨c, ·⟩)) := by
  rw [Fleet.checked_takeAll_alone, Option.map_map, exported?]
  rfl

end FleetExporter.Watch
