import FleetExporter.Proofs.Resemblance

/-! What a delivery comes to once its object is read and its companions are asked. A run depends on
its history through these effects alone, and what it leaves under some keys only on those of them
that are not about other keys. -/
namespace FleetExporter

namespace SampleStore

/-- Sets what is under a key, or drops the key. -/
def set (s : SampleStore) (key : String) : Option Slots → SampleStore
  | none => s.drop key
  | some v => { s with objects := s.objects.insert key v }

theorem get?_set (s : SampleStore) (key : String) (v : Option Slots) (k : String) :
    (s.set key v).get? k = if key = k then v else s.get? k := by
  cases v with
  | none => exact get?_drop s key k
  | some v =>
    simp [set, get?, Std.ExtTreeMap.getElem?_insert, Std.LawfulEqCmp.compare_eq_iff_eq]

theorem refreshed_eq_set (generators : List Generator) (c : Companions) (o : Untyped)
    (s : SampleStore) :
    s.refreshed generators c o = s.set o.key (slotsOf generators s.descriptors c o) := by
  unfold refreshed slotsOf Watch.Handler.refresh
  cases ManagedClusterInfo.decode o <;> rfl

end SampleStore

namespace Watch

open SampleStore

/-- What a delivery asks of a handler and its store. -/
inductive Effect where
  | idle
  | started
  | completed
  | shown (listed : Bool) (key : String) (slots : Option Slots)
  | removed (key : String)

namespace Effect

/-- The key that an effect is about, if it is about one. -/
def key? : Effect → Option String
  | shown _ key _ => some key
  | removed key => some key
  | _ => none

/-- A handler and its store after an effect. -/
def apply : Handler × SampleStore → Effect → Handler × SampleStore
  | (h, s), idle => (h, s)
  | (h, s), started => ({ h with relisted := some [] }, s)
  | (h, s), completed =>
    ({ h with relisted := none }, h.relisted.elim s fun seen => s.prune h.scope seen.contains)
  | (h, s), shown listed key slots =>
    (if listed && slots.isSome then h.see key else h, s.set key slots)
  | (h, s), removed key => (h, s.drop key)

end Effect

/-- What a delivery comes to, by the answers of its moment. -/
def Moment.effect (generators : List Generator) (descriptors : List Descriptor) (m : Moment) :
    Effect :=
  match m.delivery with
  | .error _ => .idle
  | .ok .started => .started
  | .ok (.listed o) => .shown true o.key (slotsOf generators descriptors m.companions o)
  | .ok .completed => .completed
  | .ok (.changed o) => .shown false o.key (slotsOf generators descriptors m.companions o)
  | .ok (.removed o) => .removed o.key

/-- A handler takes a delivery as its effect. -/
theorem Handler.take_eq_apply (generators : List Generator) (h : Handler) (s : SampleStore)
    (m : Moment) :
    (h.take generators m.companions s m.delivery).value =
      Effect.apply (h, s) (m.effect generators s.descriptors) := by
  obtain ⟨c, f | e⟩ := m
  · rfl
  · cases e with
    | started => rfl
    | listed o =>
      simp [Moment.effect, Effect.apply, refreshed_eq_set, isSome_slotsOf]
    | completed => exact take_completed generators c h s
    | changed o => simp [Moment.effect, Effect.apply, refreshed_eq_set]
    | removed o => rfl

/-- A history is taken as the effects of its deliveries, one after the other. -/
theorem Handler.takeAll_eq_foldl (generators : List Generator) (h : Handler) (s : SampleStore)
    (history : List Moment) :
    (h.takeAll generators s history).value =
      (history.map (Moment.effect generators s.descriptors)).foldl Effect.apply (h, s) := by
  induction history generalizing h s with
  | nil => rfl
  | cons m rest ih =>
    rw [takeAll_cons, ih, descriptors_take, List.map_cons, List.foldl_cons, take_eq_apply]

theorem Handler.takeAll_congr (generators : List Generator) (h : Handler) (s : SampleStore)
    {past past' : List Moment}
    (heffects : past.map (Moment.effect generators s.descriptors) =
      past'.map (Moment.effect generators s.descriptors)) :
    (h.takeAll generators s past).value = (h.takeAll generators s past').value := by
  rw [takeAll_eq_foldl, takeAll_eq_foldl, heffects]

/-! ## What is left under some keys -/

/-- Two handlers of one scope that miss, and two stores that hold, the same under some keys. -/
structure AgreeOn (p : String → Prop) (x y : Handler × SampleStore) : Prop where
  scope_eq : x.1.scope = y.1.scope
  misses_eq : ∀ k, p k → x.1.misses k = y.1.misses k
  get?_eq : ∀ k, p k → x.2.get? k = y.2.get? k

namespace AgreeOn

variable {p : String → Prop} {x y z : Handler × SampleStore}

theorem refl (p : String → Prop) (x : Handler × SampleStore) : AgreeOn p x x :=
  ⟨rfl, fun _ _ => rfl, fun _ _ => rfl⟩

theorem symm (h : AgreeOn p x y) : AgreeOn p y x :=
  ⟨h.scope_eq.symm, fun k hk => (h.misses_eq k hk).symm, fun k hk => (h.get?_eq k hk).symm⟩

theorem trans (h : AgreeOn p x y) (h' : AgreeOn p y z) : AgreeOn p x z :=
  ⟨h.scope_eq.trans h'.scope_eq, fun k hk => (h.misses_eq k hk).trans (h'.misses_eq k hk),
    fun k hk => (h.get?_eq k hk).trans (h'.get?_eq k hk)⟩

end AgreeOn

section Apply

variable {p : String → Prop} {x y : Handler × SampleStore}

theorem get?_apply_completed (x : Handler × SampleStore) (k : String) :
    (Effect.apply x .completed).2.get? k =
      if inScope x.1.scope k ∧ x.1.misses k = true then none else x.2.get? k := by
  obtain ⟨⟨scope, _ | seen⟩, s⟩ := x
  · simp [Effect.apply, Handler.misses]
  · simp [Effect.apply, get?_prune, Handler.misses]

/-- The same effect leaves the same under keys where there was the same. -/
theorem AgreeOn.apply (h : AgreeOn p x y) (e : Effect) :
    AgreeOn p (Effect.apply x e) (Effect.apply y e) := by
  cases e with
  | idle => exact h
  | started => exact ⟨h.scope_eq, fun _ _ => rfl, h.get?_eq⟩
  | completed =>
    refine ⟨h.scope_eq, fun _ _ => rfl, fun k hk => ?_⟩
    rw [get?_apply_completed, get?_apply_completed, h.scope_eq, h.misses_eq k hk, h.get?_eq k hk]
  | shown listed key slots =>
    refine ⟨?_, fun k hk => ?_, fun k hk => ?_⟩
    · simp only [Effect.apply]
      split <;> exact h.scope_eq
    · simp only [Effect.apply]
      split
      · rw [Handler.misses_see, Handler.misses_see, h.misses_eq k hk]
      · exact h.misses_eq k hk
    · simp only [Effect.apply, get?_set, h.get?_eq k hk]
  | removed key =>
    refine ⟨h.scope_eq, h.misses_eq, fun k hk => ?_⟩
    simp only [Effect.apply, get?_drop, h.get?_eq k hk]

/-- An effect about another key leaves all as it was. -/
theorem agreeOn_apply_of_key {e : Effect} {key : String} (he : e.key? = some key)
    (hkey : ¬ p key) (x : Handler × SampleStore) : AgreeOn p (Effect.apply x e) x := by
  have hne : ∀ k, p k → key ≠ k := by
    rintro k hk rfl
    exact hkey hk
  cases e with
  | idle => cases he
  | started => cases he
  | completed => cases he
  | shown listed key' slots =>
    obtain rfl : key' = key := Option.some.inj he
    refine ⟨?_, fun k hk => ?_, fun k hk => ?_⟩
    · simp only [Effect.apply]
      split <;> rfl
    · simp only [Effect.apply]
      split
      · simp [Handler.misses_see, hne k hk]
      · rfl
    · exact (get?_set x.2 key' slots k).trans (if_neg (hne k hk))
  | removed key' =>
    obtain rfl : key' = key := Option.some.inj he
    exact ⟨rfl, fun _ _ => rfl, fun k hk => (get?_drop x.2 key' k).trans (if_neg (hne k hk))⟩

theorem AgreeOn.foldl (h : AgreeOn p x y) (effects : List Effect) :
    AgreeOn p (effects.foldl Effect.apply x) (effects.foldl Effect.apply y) := by
  induction effects generalizing x y with
  | nil => exact h
  | cons e rest ih => exact ih (h.apply e)

variable [DecidablePred p]

variable (p) in
/-- An effect that may be seen under the keys of a property. -/
def Effect.bears (e : Effect) : Bool := e.key?.all fun key => p key

/-- Effects about other keys may be left out. -/
theorem agreeOn_foldl_filter (effects : List Effect) (x : Handler × SampleStore) :
    AgreeOn p (effects.foldl Effect.apply x)
      ((effects.filter (Effect.bears p)).foldl Effect.apply x) := by
  induction effects generalizing x with
  | nil => exact .refl p x
  | cons e rest ih =>
    rw [List.foldl_cons, List.filter_cons]
    split
    · exact ih _
    · rename_i hbears
      cases he : e.key? with
      | none => exact absurd (by simp [Effect.bears, he]) hbears
      | some key =>
        have hkey : ¬ p key := by simpa [Effect.bears, he] using hbears
        exact ((agreeOn_apply_of_key he hkey x).foldl rest).trans (ih x)

/-- Two runs of the same effects about some keys leave the same under these keys. -/
theorem agreeOn_foldl_of_filter_eq {effects effects' : List Effect}
    (h : effects.filter (Effect.bears p) = effects'.filter (Effect.bears p))
    (x : Handler × SampleStore) :
    AgreeOn p (effects.foldl Effect.apply x) (effects'.foldl Effect.apply x) := by
  have hfiltered := agreeOn_foldl_filter (p := p) effects x
  rw [h] at hfiltered
  exact hfiltered.trans (agreeOn_foldl_filter effects' x).symm

end Apply

/-! ## Which answers matter -/

/-- The object that a delivery is about, if it is about one. -/
def Delivery.object? : Delivery → Option Untyped
  | .ok (.listed o) => some o
  | .ok (.changed o) => some o
  | .ok (.removed o) => some o
  | _ => none

theorem key?_effect (generators : List Generator) (descriptors : List Descriptor) (m : Moment) :
    (m.effect generators descriptors).key? = m.delivery.object?.map Untyped.key := by
  obtain ⟨c, f | e⟩ := m
  · rfl
  · cases e <;> rfl

/-- What is stored of an object depends on no more than what the join reads. -/
theorem slotsOf_of_resembles (hub : String) (descriptors : List Descriptor) {o o' : Untyped}
    {c c' : Companions} (h : o.Resembles o') (hanswers : c.Resemble o.metadata.nameAny c') :
    slotsOf [.clusterInfo hub] descriptors c o = slotsOf [.clusterInfo hub] descriptors c' o' := by
  unfold slotsOf
  rcases h.decode_cases with ⟨e, e', he, he'⟩ | ⟨info, info', ho, ho', hname, hsame, hreport⟩
  · rw [he, he']
  · rw [← hname] at hanswers
    have hjoin := Join.value_join_of_resembles hub hsame hreport hanswers
    rw [ho, ho']
    simp only [Generator.families, Generator.family, Generator.clusterInfo, Computation.value_bind,
      Computation.value_pure, hjoin]

/-- Deliveries of one shape, about objects of which the join reads the same. Of an object that is
removed nothing but its key is read. -/
inductive Delivery.Resembles : Delivery → Delivery → Prop
  | failed (f f' : Failure) : Resembles (.error f) (.error f')
  | started : Resembles (.ok .started) (.ok .started)
  | listed {o o' : Untyped} (h : o.Resembles o') : Resembles (.ok (.listed o)) (.ok (.listed o'))
  | completed : Resembles (.ok .completed) (.ok .completed)
  | changed {o o' : Untyped} (h : o.Resembles o') :
    Resembles (.ok (.changed o)) (.ok (.changed o'))
  | removed {o o' : Untyped} (h : o.Namesake o') :
    Resembles (.ok (.removed o)) (.ok (.removed o'))

theorem Delivery.Resembles.refl (d : Delivery) : d.Resembles d := by
  rcases d with f | e
  · exact .failed f f
  · cases e with
    | started => exact .started
    | listed o => exact .listed (.refl o)
    | completed => exact .completed
    | changed o => exact .changed (.refl o)
    | removed o => exact .removed ⟨rfl, rfl⟩

/-- Moments of resembling deliveries, with resembling answers for the object of the delivery. -/
structure Moment.Resembles (m m' : Moment) : Prop where
  delivery : m.delivery.Resembles m'.delivery
  answers : ∀ o, m.delivery.object? = some o →
    m.companions.Resemble o.metadata.nameAny m'.companions

/-- Moments that show the join the same come to the same. -/
theorem Moment.Resembles.effect_eq (hub : String) (descriptors : List Descriptor) {m m' : Moment}
    (h : m.Resembles m') :
    m.effect [.clusterInfo hub] descriptors = m'.effect [.clusterInfo hub] descriptors := by
  obtain ⟨c, d⟩ := m
  obtain ⟨c', d'⟩ := m'
  obtain ⟨hdelivery, hanswers⟩ := h
  cases hdelivery with
  | failed f f' => rfl
  | started => rfl
  | listed ho =>
    simp only [Moment.effect, ho.key_eq, slotsOf_of_resembles hub _ ho (hanswers _ rfl)]
  | completed => rfl
  | changed ho =>
    simp only [Moment.effect, ho.key_eq, slotsOf_of_resembles hub _ ho (hanswers _ rfl)]
  | removed ho => simp only [Moment.effect, ho.key_eq]

theorem map_effect_congr (hub : String) (descriptors : List Descriptor) {past past' : List Moment}
    (h : List.Forall₂ Moment.Resembles past past') :
    past.map (Moment.effect [.clusterInfo hub] descriptors) =
      past'.map (Moment.effect [.clusterInfo hub] descriptors) := by
  induction h with
  | nil => rfl
  | cons hm _ ih => rw [List.map_cons, List.map_cons, hm.effect_eq hub descriptors, ih]

/-- The same delivery resembles itself under answers that are alike for its object. -/
theorem Moment.Resembles.of_alike {m m' : Moment} (hdelivery : m.delivery = m'.delivery)
    (halike : ∀ o, m.delivery.object? = some o →
      m.companions.Alike o.metadata.nameAny m'.companions) : m.Resembles m' :=
  ⟨hdelivery ▸ .refl m.delivery, fun o ho => (halike o ho).resemble⟩

end Watch

end FleetExporter
