import FleetExporter.Proofs.Watch.Step
import Mathlib.Data.List.Basic
import Mathlib.Data.List.Induction

/-! Which keys are in the store after a history of deliveries, said of the history alone: what was
shown last under a key and not taken away since. `Since` is the only way in which the history is
spoken of; it grows by one delivery at a time, as the run of a handler does. -/
namespace FleetExporter.Watch

/-! ## Since -/

/-- Some entry of a history is `p`, and every later one is `q` after all that came before it. -/
def Since {α : Type} (p : α → Prop) (q : List α → α → Prop) (history : List α) : Prop :=
  ∃ past a later, history = past ++ a :: later ∧ p a ∧
    ∀ between b rest, later = between ++ b :: rest → q (past ++ a :: between) b

section Since

variable {α : Type} {p : α → Prop} {q : List α → α → Prop}

theorem not_since_nil : ¬ Since p q [] := by
  rintro ⟨past, a, later, h, -⟩
  simp at h

/-- Where a history that grew by one entry can be split: at the new entry, or before it. -/
theorem concat_eq_append_cons_iff {history past later : List α} {a b : α} :
    history ++ [b] = past ++ a :: later ↔
      (past = history ∧ a = b ∧ later = []) ∨
        ∃ rest, later = rest ++ [b] ∧ history = past ++ a :: rest := by
  constructor
  · intro h
    rcases List.eq_nil_or_concat' later with rfl | ⟨rest, c, rfl⟩
    · obtain ⟨hp, hb⟩ := List.append_inj' h rfl
      exact Or.inl ⟨hp.symm, (List.singleton_inj.mp hb).symm, rfl⟩
    · have hsplit : history ++ [b] = (past ++ a :: rest) ++ [c] := by simpa using h
      obtain ⟨hp, hb⟩ := List.append_inj' hsplit rfl
      exact Or.inr ⟨rest, by rw [hb], hp⟩
  · rintro (⟨rfl, rfl, rfl⟩ | ⟨rest, rfl, rfl⟩) <;> simp

theorem since_concat (history : List α) (b : α) :
    Since p q (history ++ [b]) ↔ p b ∨ (Since p q history ∧ q history b) := by
  constructor
  · rintro ⟨past, a, later, heq, ha, hq⟩
    rcases concat_eq_append_cons_iff.mp heq with ⟨rfl, rfl, rfl⟩ | ⟨rest, rfl, rfl⟩
    · exact Or.inl ha
    · refine Or.inr ⟨⟨past, a, rest, rfl, ha, ?_⟩, hq rest b [] rfl⟩
      intro between d rest' hd
      exact hq between d (rest' ++ [b]) (by simp [hd])
  · rintro (hb | ⟨⟨past, a, later, rfl, ha, hq⟩, hb⟩)
    · exact ⟨history, b, [], rfl, hb, by simp⟩
    · refine ⟨past, a, later ++ [b], by simp, ha, ?_⟩
      intro between d rest hd
      rcases concat_eq_append_cons_iff.mp hd with ⟨rfl, rfl, rfl⟩ | ⟨rest', rfl, rfl⟩
      · exact hb
      · exact hq between d rest' rfl

theorem Since.mono {p' : α → Prop} {history : List α} (h : Since p q history)
    (hp : ∀ a, p a → p' a) : Since p' q history := by
  obtain ⟨past, a, later, heq, ha, hq⟩ := h
  exact ⟨past, a, later, heq, hp a ha, hq⟩

theorem Since.exists_mem {history : List α} (h : Since p q history) : ∃ a ∈ history, p a := by
  obtain ⟨past, a, later, rfl, ha, -⟩ := h
  exact ⟨a, by simp, ha⟩

/-- The latest entry of a kind is one entry, whatever else is said of it. -/
theorem exists_of_latest {p p' s : α → Prop} {history : List α}
    (h : Since p (fun _ b => ¬ s b) history) (h' : Since p' (fun _ b => ¬ s b) history)
    (hp : ∀ a, p a → s a) (hp' : ∀ a, p' a → s a) : ∃ a ∈ history, p a ∧ p' a := by
  induction history using List.reverseRecOn with
  | nil => exact absurd h not_since_nil
  | append_singleton past b ih =>
    rcases (since_concat past b).mp h with hb | ⟨hpast, hb⟩ <;>
      rcases (since_concat past b).mp h' with hb' | ⟨hpast', hb'⟩
    · exact ⟨b, by simp, hb, hb'⟩
    -- the last entry cannot be of the kind for one and not for the other
    · exact absurd (hp b hb) hb'
    · exact absurd (hp' b hb') hb
    · obtain ⟨a, ha, hpa⟩ := ih hpast hpast'
      exact ⟨a, List.mem_append_left [b] ha, hpa⟩

end Since

/-! ## What a delivery says about a key -/

namespace Delivery

/-- The object that is shown, in a re-list or not. -/
def shown? : Delivery → Option Untyped
  | .ok (.listed o) => some o
  | .ok (.changed o) => some o
  | _ => none

/-- A re-list shows an object with a key, and it decodes. -/
def Relists (k : String) : Delivery → Prop
  | .ok (.listed o) => o.key = k ∧ o.decodes = true
  | _ => False

/-- An object with a key is shown, and it decodes. -/
def Shows (k : String) (d : Delivery) : Prop :=
  ∃ o, d.shown? = some o ∧ o.key = k ∧ o.decodes = true

/-- An object with a key is shown, but it does not decode. -/
def Spoils (k : String) (d : Delivery) : Prop :=
  ∃ o, d.shown? = some o ∧ o.key = k ∧ o.decodes = false

/-- An object with a key is removed. -/
def Removes (k : String) : Delivery → Prop
  | .ok (.removed o) => o.key = k
  | _ => False

def Starts (d : Delivery) : Prop := d = .ok .started

def Completes (d : Delivery) : Prop := d = .ok .completed

end Delivery

open Delivery SampleStore

/-- The end of a re-list takes a key of the scope away: there was a start, and since the latest one
neither an end nor the key in the list. -/
def Prunes (scope k : String) (past : List Moment) (m : Moment) : Prop :=
  Completes m.delivery ∧ scope.toList <+: k.toList ∧
    Since (fun n => Starts n.delivery)
      (fun _ n => ¬ Starts n.delivery ∧ ¬ Completes n.delivery ∧ ¬ Relists k n.delivery) past

/-- A moment leaves what is under a key in the store, or puts something else in its place. -/
def Spares (scope k : String) (past : List Moment) (m : Moment) : Prop :=
  ¬ Removes k m.delivery ∧ ¬ Spoils k m.delivery ∧ ¬ Prunes scope k past m

/-- What is shown under a key fills these slots, by the answers of the moment. -/
def Fills (generators : List Generator) (descriptors : List Descriptor) (k : String) (v : Slots)
    (m : Moment) : Prop :=
  ∃ o, m.delivery.shown? = some o ∧ o.key = k ∧
    slotsOf generators descriptors m.companions o = some v

/-! ## What one delivery changes -/

section Step

variable (generators : List Generator) (h : Handler) (s : SampleStore) (m : Moment) (k : String)

/-- A key is missing in a re-list from its start on, until the list ends or the key is in it. -/
theorem misses_take :
    (h.take generators m.companions s m.delivery).value.1.misses k = true ↔
      Starts m.delivery ∨ (h.misses k = true ∧
        ¬ Starts m.delivery ∧ ¬ Completes m.delivery ∧ ¬ Relists k m.delivery) := by
  obtain ⟨c, d⟩ := m
  rcases d with f | e
  · simp [Starts, Completes, Relists]
  · cases e with
    | started => simp [Starts]
    | listed o => cases hd : o.decodes <;> simp [Starts, Completes, Relists, Handler.misses_see, hd]
    | completed => simp [Starts, Completes]
    | changed o => simp [Starts, Completes, Relists]
    | removed o => simp [Starts, Completes, Relists]

/-- An object that is shown is read anew, in a re-list or not. -/
theorem store_take_of_shown {m : Moment} {o : Untyped} (hm : m.delivery.shown? = some o) :
    (h.take generators m.companions s m.delivery).value.2 =
      s.refreshed generators m.companions o := by
  obtain ⟨c, f | e⟩ := m
  · cases hm
  · cases e <;> cases hm <;> rfl

/-- A key is stored after it was shown, until it is taken away. -/
theorem isSome_get?_take :
    ((h.take generators m.companions s m.delivery).value.2.get? k).isSome = true ↔
      Shows k m.delivery ∨ ((s.get? k).isSome = true ∧ ¬ Removes k m.delivery ∧
        ¬ Spoils k m.delivery ∧
        ¬ (Completes m.delivery ∧ h.scope.toList <+: k.toList ∧ h.misses k = true)) := by
  obtain ⟨c, d⟩ := m
  rcases d with f | e
  · simp [Shows, shown?, Removes, Spoils, Completes]
  · cases e with
    | started => simp [Shows, shown?, Removes, Spoils, Completes]
    | listed o =>
      by_cases hk : o.key = k <;> cases hd : o.decodes <;>
        simp [Shows, shown?, Removes, Spoils, Completes, get?_refreshed, isSome_slotsOf, hk, hd]
    | completed =>
      rw [Handler.get?_take_completed, ← inScope_iff]
      split <;> simp_all [Shows, shown?, Removes, Spoils, Completes]
    | changed o =>
      by_cases hk : o.key = k <;> cases hd : o.decodes <;>
        simp [Shows, shown?, Removes, Spoils, Completes, get?_refreshed, isSome_slotsOf, hk, hd]
    | removed o =>
      by_cases hk : o.key = k <;> simp [Shows, shown?, Removes, Spoils, Completes, get?_drop, hk]

/-- Where nothing is shown, nothing new is stored. -/
theorem get?_of_get?_take (hm : m.delivery.shown? = none) {v : Slots}
    (hv : (h.take generators m.companions s m.delivery).value.2.get? k = some v) :
    s.get? k = some v := by
  obtain ⟨c, f | e⟩ := m
  · exact hv
  · cases e with
    | started => exact hv
    | listed o => cases hm
    | completed =>
      rw [Handler.get?_take_completed] at hv
      split at hv
      · cases hv
      · exact hv
    | changed o => cases hm
    | removed o =>
      rw [Handler.take_removed, get?_drop] at hv
      split at hv
      · cases hv
      · exact hv

/-- What is stored under a key was shown just now, or is what was there, if nothing was shown. -/
theorem get?_take_eq_some {v : Slots}
    (hv : (h.take generators m.companions s m.delivery).value.2.get? k = some v) :
    Fills generators s.descriptors k v m ∨ (s.get? k = some v ∧ ¬ Shows k m.delivery) := by
  cases hm : m.delivery.shown? with
  | none =>
    refine Or.inr ⟨get?_of_get?_take generators h s m k hm hv, ?_⟩
    rintro ⟨o, ho, -⟩
    rw [hm] at ho
    cases ho
  | some o =>
    rw [store_take_of_shown generators h s hm, get?_refreshed] at hv
    split at hv
    · rename_i hk
      exact Or.inl ⟨o, hm, hk, hv⟩
    · rename_i hk
      refine Or.inr ⟨hv, ?_⟩
      rintro ⟨o', ho', hk', -⟩
      obtain rfl : o = o' := Option.some.inj (hm.symm.trans ho')
      exact hk hk'

end Step

/-! ## What a history leaves -/

section Run

variable (generators : List Generator) (descriptors : List Descriptor) (scope : String)
  (history : List Moment) (k : String)

theorem misses_takeAll (s : SampleStore) :
    ((Handler.mk scope none).takeAll generators s history).value.1.misses k = true ↔
      Since (fun n => Starts n.delivery)
        (fun _ n => ¬ Starts n.delivery ∧ ¬ Completes n.delivery ∧ ¬ Relists k n.delivery)
        history := by
  induction history using List.reverseRecOn with
  | nil => simp [not_since_nil]
  | append_singleton past m ih =>
    rw [Handler.takeAll_concat, misses_take, since_concat, ih]

/-- A key is stored exactly when it was shown and spared ever since. -/
theorem isSome_get?_takeAll :
    (((Handler.mk scope none).takeAll generators (.empty descriptors) history).value.2.get?
        k).isSome = true ↔
      Since (fun m => Shows k m.delivery) (Spares scope k) history := by
  induction history using List.reverseRecOn with
  | nil => simp [not_since_nil]
  | append_singleton past m ih =>
    rw [Handler.takeAll_concat, isSome_get?_take, since_concat, ih, misses_takeAll]
    simp [Spares, Prunes]

/-- What is stored under a key was filled by the latest that was shown under it. -/
theorem since_fills_of_get? {v : Slots}
    (hv : ((Handler.mk scope none).takeAll generators (.empty descriptors) history).value.2.get? k =
      some v) :
    Since (Fills generators descriptors k v) (fun _ n => ¬ Shows k n.delivery) history := by
  induction history using List.reverseRecOn with
  | nil => simp at hv
  | append_singleton past m ih =>
    rw [Handler.takeAll_concat] at hv
    rw [since_concat]
    rcases get?_take_eq_some _ _ _ _ _ hv with hf | ⟨hpast, hm⟩
    · rw [Handler.descriptors_takeAll] at hf
      exact Or.inl hf
    · exact Or.inr ⟨ih hpast, hm⟩

end Run

/-- **A handler keeps what its history says.** From an empty store, whatever the order of the
deliveries, a key is stored exactly when an object that decodes was shown under it and since then
none was removed or failed to decode under it and no re-list ended without it; and its samples are
those of the latest such object, by the answers of that moment. -/
theorem store_of_history (generators : List Generator) (descriptors : List Descriptor)
    (scope : String) (history : List Moment) (k : String) :
    let store := ((Handler.mk scope none).takeAll generators (.empty descriptors) history).value.2
    (store.contains k = true ↔
      Since (fun m => Shows k m.delivery) (Spares scope k) history) ∧
    ∀ v, store.get? k = some v →
      Since (Fills generators descriptors k v) (fun _ n => ¬ Shows k n.delivery) history := by
  intro store
  refine ⟨?_, fun v hv => since_fills_of_get? _ _ _ _ _ hv⟩
  rw [contains_eq_isSome]
  exact isSome_get?_takeAll _ _ _ _ _

end FleetExporter.Watch
