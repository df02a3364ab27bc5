import FleetExporter.Proofs.Watch.Inquiry
import FleetExporter.Proofs.Watch.Scope
import Mathlib.Data.List.Basic

/-! Watches that work on one store at the same time. A worker takes a step to take up a delivery, to
have one question answered or to make one change to the store; a schedule says whose step comes
next. Whatever has happened, all workers can come to their end. -/
namespace FleetExporter.Watch

open SampleStore

/-- A watch between two of its steps: its handler, what is left of the delivery it is at, and the
deliveries to come. -/
structure Worker where
  handler : Handler
  current : Option (Inquiry (Handler × Edit)) := none
  inbox : List Delivery

namespace Worker

variable (gs : List Inquirer) (c : Companions)

/-- A worker takes up a delivery, has a question answered, or makes the change that came of it; and
what its step does to the store. -/
def step : Worker → Worker × Edit
  | ⟨h, none, []⟩ => (⟨h, none, []⟩, .keep)
  | ⟨h, none, .error _ :: rest⟩ => (⟨h, none, rest⟩, .keep)
  | ⟨h, none, .ok e :: rest⟩ => (⟨h, some (h.inquire gs e), rest⟩, .keep)
  | ⟨h, some (.ask l next), inbox⟩ => (⟨h, some (next (c.answer l)), inbox⟩, .keep)
  | ⟨_, some (.done (h, edit)), inbox⟩ => (⟨h, none, inbox⟩, edit)

def Finished (w : Worker) : Prop := w.current = none ∧ w.inbox = []

instance (w : Worker) : Decidable w.Finished :=
  decidable_of_iff (w.current.isNone = true ∧ w.inbox.isEmpty = true) (by simp [Finished])

/-- A worker whose handler has dealt with all but some deliveries. It may be at the first of these,
as long as the answers to come lead to the plan for it. -/
def At (w : Worker) (h : Handler) (later : List Delivery) : Prop :=
  w = ⟨h, none, later⟩ ∨
    ∃ e rest x, later = .ok e :: rest ∧ w = ⟨h, some x, rest⟩ ∧
      x.answered c = (h.plan (gs.map (·.toGenerator)) c e).value

variable {gs c}

theorem At.eq_nil {w : Worker} {h : Handler} {later : List Delivery} (hw : w.At gs c h later)
    (hf : w.Finished) : later = [] := by
  obtain ⟨hcurrent, hinbox⟩ := hf
  rcases hw with rfl | ⟨e, rest, x, -, rfl, -⟩
  · exact hinbox
  · cases hcurrent

/-- A step leaves the store alone and the worker where it is, or it completes the next delivery. -/
theorem At.step {w : Worker} {h : Handler} {later : List Delivery} (hw : w.At gs c h later) :
    ((w.step gs c).2 = .keep ∧ (w.step gs c).1.At gs c h later) ∨
      ∃ d rest, later = d :: rest ∧
        (w.step gs c).2 = h.edit (gs.map (·.toGenerator)) c d ∧
        ∀ s, (w.step gs c).1.At gs c
          (h.take (gs.map (·.toGenerator)) c s d).value.1 rest := by
  rcases hw with rfl | ⟨e, rest, x, rfl, rfl, hx⟩
  · rcases later with _ | ⟨f | e, rest⟩
    · exact Or.inl ⟨rfl, Or.inl rfl⟩
    · exact Or.inr ⟨.error f, rest, rfl, rfl, fun s => Or.inl rfl⟩
    · exact Or.inl ⟨rfl, Or.inr ⟨e, rest, h.inquire gs e, rfl, rfl, h.answered_inquire gs c e⟩⟩
  · cases x with
    | done r =>
      rw [Inquiry.answered_done] at hx
      subst hx
      exact Or.inr ⟨.ok e, rest, rfl, rfl, fun s => Or.inl rfl⟩
    | ask l next => exact Or.inl ⟨rfl, Or.inr ⟨e, rest, next (c.answer l), rfl, rfl, hx⟩⟩

end Worker

/-- Several workers and the store they share. -/
structure Crew where
  workers : List Worker
  store : SampleStore

namespace Crew

variable (gs : List Inquirer) (c : Companions)

/-- A crew where one worker takes a step. -/
def step (crew : Crew) (i : Nat) : Crew :=
  match crew.workers[i]? with
  | none => crew
  | some w => ⟨crew.workers.set i (w.step gs c).1, (crew.store.apply (w.step gs c).2).1⟩

/-- The steps of a crew, in the order in which a schedule names its workers. -/
def run (crew : Crew) (schedule : List Nat) : Crew := schedule.foldl (step gs c) crew

def Finished (crew : Crew) : Prop := ∀ w ∈ crew.workers, w.Finished

instance (crew : Crew) : Decidable crew.Finished :=
  inferInstanceAs (Decidable (∀ w ∈ crew.workers, w.Finished))

/-- A worker for each namespace, with the deliveries it will be made, and an empty store. -/
def start (descriptors : List Descriptor) (watches : List (String × List Delivery)) : Crew :=
  ⟨watches.map fun w => ⟨.forNamespace w.1, none, w.2⟩, .empty descriptors⟩

variable {gs c}

theorem run_append (crew : Crew) (past later : List Nat) :
    crew.run gs c (past ++ later) = (crew.run gs c past).run gs c later :=
  List.foldl_append

theorem step_of_none {crew : Crew} {i : Nat} (hi : crew.workers[i]? = none) :
    crew.step gs c i = crew := by
  simp only [step, hi]

theorem store_step {crew : Crew} {i : Nat} {w : Worker} (hw : crew.workers[i]? = some w) :
    (crew.step gs c i).store = (crew.store.apply (w.step gs c).2).1 := by
  simp only [step, hw]

theorem descriptors_step (crew : Crew) (i : Nat) :
    (crew.step gs c i).store.descriptors = crew.store.descriptors := by
  cases hw : crew.workers[i]? with
  | none => rw [step_of_none hw]
  | some w => rw [store_step hw, descriptors_apply]

theorem length_step (crew : Crew) (i : Nat) :
    (crew.step gs c i).workers.length = crew.workers.length := by
  unfold step
  cases crew.workers[i]? with
  | none => rfl
  | some w => exact List.length_set

theorem getElem?_step_self {crew : Crew} {i : Nat} {w : Worker} (hw : crew.workers[i]? = some w) :
    (crew.step gs c i).workers[i]? = some (w.step gs c).1 := by
  obtain ⟨hlt, -⟩ := List.getElem?_eq_some_iff.mp hw
  simp only [step, hw]
  exact List.getElem?_set_self hlt

theorem getElem?_step_of_ne (crew : Crew) {i j : Nat} (hne : i ≠ j) :
    (crew.step gs c i).workers[j]? = crew.workers[j]? := by
  unfold step
  cases crew.workers[i]? with
  | none => rfl
  | some w => exact List.getElem?_set_ne hne

theorem getElem?_run_replicate_of_ne (crew : Crew) (n : Nat) {i j : Nat} (hne : i ≠ j) :
    (crew.run gs c (List.replicate n i)).workers[j]? = crew.workers[j]? := by
  induction n generalizing crew with
  | zero => rfl
  | succ n ih => exact (ih (crew.step gs c i)).trans (getElem?_step_of_ne crew hne)

theorem length_run (crew : Crew) (schedule : List Nat) :
    (crew.run gs c schedule).workers.length = crew.workers.length := by
  induction schedule generalizing crew with
  | nil => rfl
  | cons i rest ih => exact (ih (crew.step gs c i)).trans (length_step crew i)

variable (gs c) in
/-- Some steps of its own bring a worker to its end. -/
def CanFinish (crew : Crew) (i : Nat) : Prop :=
  ∃ n w, (crew.run gs c (List.replicate n i)).workers[i]? = some w ∧ w.Finished

theorem CanFinish.of_step {crew : Crew} {i : Nat} (h : (crew.step gs c i).CanFinish gs c i) :
    crew.CanFinish gs c i := by
  obtain ⟨n, w, hw⟩ := h
  exact ⟨n + 1, w, hw⟩

/-- What is left of a delivery comes to its end before the next one is taken up. -/
theorem canFinish_of_idle {i : Nat} {inbox : List Delivery}
    (idle : ∀ (crew : Crew) h, crew.workers[i]? = some ⟨h, none, inbox⟩ → crew.CanFinish gs c i)
    (x : Inquiry (Handler × Edit)) (crew : Crew) (h : Handler)
    (hw : crew.workers[i]? = some ⟨h, some x, inbox⟩) : crew.CanFinish gs c i := by
  induction x generalizing crew h with
  | done r => exact .of_step (idle _ _ (getElem?_step_self hw))
  | ask l next ih => exact .of_step (ih (c.answer l) _ h (getElem?_step_self hw))

/-- An idle worker comes to its end: each delivery asks finitely many questions, whatever the
answers. -/
theorem canFinish_idle (i : Nat) (inbox : List Delivery) :
    ∀ (crew : Crew) h, crew.workers[i]? = some ⟨h, none, inbox⟩ → crew.CanFinish gs c i := by
  induction inbox with
  | nil => exact fun crew h hw => ⟨0, _, hw, rfl, rfl⟩
  | cons d rest ih =>
    intro crew h hw
    cases d with
    | error f => exact .of_step (ih _ _ (getElem?_step_self hw))
    | ok e => exact .of_step (canFinish_of_idle ih _ _ _ (getElem?_step_self hw))

theorem canFinish {crew : Crew} {i : Nat} (hi : i < crew.workers.length) :
    crew.CanFinish gs c i := by
  obtain ⟨⟨h, _ | x, inbox⟩, hw⟩ : ∃ w, crew.workers[i]? = some w :=
    ⟨_, List.getElem?_eq_getElem hi⟩
  · exact canFinish_idle i inbox crew h hw
  · exact canFinish_of_idle (canFinish_idle i inbox) x crew h hw

/-- The first workers can come to their end, one after the other. -/
theorem exists_run_finished_below (crew : Crew) (m : Nat) (hm : m ≤ crew.workers.length) :
    ∃ more, ∀ j < m, ∀ w, (crew.run gs c more).workers[j]? = some w → w.Finished := by
  induction m with
  | zero => exact ⟨[], fun j hj => absurd hj (Nat.not_lt_zero j)⟩
  | succ m ih =>
    obtain ⟨more, hmore⟩ := ih (Nat.le_of_succ_le hm)
    have hlt : m < (crew.run gs c more).workers.length := by
      rw [length_run]
      exact hm
    obtain ⟨n, w, hw, hf⟩ : (crew.run gs c more).CanFinish gs c m := canFinish hlt
    refine ⟨more ++ List.replicate n m, fun j hj v hv => ?_⟩
    rw [run_append] at hv
    rcases Nat.lt_succ_iff_lt_or_eq.mp hj with hj | rfl
    · rw [getElem?_run_replicate_of_ne _ _ (Nat.ne_of_gt hj)] at hv
      exact hmore j hj v hv
    · obtain rfl : w = v := Option.some.inj (hw.symm.trans hv)
      exact hf

/-- Whatever a crew has done, it can come to its end. -/
theorem exists_run_finished (crew : Crew) : ∃ more, (crew.run gs c more).Finished := by
  obtain ⟨more, hmore⟩ : ∃ more, ∀ j < crew.workers.length, ∀ w,
      (crew.run gs c more).workers[j]? = some w → w.Finished :=
    exists_run_finished_below crew _ (Nat.le_refl _)
  refine ⟨more, fun w hw => ?_⟩
  obtain ⟨j, hj⟩ := List.getElem?_of_mem hw
  obtain ⟨hlt, -⟩ := List.getElem?_eq_some_iff.mp hj
  rw [length_run] at hlt
  exact hmore j hlt w hj

end Crew

end FleetExporter.Watch
