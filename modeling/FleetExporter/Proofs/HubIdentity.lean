import FleetExporter.HubIdentity
import FleetExporter.Proofs.Retrying
import Mathlib.Data.List.Basic

/-! Who the hub is, from the answers of its server. The first answer that decides gives the
identifier or asks for a configuration; as long as none does, the server is asked again, and the
error of the last attempt is given as it is. -/
namespace FleetExporter.HubIdentity

open Backoff (upTo)

/-! ## Answers -/

/-- Word that the object does not exist. -/
def IsMissing (r : Api.Response) : Prop :=
  ∃ status, request r = .error (.request (.refused status)) ∧ status.code = 404

/-- An answer after which no other is asked for: an object, or word that there is none. -/
def Decides (r : Api.Response) : Prop := (∃ o, request r = .ok o) ∨ IsMissing r

/-- An answer with an object that holds an identifier. -/
def Identifies (r : Api.Response) (id : String) : Prop :=
  ∃ o spec, request r = .ok o ∧ o.fields.lookup "spec" = some spec ∧
    spec.get? "clusterID" = some (.string id) ∧ id ≠ ""

/-- The first answer that decides. -/
def FirstDecides (answers : Nat → Api.Response) (j : Nat) : Prop :=
  1 ≤ j ∧ Decides (answers j) ∧ ∀ i, 1 ≤ i → i < j → ¬ Decides (answers i)

theorem isNotFound_iff (e : Error) :
    e.isNotFound = true ↔ ∃ status, e = .request (.refused status) ∧ status.code = 404 := by
  cases e with
  | request cause => cases cause <;> simp [Error.isNotFound]
  | _ => simp [Error.isNotFound]

/-- Asking again stops where an answer decides. -/
theorem final_request_iff (r : Api.Response) :
    Backoff.Final (fun e : Error => !e.isNotFound) (request r) ↔ Decides r := by
  unfold Backoff.Final Decides IsMissing
  cases request r with
  | ok o => simp
  | error e => simp [isNotFound_iff]

theorem firstFinal_request_iff (answers : Nat → Api.Response) (j : Nat) :
    Backoff.FirstFinal (fun e : Error => !e.isNotFound) (fun n => request (answers n)) j ↔
      FirstDecides answers j := by
  simp only [Backoff.FirstFinal, final_request_iff, FirstDecides]

theorem exists_request_of_error {r : Api.Response} {e : Error} (h : request r = .error e) :
    ∃ cause, e = .request cause := by
  unfold request at h
  cases hanswer : Api.decodeAnswer Untyped.read r with
  | ok o => simp [hanswer, Except.mapError] at h
  | error cause =>
    rw [hanswer] at h
    exact ⟨cause, (Except.error.inj h).symm⟩

/-! ## What the requests came to -/

theorem string?_eq_some_iff (j : Json) (s : String) : j.string? = some s ↔ j = .string s := by
  cases j <;> simp [Json.string?]

theorem ofClusterVersion?_eq_some_iff (o : Untyped) (id : String) :
    ofClusterVersion? o = some id ↔
      ∃ spec, o.fields.lookup "spec" = some spec ∧ spec.get? "clusterID" = some (.string id) ∧
        id ≠ "" := by
  simp only [ofClusterVersion?, Option.filter_eq_some_iff, Option.bind_eq_some_iff,
    string?_eq_some_iff, decide_eq_true_eq]
  constructor
  · rintro ⟨⟨j, ⟨spec, hspec, hid⟩, rfl⟩, hne⟩
    exact ⟨spec, hspec, hid, hne⟩
  · rintro ⟨spec, hspec, hid, hne⟩
    exact ⟨⟨_, ⟨spec, hspec, hid⟩, rfl⟩, hne⟩

theorem ofResult_eq_ok_iff (r : Api.Response) (id : String) :
    ofResult (request r) = .ok id ↔ Identifies r id := by
  unfold Identifies
  cases request r with
  | error e => simp [ofResult]
  | ok o =>
    have hid := ofClusterVersion?_eq_some_iff o id
    cases h : ofClusterVersion? o <;> simp_all [ofResult]

/-- An answer that decides and holds no identifier asks for a configuration. -/
theorem exists_config_of_decides {r : Api.Response} (h : Decides r)
    (hnone : ¬ ∃ id, Identifies r id) :
    ∃ message, ofResult (request r) = .error (.config message) := by
  obtain ⟨o, ho⟩ | ⟨status, hstatus, hcode⟩ := h
  · cases hid : ofClusterVersion? o with
    | none => exact ⟨noIdMessage, by rw [ho, ofResult, hid]⟩
    | some id =>
      refine absurd ⟨id, (ofResult_eq_ok_iff r id).mp ?_⟩ hnone
      rw [ho, ofResult, hid]
  · refine ⟨notFoundMessage, ?_⟩
    rw [hstatus, ofResult, if_pos ((isNotFound_iff _).mpr ⟨status, rfl, hcode⟩)]

/-- An error that does not decide is given as it is. -/
theorem ofResult_of_not_decides {r : Api.Response} (h : ¬ Decides r) :
    ∃ cause, request r = .error (.request cause) ∧
      ofResult (request r) = .error (.request cause) := by
  cases hr : request r with
  | ok o => exact absurd (.inl ⟨o, hr⟩) h
  | error e =>
    obtain ⟨cause, rfl⟩ := exists_request_of_error hr
    refine ⟨cause, rfl, ?_⟩
    rw [ofResult, if_neg]
    intro hnotFound
    obtain ⟨status, hstatus, hcode⟩ := (isNotFound_iff _).mp hnotFound
    exact h (.inr ⟨status, hr.trans (congrArg Except.error hstatus), hcode⟩)

/-! ## Asking -/

theorem exists_value_ask {b : Backoff} (hwaits : b.Waits) (answers : Nat → Api.Response) :
    ∃ errors calls,
      Backoff.Passes (fun e : Error => !e.isNotFound) (fun n => request (answers n)) 1
        (b.attempts - 1) errors calls ∧
      (ask b answers).value = ⟨calls, .finished (ofResult (request (answers calls)))⟩ := by
  obtain ⟨errors, calls, hpasses, hretry⟩ := Backoff.exists_retry_eq hwaits operation Error.message
    (fun e : Error => !e.isNotFound) fun n => request (answers n)
  refine ⟨errors, calls, hpasses, ?_⟩
  rw [ask, Traced.value_bind, hretry]
  simp only
  cases ofResult (request (answers calls)) <;> rfl

section

variable {m : Nat} {b : Backoff} {answers : Nat → Api.Response}

/-- The first answer that decides is the last one, if there are attempts enough. -/
theorem value_ask_of_first (hb : b.Customary m) {j : Nat} (hj : FirstDecides answers j)
    (hle : j ≤ max 1 m) :
    (ask b answers).value = ⟨j, .finished (ofResult (request (answers j)))⟩ := by
  obtain ⟨errors, calls, hpasses, hvalue⟩ := exists_value_ask hb.waits answers
  have hmin := hpasses.last_eq_min ((firstFinal_request_iff answers j).mpr hj)
  rw [hb.max_attempts, Nat.min_eq_left hle] at hmin
  rw [hvalue, hmin]

theorem value_ask_of_none (hb : b.Customary m)
    (hnone : ∀ i, 1 ≤ i → i ≤ max 1 m → ¬ Decides (answers i)) :
    (ask b answers).value =
      ⟨max 1 m, .finished (ofResult (request (answers (max 1 m))))⟩ := by
  obtain ⟨errors, calls, hpasses, hvalue⟩ := exists_value_ask hb.waits answers
  have hlast := hpasses.last_eq
  have hlength := hpasses.length_le
  have hattempts := hb.max_attempts
  -- the last call does not decide, so that the attempts must be used up
  have hopen := hnone calls (by omega) (by omega)
  have hmax := hpasses.last_eq_max fun hfinal => hopen ((final_request_iff _).mp hfinal)
  rw [hvalue, hmax, hattempts]

theorem ne_empty_of_ask (hb : b.Customary m) {id : String}
    (h : (ask b answers).value.ending = .finished (.ok id)) : id ≠ "" := by
  obtain ⟨errors, calls, -, hvalue⟩ := exists_value_ask hb.waits answers
  rw [hvalue] at h
  obtain ⟨-, -, -, -, -, hne⟩ := (ofResult_eq_ok_iff _ _).mp (Ending.finished.inj h)
  exact hne

theorem calls_ask_le_of_isMissing (hb : b.Customary m) {i : Nat} (hi : 1 ≤ i)
    (hmissing : IsMissing (answers i)) : (ask b answers).value.calls ≤ i := by
  obtain ⟨errors, calls, hpasses, hvalue⟩ := exists_value_ask hb.waits answers
  rw [hvalue]
  refine Nat.le_of_not_lt fun hlt => hpasses.not_final_before hi hlt ?_
  exact (final_request_iff _).mpr (.inr hmissing)

end

/-! ## Resolving -/

theorem resolve_of_configured {id : String} (h : id ≠ "") (b : Backoff)
    (answers : Nat → Api.Response) :
    (resolve (some id) b answers).value = ⟨0, .finished (.ok id)⟩ := by
  rw [resolve, Option.filter_some, if_pos (decide_eq_true h)]
  rfl

theorem resolve_of_not_configured {configured : Option String}
    (h : ∀ id, configured = some id → id = "") (b : Backoff) (answers : Nat → Api.Response) :
    resolve configured b answers = ask b answers := by
  have hfilter : configured.filter (· ≠ "") = none :=
    Option.filter_eq_none_iff.mpr fun id hid => by simp [h id hid]
  rw [resolve, hfilter]

/-- **The hub is identified.** A configured identifier wins without a request. Otherwise the first
answer that decides is the last one: it holds the identifier, or a configuration is asked for. If
the attempts are used up before, the last error is given unchanged. No identifier is empty, and word
that the object does not exist is not asked for twice. -/
theorem hub_identified (m : Nat) (b : Backoff) (hb : b.Customary m) (configured : Option String)
    (answers : Nat → Api.Response) :
    (∀ id, configured = some id → id ≠ "" →
      (resolve configured b answers).value = ⟨0, .finished (.ok id)⟩) ∧
    ((∀ id, configured = some id → id = "") →
      (∀ j, FirstDecides answers j → j ≤ max 1 m →
        (resolve configured b answers).value.calls = j ∧
        (∀ id, (resolve configured b answers).value.ending = .finished (.ok id) ↔
          Identifies (answers j) id) ∧
        ((¬ ∃ id, Identifies (answers j) id) → ∃ message,
          (resolve configured b answers).value.ending = .finished (.error (.config message)))) ∧
      ((∀ i, 1 ≤ i → i ≤ max 1 m → ¬ Decides (answers i)) →
        ∃ e, request (answers (max 1 m)) = .error e ∧ (∀ message, e ≠ .config message) ∧
          (resolve configured b answers).value = ⟨max 1 m, .finished (.error e)⟩)) ∧
    (∀ id, (resolve configured b answers).value.ending = .finished (.ok id) → id ≠ "") ∧
    ∀ i, 1 ≤ i → IsMissing (answers i) → (resolve configured b answers).value.calls ≤ i := by
  by_cases hconfigured : ∃ id, configured = some id ∧ id ≠ ""
  · obtain ⟨id, rfl, hne⟩ := hconfigured
    have hvalue := resolve_of_configured hne b answers
    refine ⟨fun id' hid' _ => Option.some.inj hid' ▸ hvalue,
      fun hempty => absurd (hempty id rfl) hne, fun id' hid' => ?_, fun i _ _ => ?_⟩
    · rw [hvalue] at hid'
      cases hid'
      exact hne
    · rw [hvalue]
      exact Nat.zero_le i
  · have hempty : ∀ id, configured = some id → id = "" := fun id hid =>
      Classical.not_not.mp fun hne => hconfigured ⟨id, hid, hne⟩
    rw [resolve_of_not_configured hempty]
    refine ⟨fun id hid hne => absurd (hempty id hid) hne, fun _ => ⟨fun j hj hle => ?_,
      fun hnone => ?_⟩, fun id hid => ne_empty_of_ask hb hid,
      fun i hi hmissing => calls_ask_le_of_isMissing hb hi hmissing⟩
    · rw [value_ask_of_first hb hj hle]
      refine ⟨rfl, fun id => ?_, fun hnone => ?_⟩
      · rw [← ofResult_eq_ok_iff]
        exact ⟨fun h => Ending.finished.inj h, congrArg Ending.finished⟩
      · obtain ⟨message, hmessage⟩ := exists_config_of_decides hj.2.1 hnone
        exact ⟨message, congrArg Ending.finished hmessage⟩
    · obtain ⟨cause, hcause, hresult⟩ :=
        ofResult_of_not_decides (hnone (max 1 m) (Nat.le_max_left ..) (Nat.le_refl _))
      refine ⟨_, hcause, fun _ => Error.noConfusion, ?_⟩
      rw [value_ask_of_none hb hnone, hresult]

/-- A server that is slow to start. -/
def lateVersion (n : Nat) : Api.Response :=
  if n = 1 then .failed "connection refused"
  else .answered 200 "\x7b\"metadata\":\x7b\x7d,\"spec\":\x7b\"clusterID\":\"a1b2c3\"\x7d\x7d"

def noVersion (_ : Nat) : Api.Response := .answered 404 ""

def noServer (_ : Nat) : Api.Response := .failed "connection refused"

theorem identifies_lateVersion : Identifies (lateVersion 2) "a1b2c3" :=
  (ofResult_eq_ok_iff _ _).mp (by decide +kernel)

theorem firstDecides_lateVersion : FirstDecides lateVersion 2 := by
  obtain ⟨o, -, ho, -⟩ := identifies_lateVersion
  refine ⟨by decide, .inl ⟨o, ho⟩, fun i hi hlt => ?_⟩
  obtain rfl : i = 1 := by omega
  rw [← final_request_iff]
  exact fun hfinal => absurd (hfinal _ rfl) (by decide)

theorem isMissing_noVersion (n : Nat) : IsMissing (noVersion n) := ⟨_, rfl, by decide +kernel⟩

theorem not_decides_noServer (n : Nat) : ¬ Decides (noServer n) := by
  rw [← final_request_iff]
  exact fun hfinal => absurd (hfinal _ rfl) (by decide)

theorem hub_identified_late_version :
    (resolve (some "hub") (upTo 3) noServer).value = ⟨0, .finished (.ok "hub")⟩ ∧
    (resolve none (upTo 3) lateVersion).value.calls = 2 ∧
    (resolve none (upTo 3) lateVersion).value.ending = .finished (.ok "a1b2c3") ∧
    (∃ message, (resolve (some "") { attempts := 0 } noVersion).value.ending =
      .finished (.error (.config message))) ∧
    (∃ e, request (noServer 3) = .error e ∧
      (resolve none (upTo 3) noServer).value = ⟨3, .finished (.error e)⟩) ∧
    (resolve none (upTo 3) noVersion).value.calls ≤ 1 := by
  obtain ⟨hconfigured, -, -, -⟩ := hub_identified 3 (upTo 3) (.inr rfl) (some "hub") noServer
  obtain ⟨-, hlate, -, -⟩ := hub_identified 3 (upTo 3) (.inr rfl) none lateVersion
  obtain ⟨-, hmissing, -, -⟩ := hub_identified 0 { attempts := 0 } (.inl rfl) (some "") noVersion
  obtain ⟨-, hdown, -, -⟩ := hub_identified 3 (upTo 3) (.inr rfl) none noServer
  obtain ⟨-, -, -, honce⟩ := hub_identified 3 (upTo 3) (.inr rfl) none noVersion
  obtain ⟨hcalls, hid, -⟩ :=
    (hlate fun _ h => (Option.some_ne_none _ h.symm).elim).1 2 firstDecides_lateVersion (by decide)
  obtain ⟨-, -, hconfig⟩ := (hmissing fun _ h => (Option.some.inj h).symm).1 1
    ⟨by decide, .inr (isMissing_noVersion 1), fun _ _ _ => by omega⟩ (by decide)
  obtain ⟨e, he, -, hvalue⟩ :=
    (hdown fun _ h => (Option.some_ne_none _ h.symm).elim).2 fun i _ _ => not_decides_noServer i
  refine ⟨hconfigured "hub" rfl (by decide), hcalls, (hid "a1b2c3").mpr identifies_lateVersion,
    hconfig ?_, ⟨e, he, hvalue⟩, honce 1 (by decide) (isMissing_noVersion 1)⟩
  rintro ⟨id, o, -, ho, -⟩
  cases ho

end FleetExporter.HubIdentity
