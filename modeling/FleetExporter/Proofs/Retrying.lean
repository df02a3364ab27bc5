import FleetExporter.Backoff
import Mathlib.Tactic.SplitIfs

/-! Calls that are tried again. The errors that are passed over, and the call that is the last one,
follow from the outcomes and the number of attempts alone; a series of calls says what it does, and
its counter keeps to a word of 32 bits. With the customary delays no series is cut short. -/
namespace FleetExporter

namespace Binary64

/-! ## Signs -/

/-- Whether a minus sign stands before a number, be it a zero. -/
def hasMinus : Binary64 → Bool
  | nan => false
  | infinite negative => negative
  | finite negative _ _ => negative

theorem hasMinus_ofRatio (negative : Bool) (num den : Nat) :
    (ofRatio negative num den).hasMinus = negative := by
  simp only [ofRatio]
  split_ifs <;> rfl

theorem hasMinus_mul {x y : Binary64} (hx : x.hasMinus = false) (hy : y.hasMinus = false) :
    (x.mul y).hasMinus = false := by
  cases x <;> cases y <;> simp_all only [hasMinus, mul, bne_self_eq_false]
  · split_ifs <;> rfl
  · split_ifs <;> rfl
  · exact hasMinus_ofRatio ..

theorem hasMinus_powerFrom (exponent : Nat) {result base : Binary64}
    (hresult : result.hasMinus = false) (hbase : base.hasMinus = false) :
    (powerFrom result base exponent).hasMinus = false := by
  induction exponent using Nat.strongRecOn generalizing result base with
  | ind exponent ih =>
    have hnext : (if exponent % 2 = 1 then result.mul base else result).hasMinus = false := by
      split_ifs
      · exact hasMinus_mul hresult hbase
      · exact hresult
    rw [powerFrom]
    by_cases hlast : exponent / 2 = 0
    · rw [if_pos hlast]
      exact hnext
    · rw [if_neg hlast]
      exact ih (exponent / 2) (by omega) hnext (hasMinus_mul hbase hbase)

/-- What has no minus sign is finite under a finite limit, even if it was no number at all. -/
theorem exists_least_eq_finite {x : Binary64} (h : x.hasMinus = false) (m : Nat) (e : Int) :
    ∃ m' e', x.least (finite false m e) = finite false m' e' := by
  cases x with
  | nan => exact ⟨m, e, rfl⟩
  | infinite negative =>
    obtain rfl : negative = false := h
    exact ⟨m, e, rfl⟩
  | finite negative m' e' =>
    obtain rfl : negative = false := h
    simp only [least]
    split_ifs
    · exact ⟨m, e, rfl⟩
    · exact ⟨m', e', rfl⟩

end Binary64

namespace Backoff

open Traced (log)

/-! ## Delays -/

theorem isSome_nanos? (m : Nat) (e : Int) : (nanos? (.finite false m e)).isSome := rfl

/-- No delay is negative. -/
def Waits (b : Backoff) : Prop := ∀ attempt, (b.delayAfter? attempt).isSome

/-- Without a minus sign in the first delay and in the factor, a limit that is a number makes every
delay one: powers that are too great give way to it. -/
theorem waits_of_factor {b : Backoff} (hinitial : (seconds b.initialNanos).hasMinus = false)
    (hfactor : b.factor.hasMinus = false) {m : Nat} {e : Int}
    (hlimit : seconds b.limitNanos = .finite false m e) : b.Waits := by
  intro attempt
  have hpower := Binary64.hasMinus_powerFrom (min (attempt - 1) greatestPower)
    (Binary64.hasMinus_ofRatio false 1 1) hfactor
  obtain ⟨m', e', hleast⟩ :=
    Binary64.exists_least_eq_finite (Binary64.hasMinus_mul hinitial hpower) m e
  rw [delayAfter?, secondsAfter, hlimit]
  exact hleast ▸ isSome_nanos? m' e'

theorem hasMinus_customary_initial : (seconds 200000000).hasMinus = false := by decide +kernel

/-- Thirty seconds. -/
theorem customary_limit : seconds 30000000000 = .finite false 8444249301319680 (-48) := by
  decide +kernel

/-- The customary delays, with a number of attempts that is taken as it is or raised to one. -/
def Customary (b : Backoff) (attempts : Nat) : Prop :=
  b = { attempts := attempts } ∨ b = upTo attempts

theorem Customary.waits {b : Backoff} {attempts : Nat} (h : b.Customary attempts) : b.Waits := by
  obtain rfl | rfl := h <;>
    exact waits_of_factor hasMinus_customary_initial (Binary64.hasMinus_ofRatio false 2 1)
      customary_limit

theorem Customary.max_attempts {b : Backoff} {attempts : Nat} (h : b.Customary attempts) :
    max 1 b.attempts = max 1 attempts := by
  obtain rfl | rfl := h
  · rfl
  · exact Nat.max_eq_right (Nat.le_max_left ..)

/-! ## What calls come to -/

section

variable {ε α : Type} (isTransient : ε → Bool) (call : Nat → Except ε α)

/-- A success, or an error that will not pass. -/
def Final (result : Except ε α) : Prop := ∀ e, result = .error e → isTransient e = false

/-- The first call whose outcome is final. -/
def FirstFinal (j : Nat) : Prop :=
  1 ≤ j ∧ Final isTransient (call j) ∧ ∀ i, 1 ≤ i → i < j → ¬ Final isTransient (call i)

variable {isTransient call}

theorem final_iff {result : Except ε α} :
    Final isTransient result ↔ passing? isTransient result = none := by
  cases result <;> simp [Final, passing?]

theorem not_final_iff {result : Except ε α} :
    ¬ Final isTransient result ↔ ∃ e, result = .error e ∧ isTransient e = true := by
  cases result <;> simp [Final]

theorem passing?_of_transient {result : Except ε α} {e : ε} (he : result = .error e)
    (htransient : isTransient e = true) : passing? isTransient result = some e := by
  rw [he, passing?, if_pos htransient]

variable (isTransient call)

/-- Calls from an attempt on, with a number of attempts left after it: the errors that are passed
over, and the attempt that is the last one. -/
inductive Passes : Nat → Nat → List ε → Nat → Prop
  | final {attempt left : Nat} : Final isTransient (call attempt) →
      Passes attempt left [] attempt
  | spent {attempt : Nat} {e : ε} : call attempt = .error e → isTransient e = true →
      Passes attempt 0 [] attempt
  | again {attempt left last : Nat} {e : ε} {errors : List ε} : call attempt = .error e →
      isTransient e = true → Passes (attempt + 1) left errors last →
      Passes attempt (left + 1) (e :: errors) last

theorem exists_passes (attempt left : Nat) :
    ∃ errors last, Passes isTransient call attempt left errors last := by
  induction left generalizing attempt with
  | zero =>
    by_cases h : Final isTransient (call attempt)
    · exact ⟨_, _, .final h⟩
    · obtain ⟨e, he, htransient⟩ := not_final_iff.mp h
      exact ⟨_, _, .spent he htransient⟩
  | succ left ih =>
    by_cases h : Final isTransient (call attempt)
    · exact ⟨_, _, .final h⟩
    · obtain ⟨e, he, htransient⟩ := not_final_iff.mp h
      obtain ⟨errors, last, hrest⟩ := ih (attempt + 1)
      exact ⟨_, _, .again he htransient hrest⟩

variable {isTransient call}

namespace Passes

variable {attempt left last : Nat} {errors : List ε}

theorem last_eq (h : Passes isTransient call attempt left errors last) :
    last = attempt + errors.length := by
  induction h with
  | final => rfl
  | spent => rfl
  | again _ _ _ ih =>
    rw [ih, List.length_cons]
    omega

theorem length_le (h : Passes isTransient call attempt left errors last) :
    errors.length ≤ left := by
  induction h with
  | final => exact Nat.zero_le _
  | spent => exact Nat.le_refl _
  | again _ _ _ ih => exact Nat.succ_le_succ ih

theorem length_eq_or_final (h : Passes isTransient call attempt left errors last) :
    errors.length = left ∨ Final isTransient (call last) := by
  induction h with
  | final hfinal => exact .inr hfinal
  | spent => exact .inl rfl
  | again _ _ _ ih => exact ih.imp_left (congrArg (· + 1))

/-- The errors are what the calls before the last one came to. -/
theorem map_call (h : Passes isTransient call attempt left errors last) :
    (List.range' attempt errors.length).map call = errors.map .error := by
  induction h with
  | final => rfl
  | spent => rfl
  | again he _ _ ih => rw [List.length_cons, List.range'_succ, List.map_cons, he, ih, List.map_cons]

theorem not_final_before (h : Passes isTransient call attempt left errors last) {i : Nat}
    (hfrom : attempt ≤ i) (hlast : i < last) : ¬ Final isTransient (call i) := by
  induction h with
  | final => omega
  | spent => omega
  | @again attempt _ _ e _ he htransient _ ih =>
    obtain rfl | hlater := Nat.eq_or_lt_of_le hfrom
    · exact not_final_iff.mpr ⟨e, he, htransient⟩
    · exact ih hlater hlast

theorem last_eq_min {n j : Nat} (h : Passes isTransient call 1 (n - 1) errors last)
    (hj : FirstFinal isTransient call j) : last = min j (max 1 n) := by
  obtain ⟨hone, hfinal, hbefore⟩ := hj
  have hlast := h.last_eq
  have hlength := h.length_le
  -- no call before the last one is final, so that the last one comes no later than the first final
  have hle : last ≤ j := Nat.le_of_not_lt fun hlt => h.not_final_before hone hlt hfinal
  obtain hspent | hend := h.length_eq_or_final
  · omega
  · have hge : j ≤ last := Nat.le_of_not_lt fun hlt => hbefore last (by omega) hlt hend
    omega

theorem last_eq_max {n : Nat} (h : Passes isTransient call 1 (n - 1) errors last)
    (hlast : ¬ Final isTransient (call last)) : last = max 1 n := by
  have hlength := h.length_eq_or_final.resolve_right hlast
  have heq := h.last_eq
  omega

end Passes

/-! ## What a series of calls says and does -/

/-- The warnings about errors that are passed over, from an attempt on. -/
def warnings (operation : String) (describe : ε → String) (attempt : Nat) (errors : List ε) :
    List LogEntry :=
  (errors.zipIdx attempt).map fun p =>
    ⟨.warn, "transient failure, retrying", callFields operation p.2 (describe p.1)⟩

/-- The last word about a call that ends in an error that may pass. -/
def givingUp (operation : String) (describe : ε → String) (isTransient : ε → Bool) (attempt : Nat)
    (result : Except ε α) : List LogEntry :=
  (passing? isTransient result).toList.map fun e =>
    ⟨.error, "giving up", callFields operation attempt (describe e)⟩

variable {b : Backoff} {operation : String} {describe : ε → String}

theorem attemptsFrom_of_final {attempt left : Nat} (h : Final isTransient (call attempt)) :
    b.attemptsFrom operation describe isTransient call attempt left =
      ⟨⟨attempt, .finished (call attempt)⟩, [], []⟩ := by
  rw [attemptsFrom.eq_def, final_iff.mp h]
  rfl

theorem attemptsFrom_of_spent {attempt : Nat} {e : ε} (he : call attempt = .error e)
    (htransient : isTransient e = true) :
    b.attemptsFrom operation describe isTransient call attempt 0 =
      ⟨⟨attempt, .finished (call attempt)⟩,
        [⟨.error, "giving up", callFields operation attempt (describe e)⟩], []⟩ := by
  rw [attemptsFrom.eq_def, passing?_of_transient he htransient]
  rfl

theorem attemptsFrom_of_again (hwaits : b.Waits) {attempt left : Nat} {e : ε}
    (he : call attempt = .error e) (htransient : isTransient e = true) :
    b.attemptsFrom operation describe isTransient call attempt (left + 1) = (do
      log .warn "transient failure, retrying" (callFields operation attempt (describe e))
      b.attemptsFrom operation describe isTransient call (attempt + 1) left) := by
  obtain ⟨nanos, hnanos⟩ := Option.isSome_iff_exists.mp (hwaits attempt)
  rw [attemptsFrom.eq_def, passing?_of_transient he htransient]
  simp only [hnanos]

theorem Passes.attemptsFrom_eq (hwaits : b.Waits) {attempt left last : Nat} {errors : List ε}
    (h : Passes isTransient call attempt left errors last) :
    b.attemptsFrom operation describe isTransient call attempt left =
      ⟨⟨last, .finished (call last)⟩, warnings operation describe attempt errors ++
        givingUp operation describe isTransient last (call last), []⟩ := by
  induction h with
  | final hfinal =>
    rw [attemptsFrom_of_final hfinal, givingUp, final_iff.mp hfinal]
    rfl
  | spent he htransient =>
    rw [attemptsFrom_of_spent he htransient, givingUp, passing?_of_transient he htransient]
    rfl
  | again he htransient _ ih =>
    rw [attemptsFrom_of_again hwaits he htransient, ih]
    rfl

/-! ## A counter in a word -/

theorem toNat_raised {n : UInt32} (h : n.toNat + 1 < UInt32.size) :
    (n + 1).toNat = n.toNat + 1 := by
  rw [UInt32.toNat_add]
  exact Nat.mod_eq_of_lt h

/-- Calls from an attempt on, counted in a word of 32 bits. The counter is compared with the number
of attempts after a failure, and raised before the next call; none if it leaves its word. -/
def countedFrom (b : Backoff) (operation : String) (describe : ε → String)
    (isTransient : ε → Bool) (call : Nat → Except ε α) (attempts attempt : UInt32) :
    Option (Traced (Attempts ε α)) :=
  match passing? isTransient (call attempt.toNat) with
  | none => some (return ⟨attempt.toNat, .finished (call attempt.toNat)⟩)
  | some e =>
    if attempts ≤ attempt then some do
      log .error "giving up" (callFields operation attempt.toNat (describe e))
      return ⟨attempt.toNat, .finished (call attempt.toNat)⟩
    else
      match b.delayAfter? attempt.toNat with
      | none => some (return ⟨attempt.toNat, .negativeDelay⟩)
      | some _ =>
        if _ : attempt.toNat + 1 < UInt32.size then
          (countedFrom b operation describe isTransient call attempts (attempt + 1)).map
            fun rest => do
              log .warn "transient failure, retrying"
                (callFields operation attempt.toNat (describe e))
              rest
        else none
termination_by UInt32.size - attempt.toNat
decreasing_by
  have hnext := toNat_raised (n := attempt) (by assumption)
  omega

/-- The counter never leaves its word: it is raised only while it is less than another word. -/
theorem countedFrom_eq (b : Backoff) (operation : String) (describe : ε → String)
    (isTransient : ε → Bool) (call : Nat → Except ε α) {left : Nat} {attempts attempt : UInt32}
    (h : left = attempts.toNat - attempt.toNat) :
    b.countedFrom operation describe isTransient call attempts attempt =
      some (b.attemptsFrom operation describe isTransient call attempt.toNat left) := by
  -- as long as attempts are left, the counter is below their number, and so is not the last word
  induction left generalizing attempt with
  | zero =>
    have hspent : attempts ≤ attempt := UInt32.le_iff_toNat_le.mpr (by omega)
    rw [countedFrom.eq_def, attemptsFrom.eq_def]
    cases passing? isTransient (call attempt.toNat) with
    | none => rfl
    | some e => simp only [if_pos hspent]
  | succ left ih =>
    have hleft : ¬ attempts ≤ attempt := by
      rw [UInt32.le_iff_toNat_le]
      omega
    have hsize : attempt.toNat + 1 < UInt32.size :=
      Nat.lt_of_le_of_lt (by omega) attempts.toNat_lt_size
    have hnext := toNat_raised hsize
    rw [countedFrom.eq_def, attemptsFrom.eq_def]
    cases passing? isTransient (call attempt.toNat) with
    | none => rfl
    | some e =>
      simp only [if_neg hleft, dif_pos hsize]
      cases b.delayAfter? attempt.toNat with
      | none => rfl
      | some _ => rw [ih (by omega), hnext, Option.map_some]

/-! ## Series from the first attempt -/

theorem givingUp_of_final {result : Except ε α} (h : Final isTransient result) (attempt : Nat) :
    givingUp operation describe isTransient attempt result = [] := by
  rw [givingUp, final_iff.mp h]
  rfl

theorem exists_retry_eq (hwaits : b.Waits) (operation : String) (describe : ε → String)
    (isTransient : ε → Bool) (call : Nat → Except ε α) :
    ∃ errors calls, Passes isTransient call 1 (b.attempts - 1) errors calls ∧
      b.retry operation describe isTransient call =
        ⟨⟨calls, .finished (call calls)⟩, warnings operation describe 1 errors ++
          givingUp operation describe isTransient (max 1 b.attempts) (call calls), []⟩ := by
  obtain ⟨errors, calls, h⟩ := exists_passes isTransient call 1 (b.attempts - 1)
  refine ⟨errors, calls, h, ?_⟩
  rw [retry, h.attemptsFrom_eq hwaits]
  by_cases hlast : Final isTransient (call calls)
  · rw [givingUp_of_final hlast, givingUp_of_final hlast]
  · rw [h.last_eq_max hlast]

/-- **Retries are bounded.** An operation is called up to its first final outcome, at most as often
as there are attempts and once at least, and the last outcome is what is given. Each earlier error
is warned about, and the last one is reported if it might have passed. A counter of 32 bits does. -/
theorem retry_bounded (m : UInt32) (b : Backoff) (hb : b.Customary m.toNat) (operation : String)
    (describe : ε → String) (isTransient : ε → Bool) (call : Nat → Except ε α) :
    ∃ (calls : Nat) (errors : List ε),
      b.retry operation describe isTransient call =
        ⟨⟨calls, .finished (call calls)⟩, warnings operation describe 1 errors ++
          givingUp operation describe isTransient (max 1 m.toNat) (call calls), []⟩ ∧
      (List.range' 1 (calls - 1)).map call = errors.map .error ∧
      (∀ j, FirstFinal isTransient call j → calls = min j (max 1 m.toNat)) ∧
      ((∀ j, 1 ≤ j → ¬ Final isTransient (call j)) → calls = max 1 m.toNat) ∧
      ∀ attempts : UInt32, attempts.toNat = b.attempts →
        b.countedFrom operation describe isTransient call attempts 1 =
          some (b.retry operation describe isTransient call) := by
  obtain ⟨errors, calls, hpasses, hretry⟩ :=
    exists_retry_eq hb.waits operation describe isTransient call
  have hattempts := hb.max_attempts
  have hcalls := hpasses.last_eq
  rw [hattempts] at hretry
  refine ⟨calls, errors, hretry, ?_, fun j hj => hattempts ▸ hpasses.last_eq_min hj,
    fun hnone => hattempts ▸ hpasses.last_eq_max (hnone calls (by omega)), fun attempts hword => ?_⟩
  · rw [hcalls, Nat.add_sub_cancel_left]
    exact hpasses.map_call
  · exact countedFrom_eq b operation describe isTransient call (by rw [hword]; rfl)

/-- Fails twice. -/
def thirdTime (n : Nat) : Except String Nat := if n < 3 then .error "unavailable" else .ok n

/-- Fails every time. -/
def never (_ : Nat) : Except String Nat := .error "unavailable"

theorem firstFinal_thirdTime : FirstFinal (fun _ => true) thirdTime 3 := by
  refine ⟨by decide, by simp [Final, thirdTime], fun i _ hi hfinal => ?_⟩
  have := hfinal "unavailable" (if_pos hi)
  cases this

theorem retry_bounded_third_time :
    (∃ errors, Backoff.retry { attempts := 5 } "get" id (fun _ => true) thirdTime =
      ⟨⟨3, .finished (.ok 3)⟩, warnings "get" id 1 errors, []⟩ ∧
      [Except.error "unavailable", .error "unavailable"] = errors.map (Except.error (α := Nat))) ∧
    ((upTo 0).retry "get" id (fun _ => true) never).value.calls = 1 ∧
    Backoff.countedFrom { attempts := 4294967295 } "get" id (fun _ => true) never 4294967295 1 =
      some (Backoff.retry { attempts := 4294967295 } "get" id (fun _ => true) never) := by
  obtain ⟨calls, errors, hretry, herrors, hfirst, -, -⟩ :=
    retry_bounded 5 { attempts := 5 } (.inl rfl) "get" id (fun _ => true) thirdTime
  obtain rfl : calls = 3 := hfirst 3 firstFinal_thirdTime
  obtain ⟨once, _, hspent, -, -, hnone, -⟩ :=
    retry_bounded 0 (upTo 0) (.inr rfl) "get" id (fun _ => true) never
  obtain ⟨_, _, -, -, -, -, hcounted⟩ :=
    retry_bounded 4294967295 { attempts := 4294967295 } (.inl rfl) "get" id (fun _ => true) never
  refine ⟨⟨errors, ?_, herrors⟩, ?_, hcounted _ rfl⟩
  · rw [hretry]
    exact congrArg (Traced.mk _ · _) (List.append_nil _)
  · rw [hspent]
    exact hnone fun j _ hfinal => absurd (hfinal "unavailable" rfl) (by decide)

end

end Backoff

end FleetExporter
