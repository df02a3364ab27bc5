import FleetExporter.Binary64.Basic
import FleetExporter.Traced

/-! Bounded retries with growing delays. An operation is called until it succeeds, fails for good or
has used up its attempts; after each failure that may pass there is a delay, which grows by a
factor up to a limit. Delays are computed in seconds and rounded to nanoseconds. -/
namespace FleetExporter

structure Backoff where
  /-- How often an operation is called at most; it is called once in any case. -/
  attempts : Nat
  initialNanos : Nat := 200000000
  limitNanos : Nat := 30000000000
  factor : Binary64 := .ofNat 2
  deriving DecidableEq, Repr

/-- How a series of calls ended. A delay that comes out negative ends it at once. -/
inductive Ending (ε α : Type) where
  | finished (result : Except ε α)
  | negativeDelay

/-- A series of calls: how many there were, and how it ended. -/
structure Attempts (ε α : Type) where
  calls : Nat
  ending : Ending ε α

namespace Backoff

open Traced (log)

/-- The customary delays and at least one attempt. -/
def upTo (attempts : Nat) : Backoff where
  attempts := max 1 attempts

def nanosPerSecond : Nat := 1000000000

/-- A span as a number of seconds. -/
def seconds (nanos : Nat) : Binary64 :=
  (Binary64.ofNat (nanos / nanosPerSecond)).add
    ((Binary64.ofNat (nanos % nanosPerSecond)).div (Binary64.ofNat nanosPerSecond))

/-- The greatest number of times the factor is applied. -/
def greatestPower : Nat := Nat.pow 2 31 - 1

/-- The seconds to wait after a failed attempt; attempts are numbered from one. -/
def secondsAfter (b : Backoff) (attempt : Nat) : Binary64 :=
  ((seconds b.initialNanos).mul (b.factor.power (min (attempt - 1) greatestPower))).least
    (seconds b.limitNanos)

/-- A span in nanoseconds, a tie to the even neighbour; none if it is negative or no span. -/
def nanos? : Binary64 → Option Nat
  | .finite negative significand exponent =>
    if negative && significand != 0 then none
    else
      let (num, den) := Binary64.ratio significand exponent
      some (Binary64.roundQuotient (num * nanosPerSecond) den)
  | _ => none

/-- The delay after a failed attempt in nanoseconds; none if it is negative. -/
def delayAfter? (b : Backoff) (attempt : Nat) : Option Nat := nanos? (b.secondsAfter attempt)

variable {ε α : Type}

def callFields (operation : String) (attempt : Nat) (error : String) : List (String × String) :=
  [("operation", operation), ("attempt", toString attempt), ("error", error)]

/-- The error after which another call may help. -/
def passing? (isTransient : ε → Bool) : Except ε α → Option ε
  | .ok _ => none
  | .error e => if isTransient e then some e else none

/-- Calls from an attempt on, with a number of attempts left after it. -/
def attemptsFrom (b : Backoff) (operation : String) (describe : ε → String)
    (isTransient : ε → Bool) (call : Nat → Except ε α) (attempt left : Nat) :
    Traced (Attempts ε α) :=
  match passing? isTransient (call attempt), left with
  | none, _ => return ⟨attempt, .finished (call attempt)⟩
  | some e, 0 => do
    log .error "giving up" (callFields operation attempt (describe e))
    return ⟨attempt, .finished (call attempt)⟩
  | some e, left + 1 =>
    match b.delayAfter? attempt with
    | none => return ⟨attempt, .negativeDelay⟩
    | some _ => do
      log .warn "transient failure, retrying" (callFields operation attempt (describe e))
      attemptsFrom b operation describe isTransient call (attempt + 1) left

/-- Calls an operation until it succeeds, fails for good or has used up its attempts. The call is
given the number of the attempt. -/
def retry (b : Backoff) (operation : String) (describe : ε → String) (isTransient : ε → Bool)
    (call : Nat → Except ε α) : Traced (Attempts ε α) :=
  b.attemptsFrom operation describe isTransient call 1 (b.attempts - 1)

end Backoff

end FleetExporter
