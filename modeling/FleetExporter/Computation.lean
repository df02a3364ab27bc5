import FleetExporter.Traced

/-! Computations in machine words. When an operation leaves its word, what follows depends on how
the program was built: arithmetic that wraps around goes on, and checked arithmetic ends the
computation, and with it the program. A computation tells both: what it comes to if it goes on, and
whether a checked one ends on the way. -/
namespace FleetExporter

/-- A value with its reports as arithmetic has them that wraps around, and whether an operation left
its word before it was there. -/
structure Computation (α : Type) extends Traced α where
  overflowed : Bool := false

namespace Computation

variable {α β : Type}

def pure (a : α) : Computation α := { value := a }

def bind (x : Computation α) (f : α → Computation β) : Computation β :=
  let y := f x.value
  ⟨⟨y.value, x.logs ++ y.logs, x.lookups ++ y.lookups⟩, x.overflowed || y.overflowed⟩

instance : Monad Computation where
  pure := pure
  bind := bind

/-- Without arithmetic nothing overflows. -/
instance : MonadLift Traced Computation where
  monadLift x := ⟨x, false⟩

/-- What the words are for a checked operation that leaves its word. -/
def overflowText : String := "attempt to subtract with overflow"

/-- What checked arithmetic comes to: nothing, once an operation left its word. -/
def checked (x : Computation α) : Option α := if x.overflowed then none else some x.value

@[simp] theorem value_pure (a : α) : (Pure.pure a : Computation α).value = a := rfl

@[simp] theorem logs_pure (a : α) : (Pure.pure a : Computation α).logs = [] := rfl

@[simp] theorem lookups_pure (a : α) : (Pure.pure a : Computation α).lookups = [] := rfl

@[simp] theorem overflowed_pure (a : α) : (Pure.pure a : Computation α).overflowed = false := rfl

@[simp] theorem value_bind (x : Computation α) (f : α → Computation β) :
    (x >>= f).value = (f x.value).value := rfl

@[simp] theorem logs_bind (x : Computation α) (f : α → Computation β) :
    (x >>= f).logs = x.logs ++ (f x.value).logs := rfl

@[simp] theorem lookups_bind (x : Computation α) (f : α → Computation β) :
    (x >>= f).lookups = x.lookups ++ (f x.value).lookups := rfl

@[simp] theorem overflowed_bind (x : Computation α) (f : α → Computation β) :
    (x >>= f).overflowed = (x.overflowed || (f x.value).overflowed) := rfl

@[simp] theorem toTraced_lift (x : Traced α) : (liftM x : Computation α).toTraced = x := rfl

@[simp] theorem overflowed_lift (x : Traced α) : (liftM x : Computation α).overflowed = false := rfl

theorem checked_eq_none_iff {x : Computation α} : x.checked = none ↔ x.overflowed = true := by
  simp [checked]

theorem checked_eq_some_iff {x : Computation α} {a : α} :
    x.checked = some a ↔ x.overflowed = false ∧ x.value = a := by
  cases h : x.overflowed <;> simp [checked, h]

end Computation

end FleetExporter
