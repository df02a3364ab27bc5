/-! Computations that also report: log entries, and the objects they looked up. Sequencing keeps
the reports in order, so a trace is part of the value that is reasoned about. -/
namespace FleetExporter

inductive Level where
  | trace
  | debug
  | info
  | warn
  | error
  deriving DecidableEq, Repr

namespace Level

def name : Level → String
  | trace => "trace"
  | debug => "debug"
  | info => "info"
  | warn => "warn"
  | error => "error"

end Level

structure LogEntry where
  level : Level
  message : String
  fields : List (String × String) := []
  deriving DecidableEq, Repr

/-- A companion object that was asked for. -/
inductive Lookup where
  | cluster (name : String)
  | deployment (namespaceName name : String)
  deriving DecidableEq, Repr

structure Traced (α : Type) where
  value : α
  logs : List LogEntry := []
  lookups : List Lookup := []

namespace Traced

variable {α β : Type}

def pure (a : α) : Traced α := ⟨a, [], []⟩

def bind (x : Traced α) (f : α → Traced β) : Traced β :=
  let y := f x.value
  ⟨y.value, x.logs ++ y.logs, x.lookups ++ y.lookups⟩

instance : Monad Traced where
  pure := pure
  bind := bind

def log (level : Level) (message : String) (fields : List (String × String)) : Traced Unit :=
  ⟨(), [⟨level, message, fields⟩], []⟩

def lookup (l : Lookup) : Traced Unit := ⟨(), [], [l]⟩

@[simp] theorem value_pure (a : α) : (Pure.pure a : Traced α).value = a := rfl

@[simp] theorem logs_pure (a : α) : (Pure.pure a : Traced α).logs = [] := rfl

@[simp] theorem lookups_pure (a : α) : (Pure.pure a : Traced α).lookups = [] := rfl

@[simp] theorem value_bind (x : Traced α) (f : α → Traced β) :
    (x >>= f).value = (f x.value).value := rfl

@[simp] theorem logs_bind (x : Traced α) (f : α → Traced β) :
    (x >>= f).logs = x.logs ++ (f x.value).logs := rfl

@[simp] theorem lookups_bind (x : Traced α) (f : α → Traced β) :
    (x >>= f).lookups = x.lookups ++ (f x.value).lookups := rfl

@[simp] theorem value_map (f : α → β) (x : Traced α) : (f <$> x).value = f x.value := rfl

@[simp] theorem lookups_map (f : α → β) (x : Traced α) : (f <$> x).lookups = x.lookups :=
  List.append_nil _

@[simp] theorem lookups_log (level : Level) (message : String) (fields : List (String × String)) :
    (log level message fields).lookups = [] := rfl

theorem ext {x y : Traced α} (value : x.value = y.value) (logs : x.logs = y.logs)
    (lookups : x.lookups = y.lookups) : x = y := by
  cases x
  cases y
  simp_all

instance : LawfulMonad Traced := LawfulMonad.mk' Traced
  (fun _ => ext rfl (List.append_nil _) (List.append_nil _))
  (fun _ _ => rfl)
  (fun _ _ _ => ext rfl (List.append_assoc ..) (List.append_assoc ..))

end Traced

end FleetExporter
