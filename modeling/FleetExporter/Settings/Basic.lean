import FleetExporter.Error
import FleetExporter.Settings.Address
import FleetExporter.Settings.Arguments
import FleetExporter.Settings.Namespaces

/-! The settings the program runs with: arguments whose address is one, with a clean selection of
namespaces and an identifier that is not blank. -/
namespace FleetExporter

structure Settings where
  address : Address
  port : Nat
  namespaces : List String
  hubClusterId : Option String
  kubeconfig : Option String
  logFormat : LogFormat
  deriving DecidableEq, Repr

namespace Settings

/-- The trimmed text, unless it is blank. -/
def nonBlank (s : Option String) : Option String := (s.map Text.trim).filter (· ≠ "")

def hostMessage (host : String) : String :=
  "invalid --host '" ++ host ++ "': invalid IP address syntax"

def ofArguments (a : Arguments) : Except Error Settings :=
  match Address.read? a.host with
  | none => .error (.config (hostMessage a.host))
  | some address =>
    .ok ⟨address, a.port, Namespaces.select a.namespaces, nonBlank a.hubClusterId, a.kubeconfig,
      a.logFormat⟩

/-- The address and port to listen at. -/
def listen (s : Settings) : String := s.address.withPort s.port

end Settings

end FleetExporter
