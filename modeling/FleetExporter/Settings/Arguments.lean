import FleetExporter.Text.Numeral

/-! The command line. Each setting is a flag with a value, and the environment fills in settings
that no flag gives. A value is checked when its flag is done, that is at the next flag or at the
end; a word that is no flag and belongs to none is refused before that. -/
namespace FleetExporter

inductive LogFormat where
  | json
  | text
  deriving DecidableEq, Repr

def LogFormat.name : LogFormat → String
  | json => "json"
  | text => "text"

def LogFormat.ofName? : String → Option LogFormat
  | "json" => some .json
  | "text" => some .text
  | _ => none

/-- What the command line can set. -/
inductive Setting where
  | host
  | port
  | namespaces
  | hubClusterId
  | kubeconfig
  | logFormat
  deriving DecidableEq, Repr

namespace Setting

def all : List Setting := [host, port, namespaces, hubClusterId, kubeconfig, logFormat]

def flag : Setting → String
  | host => "host"
  | port => "port"
  | namespaces => "namespaces"
  | hubClusterId => "hub-cluster-id"
  | kubeconfig => "kubeconfig"
  | logFormat => "log-format"

/-- The environment variable that stands in for the flag. -/
def variableName : Setting → String
  | host => "METRICS_HOST"
  | port => "METRICS_PORT"
  | namespaces => "WATCH_NAMESPACES"
  | hubClusterId => "HUB_CLUSTER_ID"
  | kubeconfig => "KUBECONFIG"
  | logFormat => "LOG_FORMAT"

def ofFlag? (name : String) : Option Setting := all.find? (·.flag = name)

end Setting

/-- Why a command line is not carried out. -/
inductive Refusal where
  | unknownArgument
  | invalidValue
  | valueValidation
  | argumentConflict
  | tooManyValues
  | displayHelp
  | displayVersion
  deriving DecidableEq, Repr

/-- The settings of a command line as they are given. -/
structure Arguments where
  host : String := "0.0.0.0"
  port : Nat := 8080
  namespaces : List String := []
  hubClusterId : Option String := none
  kubeconfig : Option String := none
  logFormat : LogFormat := .json
  deriving DecidableEq, Repr

/-- What has been given so far. -/
structure Given where
  host : Option String := none
  port : Option Nat := none
  namespaces : Option (List String) := none
  hubClusterId : Option String := none
  kubeconfig : Option String := none
  logFormat : Option LogFormat := none
  deriving DecidableEq, Repr

namespace Given

def isGiven (g : Given) : Setting → Bool
  | .host => g.host.isSome
  | .port => g.port.isSome
  | .namespaces => g.namespaces.isSome
  | .hubClusterId => g.hubClusterId.isSome
  | .kubeconfig => g.kubeconfig.isSome
  | .logFormat => g.logFormat.isSome

/-- A port is a number of sixteen bits. -/
def readPort (value : String) : Option Nat :=
  (Text.integer? value.toList).bind fun n => if 0 ≤ n ∧ n < 65536 then some n.toNat else none

/-- Parts of a text between commas. -/
def splitCommas (s : String) : List String := s.splitOn ","

/-- Takes the value of a setting. -/
def give (g : Given) (value : String) : Setting → Except Refusal Given
  | .host => .ok { g with host := some value }
  | .port =>
    match readPort value with
    | none => .error .valueValidation
    | some port => .ok { g with port := some port }
  | .namespaces =>
    .ok { g with namespaces := some (g.namespaces.getD [] ++ splitCommas value) }
  | .hubClusterId => .ok { g with hubClusterId := some value }
  | .kubeconfig =>
    if value = "" then .error .invalidValue else .ok { g with kubeconfig := some value }
  | .logFormat =>
    match LogFormat.ofName? value with
    | none => .error .invalidValue
    | some format => .ok { g with logFormat := some format }

/-- Takes the value of a flag. Only namespaces may be given more than once. -/
def giveOnce (g : Given) (s : Setting) (value : String) : Except Refusal Given :=
  if s ≠ .namespaces && g.isGiven s then .error .argumentConflict else g.give value s

/-- Fills in from the environment what no flag gives. -/
def fillIn (environment : String → Option String) : List Setting → Given → Except Refusal Given
  | [], g => .ok g
  | s :: rest, g =>
    match (if g.isGiven s then none else environment s.variableName) with
    | none => fillIn environment rest g
    | some value =>
      match g.give value s with
      | .error r => .error r
      | .ok g => fillIn environment rest g

/-- What is given, and the customary values of the rest. -/
def complete (g : Given) : Arguments :=
  let d : Arguments := {}
  ⟨g.host.getD d.host, g.port.getD d.port, g.namespaces.getD d.namespaces, g.hubClusterId,
   g.kubeconfig, g.logFormat.getD d.logFormat⟩

end Given

namespace Arguments

/-- An argument: the mark that ends the flags, a long flag with or without a value, short flags by
their first letter, or a word. A single dash is a word. -/
inductive Token where
  | divider
  | long (name : String) (value : Option String)
  | short (letter : Char)
  | word (text : String)

def Token.ofLong (s : List Char) : Token :=
  let name := String.ofList (s.takeWhile (· ≠ '='))
  match s.dropWhile (· ≠ '=') with
  | [] => .long name none
  | _ :: value => .long name (some (String.ofList value))

def Token.ofArgument (argument : String) : Token :=
  match argument.toList with
  | ['-', '-'] => .divider
  | '-' :: '-' :: rest => .ofLong rest
  | '-' :: letter :: _ => .short letter
  | _ => .word argument

/-- A flag that waits for its value, or for the check of its value. -/
structure Pending where
  setting : Setting
  value : Option String := none

/-- Checks the value of the flag before. -/
def settle (g : Given) : Option Pending → Except Refusal Given
  | none => .ok g
  | some ⟨_, none⟩ => .error .invalidValue
  | some ⟨s, some value⟩ => g.giveOnce s value

/-- A request to be told something, after the flag before is checked. -/
def tell (g : Given) (p : Option Pending) (r : Refusal) : Except Refusal Given :=
  match settle g p with
  | .error e => .error e
  | .ok _ => .error r

/-- A flag that is no setting. -/
def special (g : Given) (p : Option Pending) (name : String) (value : Option String) :
    Except Refusal Given :=
  match name, value with
  | "help", none => tell g p .displayHelp
  | "version", none => tell g p .displayVersion
  | "help", some _ => .error .tooManyValues
  | "version", some _ => .error .tooManyValues
  | _, _ => .error .unknownArgument

/-- Reads arguments one after the other. -/
def readFrom (g : Given) (p : Option Pending) : List String → Except Refusal Given
  | [] => settle g p
  | argument :: rest =>
    match Token.ofArgument argument with
    | .divider => if rest = [] then settle g p else .error .unknownArgument
    | .short 'h' => tell g p .displayHelp
    | .short 'V' => tell g p .displayVersion
    | .short _ => .error .unknownArgument
    | .word value =>
      match p with
      | some ⟨s, none⟩ => readFrom g (some ⟨s, some value⟩) rest
      | _ => .error .unknownArgument
    | .long name value =>
      match Setting.ofFlag? name with
      | none => special g p name value
      | some s =>
        match settle g p with
        | .error r => .error r
        | .ok g =>
          match value with
          | none => readFrom g (some ⟨s, none⟩) rest
          | some value =>
            match g.giveOnce s value with
            | .error r => .error r
            | .ok g => readFrom g none rest

/-- The settings that arguments and environment give together. -/
def read (environment : String → Option String) (arguments : List String) :
    Except Refusal Arguments :=
  match readFrom {} none arguments with
  | .error r => .error r
  | .ok g => (g.fillIn environment Setting.all).map (·.complete)

end Arguments

end FleetExporter
