import FleetExporter.Text.Quoted

/-! What can go wrong, by cause, and the words for it. -/
namespace FleetExporter

/-- An answer of the API server that refuses a request. -/
structure ApiStatus where
  status : String := ""
  message : String := ""
  reason : String := ""
  code : Nat := 0
  deriving DecidableEq, Repr

/-- Why a request to the API server gave no object. -/
inductive RequestError where
  | refused (status : ApiStatus)
  | unreachable (reason : String)
  | unreadable
  | invalidRequest (reason : String)
  deriving DecidableEq, Repr

inductive Error where
  | request (cause : RequestError)
  | decode (kind name message : String)
  | config (message : String)
  | server (message : String)
  | encode (message : String)
  deriving DecidableEq, Repr

namespace ApiStatus

def text (s : ApiStatus) : String :=
  s.message ++ ": " ++ s.reason ++ " (ErrorResponse \x7b status: " ++ Text.quoted s.status ++
    ", message: " ++ Text.quoted s.message ++ ", reason: " ++ Text.quoted s.reason ++
    ", code: " ++ toString s.code ++ " \x7d)"

end ApiStatus

namespace RequestError

def message : RequestError → String
  | refused status => "ApiError: " ++ status.text
  | unreachable reason => "ServiceError: " ++ reason
  | unreadable => "Error deserializing response"
  | invalidRequest reason => "Failed to build request: " ++ reason

end RequestError

namespace Error

def message : Error → String
  | request cause => "kubernetes error: " ++ cause.message
  | decode kind name message => "decode error for " ++ kind ++ " " ++ name ++ ": " ++ message
  | config message => "configuration error: " ++ message
  | server message => "server error: " ++ message
  | encode message => "encode error: " ++ message

/-- A refusal because the object does not exist, told by its code. -/
def isNotFound : Error → Bool
  | request (.refused status) => status.code = 404
  | _ => false

/-- What the text encoder complained about. -/
def ofEncoder (complaint : String) : Error := .encode ("Error: " ++ complaint)

end Error

end FleetExporter
