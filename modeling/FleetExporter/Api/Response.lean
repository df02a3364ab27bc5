import FleetExporter.Schema
import FleetExporter.Error

/-! Answers of the API server: what a status code is called, and what an answer that refuses a
request says about it. -/
namespace FleetExporter.Api

/-- The transport failed, or the server answered with a text. A body that is no UTF-8 is left out:
it fails to be read before any of the answers here are told apart. -/
inductive Response where
  | failed (reason : String)
  | answered (status : Nat) (body : String)
  deriving DecidableEq, Repr

/-- The customary phrase of a status code that refuses a request. -/
def phrase : Nat → String
  | 400 => "Bad Request"
  | 401 => "Unauthorized"
  | 402 => "Payment Required"
  | 403 => "Forbidden"
  | 404 => "Not Found"
  | 405 => "Method Not Allowed"
  | 406 => "Not Acceptable"
  | 407 => "Proxy Authentication Required"
  | 408 => "Request Timeout"
  | 409 => "Conflict"
  | 410 => "Gone"
  | 411 => "Length Required"
  | 412 => "Precondition Failed"
  | 413 => "Payload Too Large"
  | 414 => "URI Too Long"
  | 415 => "Unsupported Media Type"
  | 416 => "Range Not Satisfiable"
  | 417 => "Expectation Failed"
  | 418 => "I'm a teapot"
  | 421 => "Misdirected Request"
  | 422 => "Unprocessable Entity"
  | 423 => "Locked"
  | 424 => "Failed Dependency"
  | 425 => "Too Early"
  | 426 => "Upgrade Required"
  | 428 => "Precondition Required"
  | 429 => "Too Many Requests"
  | 431 => "Request Header Fields Too Large"
  | 451 => "Unavailable For Legal Reasons"
  | 500 => "Internal Server Error"
  | 501 => "Not Implemented"
  | 502 => "Bad Gateway"
  | 503 => "Service Unavailable"
  | 504 => "Gateway Timeout"
  | 505 => "HTTP Version Not Supported"
  | 506 => "Variant Also Negotiates"
  | 507 => "Insufficient Storage"
  | 508 => "Loop Detected"
  | 510 => "Not Extended"
  | 511 => "Network Authentication Required"
  | _ => "<unknown status code>"

def isRefusal (status : Nat) : Bool := 400 ≤ status && status < 600

/-- An integer of 16 bits without sign. -/
def readCode : Reader Nat := .scalar fun
  | .integer n =>
    if 0 ≤ n ∧ n < 65536 then .ok n.toNat else .error (.outOfRange n "u16")
  | j => .error (.wrongType j "u16")

/-- A status under construction: its state and its code are required. -/
structure StatusParts where
  status : Option String := none
  message : String := ""
  reason : String := ""
  code : Option Nat := none

def statusFields : List (Field StatusParts) :=
  [.make "status" .text fun v p => { p with status := some v },
   .make "message" .text fun v p => { p with message := v },
   .make "reason" .text fun v p => { p with reason := v },
   .make "code" readCode fun v p => { p with code := some v }]

def readParts : Reader StatusParts :=
  .once statusFields (.record "ErrorResponse" statusFields {})

def readStatus : Reader ApiStatus := .judging readParts.scan fun j =>
  match readParts j with
  | .error m => .error m
  | .ok p =>
    match p.status, p.code with
    | some status, some code => .ok ⟨status, p.message, p.reason, code⟩
    | none, _ => .error (.missingField "status")
    | some _, none => .error (.missingField "code")

/-- The status that a text holds. -/
def statusOf? (text : String) : Option ApiStatus := (readStatus.ofText text).toOption

/-- What a refusal says: the status in its body, or else the code and the body itself. -/
def refusal (code : Nat) (body : String) : ApiStatus :=
  (statusOf? body).getD
    ⟨toString code ++ " " ++ phrase code, Text.quoted body, "Failed to parse error data", code⟩

/-- What an answer holds, read as JSON unless it refuses the request. -/
def decodeAnswer {α : Type} (r : Reader α) : Response → Except RequestError α
  | .failed reason => .error (.unreachable reason)
  | .answered status body =>
    if isRefusal status then .error (.refused (refusal status body))
    else
      match r.ofText body with
      | .error _ => .error .unreadable
      | .ok a => .ok a

end FleetExporter.Api
