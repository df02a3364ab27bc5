/-! The target of a request: what may stand in one, and the path and the query it names. A target
is a path with a query, or such a path behind a scheme and an authority, or an authority alone,
which names no path. A fragment is cut off, and nothing is decoded. -/
namespace FleetExporter.Http

inductive TargetFault where
  | empty
  | tooLong
  | badCharacter
  | badAuthority
  | badFormat
  | schemeTooLong
  deriving DecidableEq, Repr

def TargetFault.message : TargetFault → String
  | empty => "empty string"
  | tooLong => "uri too long"
  | badCharacter => "invalid uri character"
  | badAuthority => "invalid authority"
  | badFormat => "invalid format"
  | schemeTooLong => "scheme too long"

/-- What a target names; the path of an authority alone is empty. -/
structure Target where
  path : String
  query : Option String := none
  deriving DecidableEq, Repr

namespace Target

/-- The path, and the query behind its mark. -/
def text (t : Target) : String :=
  match t.query with
  | none => t.path
  | some query => t.path ++ "?" ++ query

def backquote : Char := Char.ofNat 0x60

/-- Not a blank or a control of ASCII. What is beyond ASCII may stand in a path and in a query. -/
def isShown (c : Char) : Bool := 0x20 < c.toNat && c.toNat ≠ 0x7f

def isPathChar (c : Char) : Bool := isShown c && c ≠ '<' && c ≠ '>' && c ≠ backquote

def isQueryChar (c : Char) : Bool := isShown c && c ≠ '<' && c ≠ '>' && c ≠ '"'

/-- Characters of a scheme; the tilde is let through. -/
def isSchemeChar (c : Char) : Bool := c.isAlphanum || "+-.~".toList.contains c

/-- Characters of an authority, besides those that divide it. -/
def isAuthorityChar (c : Char) : Bool := c.isAlphanum || "!$&'()*+,-.;=_~%".toList.contains c

def endsAuthority (c : Char) : Bool := c = '/' || c = '?' || c = '#'

/-- A path with a query; an empty path is the root. -/
def ofPath (s : List Char) : Except TargetFault Target :=
  let shown := s.takeWhile (· ≠ '#')
  let path := shown.takeWhile (· ≠ '?')
  let query := (shown.dropWhile (· ≠ '?')).tail?
  if path.all isPathChar && query.all (·.all isQueryChar) then
    .ok ⟨String.ofList (if path = [] then ['/'] else path), query.map String.ofList⟩
  else .error .badCharacter

/-- What has been seen of an authority. The counts start anew after user information and after a
bracketed host. -/
structure Seen where
  colons : Nat := 0
  opened : Bool := false
  closed : Bool := false
  percent : Bool := false
  last : Option Char := none

def greatestColons : Nat := 8

/-- One more character of an authority. -/
def see (s : Seen) (c : Char) : Except TargetFault Seen :=
  if c = ':' then
    if greatestColons ≤ s.colons then .error .badAuthority
    else .ok { s with colons := s.colons + 1, last := some c }
  else if c = '[' then
    if s.percent || s.opened then .error .badAuthority
    else .ok { s with opened := true, last := some c }
  else if c = ']' then
    if !s.opened || s.closed then .error .badAuthority
    else .ok { s with closed := true, colons := 0, percent := false, last := some c }
  else if c = '@' then .ok { s with colons := 0, percent := false, last := some c }
  else if isAuthorityChar c then .ok { s with percent := s.percent || c = '%', last := some c }
  else .error .badCharacter

def seeAll : Seen → List Char → Except TargetFault Seen
  | s, [] => .ok s
  | s, c :: rest =>
    match see s c with
    | .error f => .error f
    | .ok s => seeAll s rest

/-- Checks an authority: brackets in pairs, one port at most, something behind the user
information, and no percent sign in the host. -/
def checkAuthority (s : List Char) : Except TargetFault Unit :=
  match seeAll {} s with
  | .error f => .error f
  | .ok seen =>
    if seen.opened != seen.closed || 1 < seen.colons || seen.last = some '@' || seen.percent then
      .error .badAuthority
    else .ok ()

def longestScheme : Nat := 64

/-- What follows the scheme, if there is one. -/
def afterScheme? (s : List Char) : Except TargetFault (Option (List Char)) :=
  let scheme := s.takeWhile isSchemeChar
  match s.dropWhile isSchemeChar with
  | ':' :: '/' :: '/' :: rest =>
    if longestScheme < scheme.length then .error .schemeTooLong else .ok (some rest)
  | _ => .ok none

/-- A target behind a scheme, or an authority alone. -/
def behindScheme (s : List Char) : Except TargetFault Target :=
  match afterScheme? s with
  | .error f => .error f
  | .ok none =>
    match checkAuthority (s.takeWhile (!endsAuthority ·)) with
    | .error f => .error f
    | .ok () => if s.any endsAuthority then .error .badFormat else .ok ⟨"", none⟩
  | .ok (some rest) =>
    match checkAuthority (rest.takeWhile (!endsAuthority ·)) with
    | .error f => .error f
    | .ok () =>
      if rest.takeWhile (!endsAuthority ·) = [] then .error .badFormat
      else ofPath (rest.dropWhile (!endsAuthority ·))

def greatestSize : Nat := 65534

def read (s : String) : Except TargetFault Target :=
  if greatestSize < s.utf8ByteSize then .error .tooLong
  else
    match s.toList with
    | [] => .error .empty
    | ['*'] => .ok ⟨"*", none⟩
    | '/' :: rest => ofPath ('/' :: rest)
    | s => behindScheme s

end Target

end FleetExporter.Http
