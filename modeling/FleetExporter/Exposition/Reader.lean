/-! Reading an exposition, as whoever scrapes it does. Lines that are blank or begin with a number
sign tell of no sample; any other is a name, labels in braces, a value and, if there is one, a time.
Gaps may stand between all of these, and a comma may follow the last label. -/
namespace FleetExporter.Exposition

/-- A line as it is read. -/
inductive Line where
  | blank
  | comment (text : String)
  | sample (name : String) (labels : List (String × String)) (value : String)
      (time : Option String)
  deriving DecidableEq, Repr

def isGap (c : Char) : Bool := c = ' ' || c = '\t'

def skipGap (s : List Char) : List Char := s.dropWhile isGap

/-- Characters of names; colons are for names of families only. -/
def isNameChar (colons : Bool) (c : Char) : Bool := c.isAlphanum || c = '_' || (colons && c = ':')

/-- Whether a text is a name: it has characters, and begins with no digit. -/
def isName (colons : Bool) (s : List Char) : Bool :=
  s.all (isNameChar colons) && s.head?.any fun c => !c.isDigit

def readName (colons : Bool) (s : List Char) : Option (String × List Char) :=
  let name := s.takeWhile (isNameChar colons)
  if isName colons name then some (String.ofList name, s.dropWhile (isNameChar colons)) else none

/-- What a character after a backslash stands for. -/
def unescaped? (c : Char) : Option Char :=
  if c = '\\' then some '\\' else if c = '"' then some '"' else if c = 'n' then some '\n' else none

/-- The text up to the quote that ends it, with its escapes undone. -/
def readQuoted : List Char → Option (List Char × List Char)
  | [] => none
  | '"' :: r => some ([], r)
  | ['\\'] => none
  | '\\' :: c :: r =>
    match unescaped? c with
    | none => none
    | some c => (readQuoted r).map fun p => (c :: p.1, p.2)
  | c :: r => (readQuoted r).map fun p => (c :: p.1, p.2)

def readLabel (s : List Char) : Option ((String × String) × List Char) :=
  match readName false s with
  | none => none
  | some (key, r) =>
    match skipGap r with
    | '=' :: r =>
      match skipGap r with
      | '"' :: r => (readQuoted r).map fun p => ((key, String.ofList p.1), p.2)
      | _ => none
    | _ => none

theorem length_skipGap_le (s : List Char) : (skipGap s).length ≤ s.length :=
  (List.dropWhile_sublist isGap).length_le

theorem length_readQuoted_lt {s : List Char} {p : List Char × List Char}
    (h : readQuoted s = some p) : p.2.length < s.length := by
  fun_induction readQuoted s generalizing p with
  | case1 => cases h
  | case2 r =>
    cases h
    exact Nat.lt_succ_self _
  | case3 => cases h
  | case4 c r hc => cases h
  | case5 c r c' hc ih =>
    obtain ⟨q, hq, rfl⟩ := Option.map_eq_some_iff.mp h
    have hlt := ih hq
    simp only [List.length_cons]
    omega
  | case6 c r _ _ _ ih =>
    obtain ⟨q, hq, rfl⟩ := Option.map_eq_some_iff.mp h
    have hlt := ih hq
    simp only [List.length_cons]
    omega

theorem length_readLabel_lt {s : List Char} {p : (String × String) × List Char}
    (h : readLabel s = some p) : p.2.length < s.length := by
  unfold readLabel at h
  split at h
  · cases h
  · rename_i key r hname
    have hr : r.length ≤ s.length := by
      unfold readName at hname
      simp only at hname
      split at hname
      · cases hname
        exact (List.dropWhile_sublist _).length_le
      · cases hname
    split at h
    · rename_i r' hmark
      split at h
      · rename_i r'' hquote
        obtain ⟨q, hq, rfl⟩ := Option.map_eq_some_iff.mp h
        have hlt := length_readQuoted_lt hq
        have hmark' := length_skipGap_le r
        have hquote' := length_skipGap_le r'
        rw [hmark, List.length_cons] at hmark'
        rw [hquote, List.length_cons] at hquote'
        simp only
        omega
      · cases h
    · cases h

/-- The labels up to the brace that ends them. -/
def readLabels (s : List Char) : Option (List (String × String) × List Char) :=
  match skipGap s with
  | '\x7d' :: r => some ([], r)
  | _ =>
    match _ : readLabel (skipGap s) with
    | none => none
    | some (label, rest) =>
      match _ : skipGap rest with
      | '\x7d' :: r => some ([label], r)
      | ',' :: more => (readLabels more).map fun p => (label :: p.1, p.2)
      | _ => none
termination_by s.length
decreasing_by
  have hlabel : rest.length < (skipGap s).length :=
    length_readLabel_lt ‹readLabel (skipGap s) = some (label, rest)›
  have hmark : more.length + 1 = (skipGap rest).length :=
    (congrArg List.length ‹skipGap rest = ',' :: more›).symm
  have hstart := length_skipGap_le s
  have hrest := length_skipGap_le rest
  omega

/-- The word up to the next gap, and what follows the gap. -/
def readWord (s : List Char) : Option (String × List Char) :=
  match s.takeWhile (!isGap ·) with
  | [] => none
  | word => some (String.ofList word, skipGap (s.dropWhile (!isGap ·)))

/-- A value, and a time if anything follows it. -/
def readValue (s : List Char) : Option (String × Option String) :=
  match readWord s with
  | none => none
  | some (value, []) => some (value, none)
  | some (value, r) =>
    match readWord r with
    | some (time, []) => some (value, some time)
    | _ => none

def readSample (s : List Char) : Option Line :=
  match readName true s with
  | none => none
  | some (name, r) =>
    match skipGap r with
    | '\x7b' :: r =>
      match readLabels r with
      | none => none
      | some (labels, r) => (readValue (skipGap r)).map fun v => .sample name labels v.1 v.2
    | r => (readValue r).map fun v => .sample name [] v.1 v.2

def readLine (s : List Char) : Option Line :=
  match skipGap s with
  | [] => some .blank
  | '#' :: r => some (.comment (String.ofList ('#' :: r)))
  | r => readSample r

/-- The lines of a text, each of which must be ended. -/
def splitLines : List Char → Option (List (List Char))
  | [] => some []
  | '\n' :: r => (splitLines r).map ([] :: ·)
  | c :: r =>
    match splitLines r with
    | some (l :: rest) => some ((c :: l) :: rest)
    | _ => none

def readLines : List (List Char) → Option (List Line)
  | [] => some []
  | l :: rest =>
    match readLine l with
    | none => none
    | some line => (readLines rest).map (line :: ·)

/-- What a text tells, line by line. -/
def readText (s : String) : Option (List Line) := (splitLines s.toList).bind readLines

end FleetExporter.Exposition
