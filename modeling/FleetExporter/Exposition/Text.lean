import FleetExporter.Exposition.Family
import FleetExporter.Error

/-! The text form of families. A family without samples is left out; any other is a help line
(unless the help is empty), a type line and one line for each sample. A family that has samples
needs a name. -/
namespace FleetExporter.Exposition

/-- The media type of the text. -/
def contentType : String := "text/plain; version=0.0.4"

/-- In help texts backslashes and line ends are escaped. -/
def helpChar (c : Char) : List Char :=
  if c = '\\' then ['\\', '\\'] else if c = '\n' then ['\\', 'n'] else [c]

/-- In label values double quotes are escaped as well. -/
def valueChar (c : Char) : List Char := if c = '"' then ['\\', '"'] else helpChar c

def escaped (f : Char → List Char) (s : String) : List Char := s.toList.flatMap f

def labelText (label : String × String) : List Char :=
  label.1.toList ++ '=' :: '"' :: escaped valueChar label.2 ++ ['"']

/-- The labels in braces, or nothing when there are none. -/
def labelsText : List (String × String) → List Char
  | [] => []
  | labels => '\x7b' :: [','].intercalate (labels.map labelText) ++ ['\x7d']

def sampleLine (name : String) (s : Sample) : List Char :=
  name.toList ++ labelsText s.labels ++ ' ' :: s.value.plainText.toList ++ ['\n']

def helpLine (d : Descriptor) : List Char :=
  if d.help = "" then []
  else "# HELP ".toList ++ d.name.toList ++ ' ' :: escaped helpChar d.help ++ ['\n']

def typeLine (d : Descriptor) : List Char :=
  "# TYPE ".toList ++ d.name.toList ++ " gauge\n".toList

def familyText (f : Family) : List Char :=
  helpLine f.descriptor ++ typeLine f.descriptor ++
    f.samples.flatMap (sampleLine f.descriptor.name)

/-- What the encoder refuses in a family. -/
inductive Complaint where
  | noMetrics
  | noName
  deriving DecidableEq, Repr

/-- How the complaint begins; the family that it is about, which follows, is left out. -/
def Complaint.message : Complaint → String
  | noMetrics => "MetricFamily has no metrics"
  | noName => "MetricFamily has no name"

def encodeFamily (f : Family) : Except Complaint (List Char) :=
  if f.samples = [] then .error .noMetrics
  else if f.descriptor.name = "" then .error .noName
  else .ok (familyText f)

/-- Families one after the other; the first that is refused ends the encoding. -/
def encodeAll : List Family → Except Complaint (List Char)
  | [] => .ok []
  | f :: rest =>
    match encodeFamily f with
    | .error c => .error c
    | .ok s => (encodeAll rest).map (s ++ ·)

/-- The text of the families that have samples. -/
def render (families : List Family) : Except Error String :=
  match encodeAll (families.filter (·.samples ≠ [])) with
  | .error c => .error (.ofEncoder c.message)
  | .ok s => .ok (String.ofList s)

theorem encodeFamily_of_samples {f : Family} (h : f.samples ≠ []) :
    encodeFamily f =
      if f.descriptor.name = "" then .error .noName else .ok (familyText f) := by
  simp [encodeFamily, h]

end FleetExporter.Exposition
