import FleetExporter.Schema

/-! The vendor of a Kubernetes distribution. Only one vendor changes how other facts are read, so
all others keep their text. -/
namespace FleetExporter

inductive Vendor where
  | unknown
  | openShift
  | other (name : String)
  deriving DecidableEq, Repr

namespace Vendor

def openShiftName : String := "OpenShift"

def ofText (s : String) : Vendor :=
  if s = "" then unknown else if s = openShiftName then openShift else other s

def text : Vendor → String
  | unknown => ""
  | openShift => openShiftName
  | other name => name

def isOpenShift (v : Vendor) : Bool := v = openShift

def isUnknown (v : Vendor) : Bool := v = unknown

/-- A text, or null for none reported. -/
def read : Reader Vendor where
  scan := .nullable Reader.text.scan
  read j := (Reader.nullable .text j).map fun s => ofText (s.getD "")

@[simp] theorem text_ofText (s : String) : (ofText s).text = s := by
  unfold ofText
  split
  · simp_all [text]
  · split <;> simp_all [text]

end Vendor

end FleetExporter
