import FleetExporter.Binary64.Text

/-! Samples and the families they belong to. All families are gauges. -/
namespace FleetExporter

/-- Labels in order, and a value. -/
structure Sample where
  labels : List (String × String)
  value : Binary64
  deriving DecidableEq, Repr

structure Descriptor where
  name : String
  help : String
  deriving DecidableEq, Repr

structure Family where
  descriptor : Descriptor
  samples : List Sample
  deriving DecidableEq, Repr

namespace Sample

/-- Keys and values matched by position; the longer list is cut. -/
def ofColumns (keys values : List String) (value : Binary64) : Sample := ⟨keys.zip values, value⟩

def keys (s : Sample) : List String := s.labels.map (·.1)

/-- The value of the first label with a key. -/
def label? (s : Sample) (key : String) : Option String :=
  (s.labels.find? (·.1 = key)).map (·.2)

theorem keys_ofColumns (keys values : List String) (x : Binary64)
    (h : keys.length = values.length) : (ofColumns keys values x).keys = keys := by
  simp only [Sample.keys, ofColumns]
  exact List.map_fst_zip (by omega)

end Sample

end FleetExporter
