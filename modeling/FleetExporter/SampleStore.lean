import Std.Data.ExtTreeMap
import Std.Data.ExtTreeMap.Lemmas
import FleetExporter.Exposition.Text

/-! The samples of all objects, by object key. For each registered family an object has one slot;
putting an object replaces all its slots, and a scrape merges the slots of all objects in the order
of their keys. The lemmas give the content of the store after each operation. -/
namespace FleetExporter

/-- For one object, the samples of each registered family. -/
abbrev Slots := List (List Sample)

structure SampleStore where
  descriptors : List Descriptor
  objects : Std.ExtTreeMap String Slots := ∅

namespace SampleStore

def empty (descriptors : List Descriptor) : SampleStore := ⟨descriptors, ∅⟩

/-- The samples of the first family of a given name. -/
def samplesNamed (name : String) (families : List Family) : List Sample :=
  ((families.find? (·.descriptor.name = name)).map (·.samples)).getD []

/-- The slots that families fill: those whose name is not registered are dropped. -/
def slots (descriptors : List Descriptor) (families : List Family) : Slots :=
  descriptors.map fun d => samplesNamed d.name families

def put (s : SampleStore) (key : String) (families : List Family) : SampleStore :=
  { s with objects := s.objects.insert key (slots s.descriptors families) }

def drop (s : SampleStore) (key : String) : SampleStore :=
  { s with objects := s.objects.erase key }

/-- Whether a key belongs to a scope, which is what its keys begin with. -/
def inScope (scope key : String) : Bool := scope.toList.isPrefixOf key.toList

/-- Keeps of a scope only the keys that are live. -/
def prune (s : SampleStore) (scope : String) (live : String → Bool) : SampleStore :=
  { s with objects := s.objects.filter fun key _ => !inScope scope key || live key }

def size (s : SampleStore) : Nat := s.objects.size

def get? (s : SampleStore) (key : String) : Option Slots := s.objects[key]?

def contains (s : SampleStore) (key : String) : Bool := s.objects.contains key

/-- The slots of one registered family, merged in the order of the keys. -/
def merged (entries : List (String × Slots)) (i : Nat) : List Sample :=
  entries.flatMap fun e => (e.2[i]?).getD []

/-- One family for each descriptor. -/
def gather (s : SampleStore) : List Family :=
  s.descriptors.mapIdx fun i d => ⟨d, merged s.objects.toList i⟩

def render (s : SampleStore) : Except Error String := Exposition.render s.gather

/-- A change to the store. -/
inductive Edit where
  | keep
  | put (key : String) (families : List Family)
  | drop (key : String)
  | prune (scope : String) (live : List String)

/-- The store after a change, and how many objects it lost by it. -/
def apply (s : SampleStore) : Edit → SampleStore × Nat
  | .keep => (s, 0)
  | .put key families => (s.put key families, 0)
  | .drop key => (s.drop key, if s.contains key then 1 else 0)
  | .prune scope live =>
    let pruned := s.prune scope live.contains
    (pruned, s.size - pruned.size)

@[simp] theorem descriptors_put (s : SampleStore) (key : String) (families : List Family) :
    (s.put key families).descriptors = s.descriptors := rfl

@[simp] theorem descriptors_drop (s : SampleStore) (key : String) :
    (s.drop key).descriptors = s.descriptors := rfl

@[simp] theorem descriptors_prune (s : SampleStore) (scope : String) (live : String → Bool) :
    (s.prune scope live).descriptors = s.descriptors := rfl

@[simp] theorem descriptors_apply (s : SampleStore) (e : Edit) :
    (s.apply e).1.descriptors = s.descriptors := by
  cases e <;> rfl

@[simp] theorem get?_empty (descriptors : List Descriptor) (key : String) :
    (empty descriptors).get? key = none := by
  simp [empty, get?]

theorem get?_put (s : SampleStore) (key : String) (families : List Family) (k : String) :
    (s.put key families).get? k =
      if key = k then some (slots s.descriptors families) else s.get? k := by
  simp [put, get?, Std.ExtTreeMap.getElem?_insert, Std.LawfulEqCmp.compare_eq_iff_eq]

theorem get?_drop (s : SampleStore) (key k : String) :
    (s.drop key).get? k = if key = k then none else s.get? k := by
  simp [drop, get?, Std.ExtTreeMap.getElem?_erase, Std.LawfulEqCmp.compare_eq_iff_eq]

theorem get?_prune (s : SampleStore) (scope : String) (live : String → Bool) (k : String) :
    (s.prune scope live).get? k =
      if inScope scope k ∧ live k = false then none else s.get? k := by
  simp only [prune, get?, Std.ExtTreeMap.getElem?_filter']
  cases s.objects[k]? with
  | none => simp
  | some v => cases inScope scope k <;> cases live k <;> simp

/-- Whether a key belongs to a scope, said of the texts. -/
theorem inScope_iff (scope key : String) :
    inScope scope key = true ↔ scope.toList <+: key.toList := List.isPrefixOf_iff_prefix

theorem contains_eq_isSome (s : SampleStore) (k : String) : s.contains k = (s.get? k).isSome :=
  Std.ExtTreeMap.contains_eq_isSome_getElem?

theorem mem_toList_iff (s : SampleStore) (k : String) (v : Slots) :
    (k, v) ∈ s.objects.toList ↔ s.get? k = some v :=
  Std.ExtTreeMap.mem_toList_iff_getElem?_eq_some

theorem pairwise_keys (s : SampleStore) : (s.objects.toList.map (·.1)).Pairwise (· < ·) :=
  List.pairwise_map.mpr <| Std.ExtTreeMap.ordered_keys_toList.imp
    fun {a b} (h : compare a.1 b.1 = .lt) => compareOfLessAndEq_eq_lt.mp h

theorem ext_get? {s t : SampleStore} (hd : s.descriptors = t.descriptors)
    (hg : ∀ k, s.get? k = t.get? k) : s = t := by
  cases s
  cases t
  simp only [get?] at hd hg
  subst hd
  congr 1
  exact Std.ExtTreeMap.ext_getElem? fun {k} => hg k

end SampleStore

end FleetExporter
