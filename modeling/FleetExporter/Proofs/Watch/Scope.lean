import FleetExporter.Proofs.Watch.Step

/-! The part of the store that belongs to a scope. What a handler changes is within its scope, and
of the namespaces without a slash no two have a key in common. -/
namespace FleetExporter

namespace SampleStore

/-- A change that is about keys of one scope only. -/
def Edit.Within (scope : String) : Edit → Prop
  | .keep => True
  | .put key _ => inScope scope key = true
  | .drop key => inScope scope key = true
  | .prune pruned _ => pruned = scope

theorem get?_apply_of_not_inScope {scope k : String} {e : Edit} (s : SampleStore)
    (he : e.Within scope) (hk : inScope scope k = false) :
    (s.apply e).1.get? k = s.get? k := by
  have hne : ∀ key, inScope scope key = true → key ≠ k := by
    rintro key hkey rfl
    rw [hkey] at hk
    cases hk
  cases e with
  | keep => rfl
  | put key families => exact (get?_put s key families k).trans (if_neg (hne key he))
  | drop key => exact (get?_drop s key k).trans (if_neg (hne key he))
  | prune pruned live =>
    have hpruned : pruned = scope := he
    refine (get?_prune s pruned live.contains k).trans (if_neg ?_)
    simp [hpruned, hk]

/-- What a change leaves under a key depends only on what was there. -/
theorem get?_apply_congr {s t : SampleStore} {k : String} (hd : s.descriptors = t.descriptors)
    (hk : s.get? k = t.get? k) (e : Edit) : (s.apply e).1.get? k = (t.apply e).1.get? k := by
  cases e with
  | keep => exact hk
  | put key families => simp only [apply, get?_put, hd, hk]
  | drop key => simp only [apply, get?_drop, hk]
  | prune pruned live => simp only [apply, get?_prune, hk]

end SampleStore

namespace Watch

open SampleStore

/-- The scope of the handler for a namespace. -/
def scopeOf (ns : String) : String := (Handler.forNamespace ns).scope

theorem takeWhile_of_opening {a l : List Char} (ha : '/' ∉ a) (h : a ++ ['/'] <+: l) :
    l.takeWhile (· ≠ '/') = a := by
  obtain ⟨rest, rfl⟩ := h
  rw [List.append_assoc, List.takeWhile_append_of_pos]
  · simp
  · intro c hc
    simp only [decide_eq_true_eq]
    rintro rfl
    exact ha hc

/-- A key is in the scope of one namespace only, as long as namespaces are without a slash. -/
theorem eq_of_inScope {ns ns' k : String} (hns : '/' ∉ ns.toList) (hns' : '/' ∉ ns'.toList)
    (hk : inScope (scopeOf ns) k = true) (hk' : inScope (scopeOf ns') k = true) : ns = ns' := by
  rw [inScope_iff] at hk hk'
  simp only [scopeOf, Handler.forNamespace, String.toList_append] at hk hk'
  have heq := (takeWhile_of_opening hns hk).symm.trans (takeWhile_of_opening hns' hk')
  exact String.toList_inj.mp heq

/-- A delivery about objects of one namespace only, as the watch of a namespace makes them. -/
def Delivery.Of (ns : String) : Delivery → Prop
  | .ok (.listed o) => o.metadata.namespaceName.getD "" = ns
  | .ok (.changed o) => o.metadata.namespaceName.getD "" = ns
  | .ok (.removed o) => o.metadata.namespaceName.getD "" = ns
  | _ => True

theorem inScope_key {ns : String} {o : Untyped} (h : o.metadata.namespaceName.getD "" = ns) :
    inScope (scopeOf ns) o.key = true := by
  rw [inScope_iff, ← h]
  simp [scopeOf, Handler.forNamespace, Untyped.key, Metadata.key]

namespace Handler

variable (generators : List Generator) (c : Companions)

/-- The change to the store that a delivery asks for. -/
def edit (h : Handler) : Delivery → Edit
  | .ok e => (h.plan generators c e).value.2
  | .error _ => .keep

theorem value_take_snd (h : Handler) (s : SampleStore) (d : Delivery) :
    (h.take generators c s d).value.2 = (s.apply (h.edit generators c d)).1 := by
  cases d <;> rfl

theorem within_refresh {ns : String} {o : Untyped}
    (ho : o.metadata.namespaceName.getD "" = ns) :
    (refresh generators c o).value.1.Within (scopeOf ns) := by
  unfold refresh
  cases ManagedClusterInfo.decode o <;> exact inScope_key ho

/-- A handler changes keys of its scope only. -/
theorem within_edit {ns : String} {h : Handler} {d : Delivery} (hscope : h.scope = scopeOf ns)
    (hd : d.Of ns) : (h.edit generators c d).Within (scopeOf ns) := by
  rcases d with f | e
  · trivial
  · cases e with
    | started => trivial
    | listed o => exact within_refresh generators c hd
    | completed =>
      obtain ⟨scope, _ | seen⟩ := h
      · trivial
      · exact hscope
    | changed o => exact within_refresh generators c hd
    | removed o => exact inScope_key hd

end Handler

end Watch

end FleetExporter
