import FleetExporter.Proofs.Encoding
import FleetExporter.Proofs.Isolation
import FleetExporter.Proofs.Watch.Scope

/-! Who an object is. Its key tells its namespace and its name, also where the name has a slash in
it, and the beginning of the key tells the namespace alone. Every view that is decoded of an object
has its key and its name, so that what is stored, asked for, removed and pruned about an object is
about this one and no other. -/
namespace FleetExporter

open SampleStore Watch

/-! ## Keys -/

namespace Untyped

instance (o : Untyped) : Decidable o.Plain :=
  inferInstanceAs (Decidable ('/' ∉ (o.metadata.namespaceName.getD "").toList))

theorem inScope_key_iff {o : Untyped} {ns : String} (ho : o.Plain) (hns : '/' ∉ ns.toList) :
    inScope (scopeOf ns) o.key = true ↔ o.metadata.namespaceName.getD "" = ns :=
  ⟨fun h => eq_of_inScope ho hns (inScope_key rfl) h, inScope_key⟩

theorem key_eq_iff {o o' : Untyped} (ho : o.Plain) (ho' : o'.Plain) :
    o.key = o'.key ↔ o.Namesake o' := by
  refine ⟨fun h => ⟨?_, ?_⟩, Namesake.key_eq⟩
  · refine (inScope_key_iff ho ho').mp ?_
    rw [h]
    exact inScope_key rfl
  · rw [← nameIn_key ho, ← nameIn_key ho', h]

/-- With a slash in a namespace, objects of two namespaces may have one key. -/
example : Untyped.key ⟨{ name := some "c", namespaceName := some "a/b" }, []⟩ =
    Untyped.key ⟨{ name := some "b/c", namespaceName := some "a" }, []⟩ := by decide

end Untyped

/-! ## Views -/

/-- A kind is decoded to views that are the object still: they have its key and its name, and the
metadata that is read of the object's when this is written. -/
structure KeepsIdentity {View : Type} (decode : Untyped → Except Error View)
    (metadata : View → Metadata) : Prop where
  key_eq : ∀ o view, decode o = .ok view → (metadata view).key = o.key
  nameAny_eq : ∀ o view, decode o = .ok view → (metadata view).nameAny = o.metadata.nameAny
  read_json : ∀ j o view, Untyped.read j = .ok o → decode o = .ok view →
    Metadata.read o.metadata.json = .ok (metadata view)

theorem Kind.DecodesBy.keepsIdentity {View : Type} {k : Kind} {schema : List (String × Shape)}
    {decode : Untyped → Except Error View} {of : Untyped → View} {metadata : View → Metadata}
    (h : k.DecodesBy schema decode of) (hof : ∀ o, metadata (of o) = o.metadata) :
    KeepsIdentity decode metadata := by
  have hmetadata : ∀ o view, decode o = .ok view → metadata view = o.metadata := by
    intro o view hview
    obtain ⟨-, rfl⟩ := (h.decodes o view).mp hview
    exact hof o
  refine ⟨fun o view hview => ?_, fun o view hview => ?_, fun j o view hread hview => ?_⟩
  · rw [hmetadata o view hview, Untyped.key]
  · rw [hmetadata o view hview]
  · rw [hmetadata o view hview]
    exact Metadata.read_json (Untyped.canonical_of_read hread)

/-! ## Watches -/

namespace Watch

variable (hub : String) (c : Companions) (h : Handler) (s : SampleStore)

theorem lookups_refresh (o : Untyped) : (Handler.refresh [.clusterInfo hub] c o).lookups =
    match ManagedClusterInfo.decode o with
    | .error _ => []
    | .ok info => (Join.join hub c info).lookups := by
  unfold Handler.refresh
  cases ManagedClusterInfo.decode o with
  | error e => rfl
  | ok info => simp [Generator.families, Generator.family, Generator.clusterInfo]

theorem lookups_take_of_shown {d : Delivery} {o : Untyped} (hd : d.shown? = some o) :
    (h.take [.clusterInfo hub] c s d).lookups =
      (Handler.refresh [.clusterInfo hub] c o).lookups := by
  rcases d with f | e
  · cases hd
  · cases e <;> cases hd <;> exact List.append_nil _

/-- What is asked when an object is shown is about the name of this object. -/
theorem mem_lookups_of_shown (hc : c.Recorded) {d : Delivery} {o : Untyped}
    (hd : d.shown? = some o) {l : Lookup} (hl : l ∈ (h.take [.clusterInfo hub] c s d).lookups) :
    l = .cluster o.metadata.nameAny ∨ l = .deployment o.metadata.nameAny o.metadata.nameAny := by
  rw [lookups_take_of_shown hub c h s hd, lookups_refresh] at hl
  cases hinfo : ManagedClusterInfo.decode o with
  | error e => simp [hinfo] at hl
  | ok info =>
    have hname : info.name = o.metadata.nameAny := ManagedClusterInfo.name_of_decode hinfo
    simp only [hinfo, Join.lookups_join, hc.cluster, hc.deployment, hname] at hl
    -- a cluster that was not found leaves the deployment unasked
    split at hl
    · simpa using hl
    · exact Or.inl (by simpa using hl)

/-- What a handler does about an object that it is shown, that is removed or whose namespace it
lists anew. -/
structure StaysWith (o : Untyped) : Prop where
  stored : ∀ d, d.shown? = some o → ∀ k,
    (h.take [.clusterInfo hub] c s d).value.2.get? k =
      if o.key = k then slotsOf [.clusterInfo hub] s.descriptors c o else s.get? k
  asked : ∀ d, d.shown? = some o → ∀ l ∈ (h.take [.clusterInfo hub] c s d).lookups,
    l = .cluster o.metadata.nameAny ∨ l = .deployment o.metadata.nameAny o.metadata.nameAny
  removed : ∀ o' : Untyped, o'.Plain → s.contains o.key = true →
    ((h.take [.clusterInfo hub] c s (.ok (.removed o'))).value.2.contains o.key = false ↔
      o'.Namesake o)
  pruned : ∀ ns, '/' ∉ ns.toList → h.scope = scopeOf ns → s.contains o.key = true →
    ((h.take [.clusterInfo hub] c s (.ok .completed)).value.2.contains o.key = false ↔
      o.metadata.namespaceName.getD "" = ns ∧ h.misses o.key = true)

theorem staysWith (hc : c.Recorded) {o : Untyped} (ho : o.Plain) : StaysWith hub c h s o where
  stored d hd k := by
    have hstore := store_take_of_shown [.clusterInfo hub] h s (m := ⟨c, d⟩) hd
    exact (congrArg (get? · k) hstore).trans (get?_refreshed ..)
  asked d hd l hl := mem_lookups_of_shown hub c h s hc hd hl
  removed o' ho' hstored := by
    rw [contains_eq_isSome] at hstored
    rw [Handler.take_removed, contains_eq_isSome, get?_drop, ← Untyped.key_eq_iff ho' ho]
    by_cases hkey : o'.key = o.key <;> simp [hkey, hstored]
  pruned ns hns hscope hstored := by
    rw [contains_eq_isSome] at hstored
    rw [contains_eq_isSome, Handler.get?_take_completed, hscope]
    simp only [Untyped.inScope_key_iff ho hns]
    by_cases hlost : o.metadata.namespaceName.getD "" = ns ∧ h.misses o.key = true <;>
      simp [hlost, hstored]

end Watch

/-- **A key tells its object.** Of objects whose namespaces are without a slash, two have the same
key exactly when they have the same namespace and the same name, and a key begins with a namespace
and a slash exactly when the object is of that namespace. All views keep the key and the name of
their object. So whatever is stored for an object that is shown, asked about it, removed or pruned
is about the object of this namespace and this name. -/
theorem key_tells_object :
    (∀ o o' : Untyped, o.Plain → o'.Plain → (o.key = o'.key ↔ o.Namesake o')) ∧
    (∀ (o : Untyped) (ns : String), o.Plain → '/' ∉ ns.toList →
      (inScope (ns ++ "/") o.key = true ↔ o.metadata.namespaceName.getD "" = ns)) ∧
    KeepsIdentity ManagedClusterInfo.decode (·.metadata) ∧
    KeepsIdentity ManagedCluster.decode (·.metadata) ∧
    KeepsIdentity ClusterDeployment.decode (·.metadata) ∧
    ∀ hub c h s o, c.Recorded → o.Plain → StaysWith hub c h s o :=
  ⟨fun _ _ => Untyped.key_eq_iff, fun _ _ => Untyped.inScope_key_iff,
    ManagedClusterInfo.decodesBy.keepsIdentity fun _ => rfl,
    ManagedCluster.decodesBy.keepsIdentity fun _ => rfl,
    ClusterDeployment.decodesBy.keepsIdentity fun _ => rfl,
    fun hub c h s _ hc ho => staysWith hub c h s hc ho⟩

/-! An object without a namespace whose name, of which only the stem is given, has a slash in it. -/

def generatedJson : Json :=
  .object [("metadata", .object [("generateName", .string "b/c")]), ("spec", .object [])]

def generated : Untyped := ⟨{ generateName := some "b/c" }, [("spec", .object [])]⟩

def generatedInfo : ManagedClusterInfo := ⟨generated.metadata, {}, none⟩

def generatedStore : SampleStore := (SampleStore.empty [Record.descriptor]).put "/b/c" []

theorem key_tells_object_generated :
    (Untyped.read generatedJson = .ok generated ∧
      ManagedClusterInfo.decode generated = .ok generatedInfo ∧
      generatedInfo.metadata.key = generated.key ∧
      Metadata.read generated.metadata.json = .ok generatedInfo.metadata) ∧
    (generated.Plain ∧ (Untyped.bare "" "b/c" true).Plain ∧
      generated.key = (Untyped.bare "" "b/c" true).key) ∧
    inScope "a/" (Untyped.bare "a" "b/c" true).key = true ∧
    (Join.importedHub.companions.Recorded ∧ generatedStore.contains generated.key = true ∧
      (Handler.take [.clusterInfo "hub"] Join.importedHub.companions .forAll generatedStore
        (.ok (.removed (.bare "" "b/c" true)))).value.2.contains generated.key = false) := by
  obtain ⟨hkeys, hscopes, hinfo, -, -, hstays⟩ := key_tells_object
  have hread : Untyped.read generatedJson = .ok generated := rfl
  have hdecode : ManagedClusterInfo.decode generated = .ok generatedInfo := rfl
  have hplain : generated.Plain := by decide
  have hother : (Untyped.bare "" "b/c" true).Plain := by decide
  have hslashed : (Untyped.bare "a" "b/c" true).Plain := by decide
  have hsame : (Untyped.bare "" "b/c" true).Namesake generated := ⟨rfl, rfl⟩
  have hstored : generatedStore.contains generated.key = true := by decide +kernel
  have hrecorded := Directory.recorded Join.importedHub
  refine ⟨⟨hread, hdecode, hinfo.key_eq _ _ hdecode, hinfo.read_json _ _ _ hread hdecode⟩,
    ⟨hplain, hother, ?_⟩, (hscopes _ "a" hslashed (by decide)).mpr rfl, hrecorded, hstored, ?_⟩
  · exact (hkeys _ _ hplain hother).mpr ⟨rfl, rfl⟩
  · exact ((hstays "hub" _ .forAll generatedStore _ hrecorded hplain).removed _ hother hstored).mpr
      hsame

end FleetExporter
