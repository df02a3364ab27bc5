import FleetExporter.Proofs.Publication
import FleetExporter.Proofs.Watch.History
import Mathlib.Data.List.Nodup
import Std.Data.String.ToInt

/-! The series of a scrape. A record is told by its label values, each key of the store owns at most
one, and so a series is repeated exactly when two keys publish the same record. Nothing keeps them
from it: the identifier of a record is what the cluster reports of itself. -/
namespace FleetExporter

namespace Sample

/-- The label values, which tell the series of a sample within its family. -/
def values (s : Sample) : List String := s.labels.map (·.2)

theorem values_ofColumns (keys values : List String) (x : Binary64)
    (h : keys.length = values.length) : (ofColumns keys values x).values = values := by
  simp only [Sample.values, ofColumns]
  exact List.map_snd_zip (by omega)

end Sample

theorem Provenance.text_injective {p q : Provenance} (h : p.text = q.text) : p = q := by
  cases p <;> cases q <;> first | rfl | exact absurd h (by decide)

namespace Record

@[simp] theorem values_sample (r : Record) : r.sample.values = r.values :=
  Sample.values_ofColumns _ _ _ r.length_values.symm

/-- The label values tell everything about a record. -/
theorem values_injective {r r' : Record} (h : r.values = r'.values) : r = r' := by
  obtain ⟨hub, cluster, vendor, cloud, version, via, ⟨cpu, cpuW, core, coreW, socket, socketW⟩⟩ := r
  obtain ⟨hub', cluster', vendor', cloud', version', via',
    ⟨cpu', cpuW', core', coreW', socket', socketW'⟩⟩ := r'
  simp only [values, List.cons.injEq, and_true] at h
  obtain ⟨rfl, rfl, rfl, rfl, rfl, hvia, hcpu, hcpuW, hcore, hcoreW, hsocket, hsocketW⟩ := h
  obtain rfl := Provenance.text_injective hvia
  obtain rfl := Int.repr_injective hcpu
  obtain rfl := Int.repr_injective hcpuW
  obtain rfl := Int.repr_injective hcore
  obtain rfl := Int.repr_injective hcoreW
  obtain rfl := Int.repr_injective hsocket
  obtain rfl := Int.repr_injective hsocketW
  rfl

theorem sample_injective {r r' : Record} (h : r.sample = r'.sample) : r = r' := by
  refine values_injective ?_
  rw [← values_sample, ← values_sample, h]

end Record

namespace Join

/-- A record bears the identifier that its object resolves to. -/
theorem managedClusterId_of_join {hub : String} {c : Companions} {info : ManagedClusterInfo}
    {r : Record} (h : (join hub c info).value = some r) :
    r.managedClusterId = info.resolvedId := by
  obtain ⟨cluster, -, hcomplete, rfl⟩ := (join_eq_some_iff hub c info r).mp h
  have hid : info.resolvedId ≠ "" := (resolvedId_ne_empty_iff info).mpr hcomplete.identifier
  exact (resolvedId_of_ne_empty hid).symm

end Join

namespace SampleStore

/-- No family of a scrape has two samples with the same label values. -/
def SeriesDistinct (s : SampleStore) : Prop :=
  ∀ f ∈ s.gather, (f.samples.map Sample.values).Nodup

instance (s : SampleStore) : Decidable s.SeriesDistinct :=
  inferInstanceAs (Decidable (∀ f ∈ s.gather, (f.samples.map Sample.values).Nodup))

end SampleStore

namespace Watch

open SampleStore Delivery

/-! ## What an object is joined to -/

/-- What the join makes of an object, if it decodes. -/
def joined? (hub : String) (c : Companions) (o : Untyped) : Option (Option Record) :=
  match ManagedClusterInfo.decode o with
  | .error _ => none
  | .ok info => some (Join.join hub c info).value

theorem isSome_joined? (hub : String) (c : Companions) (o : Untyped) :
    (joined? hub c o).isSome = o.decodes := by
  unfold joined? Untyped.decodes
  cases ManagedClusterInfo.decode o <;> rfl

/-- The slots of an object that was joined to a record, or to none. -/
def slotsOfRecord (r : Option Record) : Slots := [(r.map Record.sample).toList]

theorem slotsOfRecord_injective {r r' : Option Record} (h : slotsOfRecord r = slotsOfRecord r') :
    r = r' := by
  cases r with
  | none => cases r' with
    | none => rfl
    | some r' => simp [slotsOfRecord] at h
  | some r => cases r' with
    | none => simp [slotsOfRecord] at h
    | some r' =>
      have hs : r.sample = r'.sample := by simpa [slotsOfRecord] using h
      rw [Record.sample_injective hs]

theorem slotsOf_clusterInfo (hub : String) (c : Companions) (o : Untyped) :
    slotsOf [.clusterInfo hub] [Record.descriptor] c o = (joined? hub c o).map slotsOfRecord := by
  unfold slotsOf joined?
  cases ManagedClusterInfo.decode o <;> rfl

/-- An object shown under a key is joined to a record, or to none. -/
def Joins (hub k : String) (r : Option Record) (m : Moment) : Prop :=
  ∃ o, m.delivery.shown? = some o ∧ o.key = k ∧ joined? hub m.companions o = some r

/-- An object that decodes is shown under a key, and it resolves to an identifier. -/
def Identifies (k id : String) (m : Moment) : Prop :=
  ∃ o info, m.delivery.shown? = some o ∧ o.key = k ∧
    ManagedClusterInfo.decode o = .ok info ∧ info.resolvedId = id

section Joins

variable {hub k : String} {r r' : Option Record} {m : Moment}

theorem Joins.shows (h : Joins hub k r m) : Shows k m.delivery := by
  obtain ⟨o, hd, hk, hr⟩ := h
  have hdecodes : o.decodes = true := by
    rw [← isSome_joined? hub m.companions, hr]
    rfl
  exact ⟨o, hd, hk, hdecodes⟩

theorem Joins.unique (h : Joins hub k r m) (h' : Joins hub k r' m) : r = r' := by
  obtain ⟨o, hd, -, hr⟩ := h
  obtain ⟨o', hd', -, hr'⟩ := h'
  obtain rfl : o = o' := Option.some.inj (hd.symm.trans hd')
  exact Option.some.inj (hr.symm.trans hr')

theorem Joins.identifies {r : Record} (h : Joins hub k (some r) m) :
    Identifies k r.managedClusterId m := by
  obtain ⟨o, hd, hk, hr⟩ := h
  unfold joined? at hr
  split at hr
  · cases hr
  · rename_i info hinfo
    exact ⟨o, info, hd, hk, hinfo, (Join.managedClusterId_of_join (Option.some.inj hr)).symm⟩

/-- What is filled by one generator are the slots of what an object is joined to. -/
theorem fills_clusterInfo_iff {v : Slots} :
    Fills [.clusterInfo hub] [Record.descriptor] k v m ↔
      ∃ r, v = slotsOfRecord r ∧ Joins hub k r m := by
  constructor
  · rintro ⟨o, hd, hk, hv⟩
    rw [slotsOf_clusterInfo] at hv
    obtain ⟨r, hr, rfl⟩ := Option.map_eq_some_iff.mp hv
    exact ⟨r, rfl, o, hd, hk, hr⟩
  · rintro ⟨r, rfl, o, hd, hk, hr⟩
    exact ⟨o, hd, hk, by rw [slotsOf_clusterInfo, hr]; rfl⟩

end Joins

/-! ## What a history publishes -/

/-- At the end of a history an object is there under a key, and the latest was joined to a
record. -/
def Publishes (hub scope : String) (history : List Moment) (k : String) (r : Record) : Prop :=
  Since (fun m => Shows k m.delivery) (Spares scope k) history ∧
    Since (Joins hub k (some r)) (fun _ n => ¬ Shows k n.delivery) history

/-- The store of a handler that exports clusters under the identifier of a hub, by arithmetic that
wraps around. -/
def exported (hub scope : String) (history : List Moment) : SampleStore :=
  ((Handler.mk scope none).takeAll [.clusterInfo hub] (.empty [Record.descriptor]) history).value.2

section Exported

variable (hub scope : String) (history : List Moment)

/-- What is stored under a key is what the latest object was joined to. -/
theorem since_joins_of_get? {k : String} {v : Slots}
    (hv : (exported hub scope history).get? k = some v) :
    ∃ r, v = slotsOfRecord r ∧ Since (Joins hub k r) (fun _ n => ¬ Shows k n.delivery) history := by
  have hfills := since_fills_of_get? _ _ _ _ _ hv
  obtain ⟨m, -, hm⟩ := hfills.exists_mem
  obtain ⟨r, rfl, -⟩ := fills_clusterInfo_iff.mp hm
  refine ⟨r, rfl, hfills.mono fun n hn => ?_⟩
  obtain ⟨r', heq, hr'⟩ := fills_clusterInfo_iff.mp hn
  rw [slotsOfRecord_injective heq]
  exact hr'

theorem get?_exported_iff (k : String) (r : Record) :
    (exported hub scope history).get? k = some (slotsOfRecord (some r)) ↔
      Publishes hub scope history k r := by
  constructor
  · intro hv
    obtain ⟨r', heq, hlast⟩ := since_joins_of_get? hub scope history hv
    rw [← slotsOfRecord_injective heq] at hlast
    have hsome : ((exported hub scope history).get? k).isSome = true := by rw [hv]; rfl
    exact ⟨(isSome_get?_takeAll _ _ _ _ _).mp hsome, hlast⟩
  · rintro ⟨hshown, hlast⟩
    have hsome := (isSome_get?_takeAll [.clusterInfo hub] [Record.descriptor] _ _ _).mpr hshown
    obtain ⟨v, hv⟩ := Option.isSome_iff_exists.mp hsome
    obtain ⟨r', rfl, hlast'⟩ := since_joins_of_get? hub scope history hv
    obtain ⟨m, -, hr, hr'⟩ :=
      exists_of_latest hlast hlast' (fun _ h => h.shows) (fun _ h => h.shows)
    rw [hr.unique hr']
    exact hv

/-- The samples of a scrape, one for each key that has a record. -/
theorem exists_records {entries : List (String × Slots)}
    (h : ∀ e ∈ entries, ∃ r, e.2 = slotsOfRecord r) :
    ∃ records : List (String × Record),
      (records.map (·.1)).Sublist (entries.map (·.1)) ∧
      (∀ k r, (k, r) ∈ records ↔ (k, slotsOfRecord (some r)) ∈ entries) ∧
      merged entries 0 = records.map (·.2.sample) := by
  induction entries with
  | nil => exact ⟨[], by simp [merged]⟩
  | cons e rest ih =>
    obtain ⟨records, hkeys, hmem, hmerged⟩ := ih fun e' he' => h e' (List.mem_cons_of_mem e he')
    obtain ⟨key, slots⟩ := e
    obtain ⟨r, rfl⟩ : ∃ r, slots = slotsOfRecord r := h (key, slots) List.mem_cons_self
    have hcons : merged ((key, slotsOfRecord r) :: rest) 0 =
        (r.map Record.sample).toList ++ merged rest 0 := rfl
    cases r with
    | none =>
      refine ⟨records, hkeys.cons key, fun k r => ?_, by rw [hcons, hmerged]; rfl⟩
      have hne : slotsOfRecord (some r) ≠ slotsOfRecord none := fun heq => by
        cases slotsOfRecord_injective heq
      simp [hmem, hne]
    | some r' =>
      refine ⟨(key, r') :: records, hkeys.cons_cons key, fun k r => ?_,
        by rw [hcons, hmerged]; rfl⟩
      have hiff : slotsOfRecord (some r) = slotsOfRecord (some r') ↔ r = r' :=
        ⟨fun heq => Option.some.inj (slotsOfRecord_injective heq), fun heq => by rw [heq]⟩
      simp [hmem, hiff]

/-- The samples of a scrape are those of the keys that publish a record, in the order of keys. -/
theorem exists_published :
    ∃ published : List (String × Record),
      (published.map (·.1)).Pairwise (· < ·) ∧
      (∀ k r, (k, r) ∈ published ↔ Publishes hub scope history k r) ∧
      (exported hub scope history).gather =
        [⟨Record.descriptor, published.map (·.2.sample)⟩] := by
  have hdescriptors : (exported hub scope history).descriptors = [Record.descriptor] :=
    Handler.descriptors_takeAll _ _ _ _
  have hslots : ∀ e ∈ (exported hub scope history).objects.toList, ∃ r, e.2 = slotsOfRecord r := by
    rintro ⟨k, v⟩ he
    obtain ⟨r, hr, -⟩ := since_joins_of_get? hub scope history ((mem_toList_iff _ k v).mp he)
    exact ⟨r, hr⟩
  obtain ⟨published, hkeys, hmem, hmerged⟩ := exists_records hslots
  refine ⟨published, (pairwise_keys _).sublist hkeys, fun k r => ?_, ?_⟩
  · rw [hmem, mem_toList_iff, get?_exported_iff]
  · simp [gather, hdescriptors, hmerged]

theorem seriesDistinct_iff {s : SampleStore} {d : Descriptor} {published : List (String × Record)}
    (hgather : s.gather = [⟨d, published.map (·.2.sample)⟩]) :
    s.SeriesDistinct ↔ (published.map (·.2.values)).Nodup := by
  have hvalues : (published.map (·.2.sample)).map Sample.values = published.map (·.2.values) := by
    simp [Function.comp_def]
  simp only [SeriesDistinct, hgather, List.mem_singleton, forall_eq, hvalues]

/-- Of keys in order, the records are told apart by their series when no two are the same. -/
theorem nodup_values_iff {published : List (String × Record)}
    (hkeys : (published.map (·.1)).Pairwise (· < ·)) :
    (published.map (·.2.values)).Nodup ↔
      ∀ k k' r, (k, r) ∈ published → (k', r) ∈ published → k = k' := by
  have hdifferent : (published.map (·.1)).Nodup := by
    refine hkeys.imp fun {k k'} hlt heq => ?_
    subst heq
    exact String.lt_irrefl k hlt
  have hnodup : published.Nodup := List.Nodup.of_map _ hdifferent
  rw [List.nodup_map_iff_inj_on hnodup]
  constructor
  · intro h k k' r hk hk'
    exact congrArg Prod.fst (h (k, r) hk (k', r) hk' rfl)
  · rintro h ⟨k, r⟩ hk ⟨k', r'⟩ hk' heq
    obtain rfl := Record.values_injective heq
    rw [h k k' r hk hk']

end Exported

/-- **One sample for each key that publishes.** Whatever the history, a scrape has the records of
the keys that publish one, each once and in the order of the keys. It repeats a series exactly when
two keys publish the same record; it does not as long as no two keys were ever shown with one
identifier. -/
theorem series_of_history (hub scope : String) (history : List Moment) :
    (∃ published : List (String × Record),
      (published.map (·.1)).Pairwise (· < ·) ∧
      (∀ k r, (k, r) ∈ published ↔ Publishes hub scope history k r) ∧
      (exported hub scope history).gather = [⟨Record.descriptor, published.map (·.2.sample)⟩]) ∧
    ((exported hub scope history).SeriesDistinct ↔ ∀ k k' r, Publishes hub scope history k r →
      Publishes hub scope history k' r → k = k') ∧
    ((∀ m ∈ history, ∀ m' ∈ history, ∀ k k' id,
      Identifies k id m → Identifies k' id m' → k = k') →
      (exported hub scope history).SeriesDistinct) := by
  obtain ⟨published, hkeys, hmem, hgather⟩ := exists_published hub scope history
  have hdistinct : (exported hub scope history).SeriesDistinct ↔
      ∀ k k' r, Publishes hub scope history k r →
        Publishes hub scope history k' r → k = k' := by
    rw [seriesDistinct_iff hgather, nodup_values_iff hkeys]
    simp only [hmem]
  refine ⟨⟨published, hkeys, hmem, hgather⟩, hdistinct, fun hids => hdistinct.mpr ?_⟩
  rintro k k' r ⟨-, hk⟩ ⟨-, hk'⟩
  obtain ⟨m, hm, hr⟩ := hk.exists_mem
  obtain ⟨m', hm', hr'⟩ := hk'.exists_mem
  exact hids m hm m' hm' k k' r.managedClusterId hr.identifies hr'.identifies

/-- A cluster registered twice, under two names. -/
def registeredTwice : List Moment :=
  let info (name : String) : Untyped :=
    { metadata := { name := some name, namespaceName := some name }
      fields := [("spec", .object []), ("status", .object [("clusterID", .string "one-id"),
        ("kubeVendor", .string "AKS"), ("cloudVendor", .string "Azure"),
        ("version", .string "v1.24.6")])] }
  let cluster (name : String) : Entry := .object
    { metadata := { name := some name }
      fields := [("spec", .object []),
        ("status", .object [("capacity", .object [("cpu", .string "4")])])] }
  let c := Directory.companions { clusters := [("c1", cluster "c1"), ("c2", cluster "c2")] }
  [⟨c, .ok (.changed (info "c1"))⟩, ⟨c, .ok (.changed (info "c2"))⟩]

/-- Its series is there twice. -/
theorem not_seriesDistinct_registeredTwice :
    ¬ (exported "hub" "" registeredTwice).SeriesDistinct := by
  decide +kernel

end Watch

end FleetExporter
