import FleetExporter.Proofs.Publication
import FleetExporter.Proofs.Scrape
import FleetExporter.Proofs.Series

/-! The form of what is published. Several handlers write to one store, in whatever order and by
whatever answers: under each key there is at most one sample, and it is of the one form that a
record of a complete cluster has. Such a store can always be scraped. -/
namespace FleetExporter

/-- A record as it is made of a complete cluster. -/
structure Record.Sound (hub : String) (r : Record) : Prop where
  hub_eq : r.hubClusterId = hub
  managedClusterId : r.managedClusterId ≠ ""
  vendor : r.vendor ≠ ""
  cloud : r.cloud ≠ ""
  version : r.version ≠ ""
  count : ∀ x, ∃ n : Nat, n ≤ Quantity.valueLimit ∧ r.capacity.count x = n
  cpu : 1 ≤ r.capacity.cpu

/-- A sample as it is published: all labels in order, those that tell the cluster not empty, and
the counts as plain numbers of 63 bits. -/
structure Sample.WellFormed (hub : String) (x : Sample) : Prop where
  value : x.value = .ofNat 1
  keys : x.keys = Record.labels
  hub : x.label? "hub_cluster_id" = some hub
  told : ∀ key ∈ ["managed_cluster_id", "vendor", "cloud", "version"],
    ∃ s, x.label? key = some s ∧ s ≠ ""
  createdVia : x.label? "created_via" = some "Hive" ∨ x.label? "created_via" = some "Other"
  count : ∀ r : Resource, ∃ n : Nat, n ≤ 2 ^ 63 - 1 ∧ x.label? r.name = some (toString n)
  cpu : ∃ n : Nat, 1 ≤ n ∧ x.label? "cpu" = some (toString n)

namespace Record

theorem label?_count (r : Record) (x : Resource) :
    r.sample.label? x.name = some (toString (r.capacity.count x)) := by
  cases x <;> rfl

theorem label?_createdVia (r : Record) :
    r.sample.label? "created_via" = some r.createdVia.text := rfl

theorem Sound.wellFormed {hub : String} {r : Record} (h : r.Sound hub) :
    r.sample.WellFormed hub where
  value := rfl
  keys := r.keys_sample
  hub := congrArg some h.hub_eq
  told := by
    simp only [List.forall_mem_cons]
    exact ⟨⟨_, rfl, h.managedClusterId⟩, ⟨_, rfl, h.vendor⟩, ⟨_, rfl, h.cloud⟩,
      ⟨_, rfl, h.version⟩, by simp⟩
  createdVia := by
    rw [label?_createdVia]
    cases r.createdVia
    · exact Or.inl rfl
    · exact Or.inr rfl
  count x := by
    obtain ⟨n, hn, hcount⟩ := h.count x
    refine ⟨n, hn, ?_⟩
    rw [label?_count, hcount]
    rfl
  cpu := by
    obtain ⟨n, -, hcount⟩ := h.count .cpu
    have hpos : 1 ≤ n := by
      have hcpu : (1 : Int) ≤ r.capacity.count .cpu := h.cpu
      omega
    refine ⟨n, hpos, ?_⟩
    rw [show "cpu" = Resource.cpu.name from rfl, label?_count, hcount]
    rfl

end Record

namespace Join

theorem count_published (hub : String) (info : ManagedClusterInfo) (cluster : ManagedCluster)
    (deployment : Except Error (Option ClusterDeployment)) (x : Resource) :
    (published hub info cluster deployment).capacity.count x = Capacity.countOf cluster x := by
  rw [countOf_eq_reported]
  cases x <;> rfl

/-- Of a report that was read, only sound records are made. -/
theorem sound_of_join {hub : String} {c : Companions} {o : Untyped} {info : ManagedClusterInfo}
    {r : Record} (hinfo : ManagedClusterInfo.decode o = .ok info)
    (hr : (join hub c info).value = some r) : r.Sound hub := by
  have hid := managedClusterId_of_join hr
  obtain ⟨cluster, -, hcomplete, rfl⟩ := (join_eq_some_iff hub c info r).mp hr
  have hvendor := ManagedClusterInfo.canonical_of_decode hinfo
  refine ⟨rfl, ?_, fun ht => hcomplete.vendor (hvendor.eq_unknown_iff.mpr ht), hcomplete.cloud,
    hcomplete.version, fun x => ⟨_, Capacity.countOf_le cluster x, count_published ..⟩, ?_⟩
  · rw [hid]
    exact (resolvedId_ne_empty_iff info).mpr hcomplete.identifier
  · have hcpu := hcomplete.cpu
    simp only [published]
    omega

end Join

/-- A line is that of a sample under its key. -/
theorem SampleStore.exists_sample_of_mem_lines {s : SampleStore} {d : Descriptor} {i : Nat}
    {l : String × List Char} (h : l ∈ s.lines d i) :
    ∃ v x, s.get? l.1 = some v ∧ x ∈ v.flatten ∧ l.2 = Exposition.sampleLine d.name x := by
  obtain ⟨⟨k, v⟩, hkv, hl⟩ := List.mem_flatMap.mp h
  obtain ⟨x, hx, rfl⟩ := List.mem_map.mp hl
  refine ⟨v, x, (mem_toList_iff s k v).mp hkv, ?_, rfl⟩
  simp only at hx
  cases hslot : v[i]? with
  | none => simp [hslot] at hx
  | some slot =>
    exact List.mem_flatten.mpr ⟨slot, List.mem_of_getElem? hslot, by simpa [hslot] using hx⟩

namespace Watch

open SampleStore

theorem sound_of_joined {hub : String} {c : Companions} {o : Untyped} {r : Record}
    (h : joined? hub c o = some (some r)) : r.Sound hub := by
  unfold joined? at h
  split at h
  · cases h
  · rename_i info hinfo
    exact Join.sound_of_join hinfo (Option.some.inj h)

/-! ## The invariant of a store -/

/-- Under each key of a store there is one sound record, or none. -/
structure Exports (hub : String) (s : SampleStore) : Prop where
  descriptors_eq : s.descriptors = [Record.descriptor]
  slots : ∀ k v, s.get? k = some v → ∃ r, v = slotsOfRecord r ∧ ∀ x, r = some x → x.Sound hub

namespace Exports

variable {hub : String} {s : SampleStore}

theorem empty (hub : String) : Exports hub (.empty [Record.descriptor]) where
  descriptors_eq := rfl
  slots k v hv := by simp at hv

/-- A delivery leaves what was under a key, or puts there what an object is joined to. -/
theorem take (h : Exports hub s) (handler : Handler) (m : Moment) :
    Exports hub (handler.take [.clusterInfo hub] m.companions s m.delivery).value.2 where
  descriptors_eq := by rw [Handler.descriptors_take, h.descriptors_eq]
  slots k v hv := by
    -- failed reads and prunes only take keys away, so nothing but a join puts slots there
    rcases get?_take_eq_some _ _ _ _ _ hv with hfills | ⟨hbefore, -⟩
    · rw [h.descriptors_eq, fills_clusterInfo_iff] at hfills
      obtain ⟨r, rfl, o, -, -, hr⟩ := hfills
      refine ⟨r, rfl, ?_⟩
      rintro x rfl
      exact sound_of_joined hr
    · exact h.slots k v hbefore

theorem length_le {k : String} {v : Slots} (h : Exports hub s) (hv : s.get? k = some v) :
    v.flatten.length ≤ 1 := by
  obtain ⟨_ | r, rfl, -⟩ := h.slots k v hv <;> simp [slotsOfRecord]

theorem wellFormed {k : String} {v : Slots} (h : Exports hub s) (hv : s.get? k = some v) :
    ∀ x ∈ v.flatten, x.WellFormed hub := by
  obtain ⟨_ | r, rfl, hsound⟩ := h.slots k v hv
  · simp [slotsOfRecord]
  · simpa [slotsOfRecord] using (hsound r rfl).wellFormed

/-- Such a store has a text, and each sample is one line of it. -/
theorem readsByLine (h : Exports hub s) : s.ReadsByLine Record.descriptor where
  text := render_eq h.descriptors_eq (by decide)
  isLine l hl := by
    obtain ⟨v, x, hv, hx, hline⟩ := exists_sample_of_mem_lines hl
    have hform : x.WellFormed hub := h.wellFormed hv x hx
    rw [hline]
    refine Exposition.isLine_sampleLine (by decide) ?_ ?_
    · rw [hform.keys]
      decide
    · rw [hform.value]
      decide +kernel

/-- It stays such a store over a history. -/
theorem takeAll (h : Exports hub s) (handler : Handler) (history : List Moment) :
    Exports hub (handler.takeAll [.clusterInfo hub] s history).value.2 := by
  induction history generalizing handler s with
  | nil => exact h
  | cons m rest ih => exact ih (h.take handler m) _

end Exports

theorem exports_exported (hub scope : String) (history : List Moment) :
    Exports hub (exported hub scope history) := Exports.takeAll (.empty hub) _ _

/-! ## Runs of several handlers -/

namespace Fleet

/-- The deliveries of several watches, each with the number of its watch and under the answers of
its moment, by arithmetic that wraps around. -/
def follow (generators : List Generator) : Fleet → List (Nat × Moment) → Fleet
  | f, [] => f
  | f, (i, m) :: rest =>
    follow generators (f.take generators m.companions i m.delivery).value rest

/-- A fleet takes deliveries in a row as it follows them under answers that stay the same. -/
theorem value_takeAll (generators : List Generator) (c : Companions) (f : Fleet)
    (ds : List (Nat × Delivery)) :
    (takeAll generators c f ds).value = f.follow generators (ds.map fun d => (d.1, ⟨c, d.2⟩)) := by
  induction ds generalizing f with
  | nil => rfl
  | cons d ds ih => exact ih _

end Fleet

variable {hub : String} {f : Fleet}

theorem Exports.fleetTake (h : Exports hub f.store) (i : Nat) (m : Moment) :
    Exports hub (f.take [.clusterInfo hub] m.companions i m.delivery).value.store := by
  unfold Fleet.take
  split
  · exact h
  · exact h.take _ m

theorem Exports.follow (h : Exports hub f.store) (events : List (Nat × Moment)) :
    Exports hub (f.follow [.clusterInfo hub] events).store := by
  induction events generalizing f with
  | nil => exact h
  | cons e rest ih => exact ih (h.fleetTake e.1 e.2)

/-- **Everything published is in form.** Whatever handlers there are, whatever is delivered to them
and in whatever order, and whatever the answers at each time: a key has at most one sample, each
sample is of the form of a record under the identifier of the hub, and a scrape is answered with
the text of the store. The watches of selected namespaces are such handlers. Checked arithmetic may
end a run, but leads to no other store. -/
theorem published_wellFormed (hub : String) (handlers : List Handler)
    (events : List (Nat × Moment)) :
    let store :=
      (Fleet.follow [.clusterInfo hub] ⟨handlers, .empty [Record.descriptor]⟩ events).store
    (∀ k v, store.get? k = some v → v.flatten.length ≤ 1 ∧ ∀ x ∈ v.flatten, x.WellFormed hub) ∧
    (∃ text, store.render = .ok text ∧
      Scrape.respond store ⟨"GET", Scrape.metricsPath⟩ =
        pure ⟨200, some Exposition.contentType, none, text⟩) ∧
    ∀ c namespaces transcripts,
      (Fleet.run [.clusterInfo hub] c namespaces transcripts [Record.descriptor]).value =
        Fleet.follow [.clusterInfo hub]
          ⟨Fleet.handlersFor namespaces, .empty [Record.descriptor]⟩
          ((Fleet.interleave transcripts).map fun d => (d.1, ⟨c, d.2⟩)) := by
  intro store
  have h : Exports hub store := Exports.follow (.empty hub) events
  have htext := h.readsByLine.text
  exact ⟨fun k v hv => ⟨h.length_le hv, h.wellFormed hv⟩,
    ⟨_, htext, Scrape.respond_of_render htext⟩,
    fun _ _ _ => Fleet.value_takeAll _ _ _ _⟩

end Watch

end FleetExporter
