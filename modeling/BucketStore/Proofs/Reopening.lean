import BucketStore.Proofs.Isolation
import BucketStore.Proofs.Leases
import BucketStore.Proofs.Rebuilding
import BucketStore.Proofs.SameTables

/-!
# Closing and Reopening

A backend that is closed gives its tables back to the file, and everything else is lost: the caches
with what they have been through, and which buckets were known. A backend that is opened on the file
afterwards starts with a single new cache, filled from the table of its bucket, and its filters may
have another shape. Still it goes on as if the first one had never been closed.

Two things are needed for this. The file has to be found again under its path, which is a matter of
volumes (`Volume.lease_release`), and the bucket has to have a table and a proper name. The bucket that
the first backend was opened on has both; so does every bucket in which a change was committed,
because what is active has a name (`Named`) and tables stay (`persists_after`). The rest is that only
tables matter (`SameTables.run`).

## Main results

* `openWith_of_hasBucket`: a bucket that has a table can be opened.
* `cache_of_openWith`, `stats_loadAll`: what a cache looks like when it was filled.
* `named_of_mem_log`, `hasBucket_of_mem_log`: the buckets in which a change was committed.
* `reopened_eq_kept`: a reopened backend goes on like the one that was never closed.
-/

namespace BucketStore.Backend

variable {b : Backend} {shape : Filter.Shape} {v leased : Volume} {path bucket name : String}
  {place : Location} {s : Store} {requests : List Request}

/-! ### Names of active buckets -/

/-- The active bucket is **named** if its text is a bucket name. -/
def Named (b : Backend) : Prop :=
  ∃ n, BucketName.ofString b.active = .ok n

/-- Every request leaves a named bucket active. -/
theorem Named.serve (hb : b.Named) (request : Request) : (b.serve request).2.Named := by
  rcases request.switch_or with hrequest | ⟨new, rfl⟩
  · rw [Named, steady_active.serve hrequest]
    exact hb
  · obtain ⟨_, -, h⟩ | ⟨_, _, -, -, h⟩ | ⟨n, _, hn, -, h⟩ := b.switch_cases new
    · simpa only [Backend.serve, Prod.map_snd, id, h] using hb
    · simpa only [Backend.serve, Prod.map_snd, id, h] using hb
    · refine ⟨n, ?_⟩
      simp only [Backend.serve, Prod.map_snd, id, h]
      rw [BucketName.text_of_ofString hn, hn]

/-! ### Opening -/

/-- A backend is opened with a named bucket active, on a store that is leased from then on. -/
theorem parts_of_openWith (h : (openWith shape v path bucket).1 = .ok b) :
    b.active = bucket ∧ b.Named ∧
      v.lease path = .ok (b.place, b.store, (openWith shape v path bucket).2) := by
  cases hn : BucketName.ofString bucket with
  | error fault => simp [openWith, hn] at h
  | ok n =>
      obtain ⟨place, s, leased, registry, hlease, hens, rfl⟩ := openWith_eq_ok h
      refine ⟨rfl, ⟨n, hn⟩, ?_⟩
      simp only [openWith, hn, hlease, BucketName.text_of_ofString hn, hens]

/-- A bucket that has a table can be opened under its name, whatever the shape of the filters. -/
theorem openWith_of_hasBucket {n : BucketName} (hn : BucketName.ofString name = .ok n)
    (hlease : v.lease path = .ok (place, s, leased)) (hs : s.HasBucket name)
    (shape : Filter.Shape) :
    ∃ b, (openWith shape v path name).1 = .ok b ∧ b.store = s ∧ b.active = name := by
  obtain ⟨table, htable⟩ := hs.bucket?
  have hexisting : ∀ c, existing s name path c = .ok (loadKeys table c) := fun c => by
    simp only [existing_working, htable]
  obtain ⟨registry, hens⟩ : ∃ registry,
      (Registry.empty shape).ensure name (existing s name path) = .ok registry := by
    simp only [Registry.ensure, hexisting]
    split
    · exact ⟨_, rfl⟩
    · exact ⟨_, rfl⟩
  refine ⟨{ path, place, store := s, registry, active := name, reads := 0, shortCircuits := 0 },
    ?_, rfl, rfl⟩
  simp only [openWith, hn, hlease, BucketName.text_of_ofString hn, hens]

/-- A backend is opened with a cache of the keys that the bucket's table holds. -/
theorem cache_of_openWith (h : (openWith shape v path bucket).1 = .ok b) :
    ∃ table, b.store.bucketD bucket = .ok table ∧ b.cache = loadAll table.keys (.empty shape) := by
  obtain ⟨rfl, table, htable, hfind⟩ := registry_of_openWith h
  have hcache := hfind b.active
  rw [if_pos rfl] at hcache
  exact ⟨table, Store.bucketD_of_bucket? htable, Registry.cacheOf_of_find? hcache⟩

/-- Filling a cache shows in the number of keys added, and in the slots that are counted. -/
theorem stats_loadAll (keys : List Key) (c : Cache) :
    (loadAll keys c).stats =
      { c.stats with
        adds := c.adds + keys.length
        occupied := (loadAll keys c).filter.occupied } := by
  induction keys generalizing c with
  | nil => rfl
  | cons key rest ih =>
      have hrest := ih (c.add key)
      have hadds : (c.add key).adds + rest.length = c.adds + (key :: rest).length := by
        simp only [Cache.add, List.length_cons]
        omega
      rw [hadds] at hrest
      simpa only [loadAll, List.foldl_cons, Cache.stats, Cache.add, Filter.shape_add] using hrest

/-! ### Committed changes -/

/-- All buckets on the record of a run are named. -/
theorem named_of_mem_log (hb : b.Named) {e : Entry} (he : e ∈ b.log requests) :
    ∃ n, BucketName.ofString e.bucket = .ok n := by
  induction requests generalizing b with
  | nil => cases he
  | cons request rest ih =>
      rw [log_cons] at he
      rcases List.mem_cons.mp he with rfl | hrest
      · exact hb
      · exact ih (hb.serve request) hrest

/-- A bucket in which a change was committed has a table at the end of the run. -/
theorem hasBucket_of_mem_log {e : Entry} (he : e ∈ b.log requests)
    (hcommitted : e.request.committed e.answer = true) :
    (b.after requests).store.HasBucket e.bucket := by
  induction requests generalizing b with
  | nil => cases he
  | cons request rest ih =>
      rw [log_cons] at he
      rcases List.mem_cons.mp he with rfl | hrest
      · exact (persists_after _ rest).hasBucket (hasBucket_of_committed hcommitted)
      · exact ih hrest

/-- A bucket that has a table and a name can be made active. -/
theorem Intact.switch_of_hasBucket (hb : b.Intact) {n : BucketName}
    (hn : BucketName.ofString name = .ok n) (hs : b.store.HasBucket name) :
    ∃ b', b.switch name = (.ok (), b') ∧ b'.Intact ∧ b'.store = b.store ∧ b'.active = name := by
  obtain ⟨table, htable⟩ := hs.bucketD
  have hresult : (b.switch name).1 = .ok () := by
    simp only [hb.switch_result, switchable, hn, BucketName.text_of_ofString hn, htable]
  refine ⟨(b.switch name).2, Prod.ext hresult rfl, hb.serve (.switch name), switch_store .., ?_⟩
  rw [switch_active, hresult]
  rfl

/-! ### Reopening -/

/-- **Closing and reopening is invisible.** Whatever was asked of a backend since it was opened, its
file can be opened again after it was closed, with filters of any shape, on the bucket that it was
opened on and on every bucket in which a change was committed. The new cache counts exactly the stored
keys and has not been used otherwise. From then on every request gets the reply, and leaves the
tables, that it would have got and left if the backend had been kept open and the bucket made active.
And no request ever takes a bucket's table away. -/
theorem reopened_eq_kept (h : (openWith shape v path bucket).1 = .ok b) (requests : List Request)
    (hname : name = bucket ∨
      ∃ e ∈ b.log requests, e.bucket = name ∧ e.request.committed e.answer = true)
    (shape' : Filter.Shape) :
    ∃ reopened kept table,
      (openWith shape' ((b.after requests).close (openWith shape v path bucket).2) path name).1 =
        .ok reopened ∧
      (b.after requests).switch name = (.ok (), kept) ∧
      reopened.store.bucketD name = .ok table ∧
      reopened.cache.filter.Exact (table.keys : Multiset Key) ∧
      reopened.cache.stats =
        { tests := 0, negatives := 0, adds := table.size, removes := 0, resets := 0,
          occupied := reopened.cache.filter.occupied, slots := shape'.slots } ∧
      (∀ further : List Request,
        (reopened.answers further).map (·.map Answer.reply) =
            (kept.answers further).map (·.map Answer.reply) ∧
          (reopened.after further).store = (kept.after further).store) ∧
      ∀ (other : String) (further : List Request), (b.after requests).store.HasBucket other →
        ((b.after requests).after further).store.HasBucket other := by
  obtain ⟨rfl, hnamed, hlease⟩ := parts_of_openWith h
  have hintact := (intact_of_openWith h).after requests
  -- The bucket has a name and a table when the backend is closed.
  obtain ⟨⟨n, hn⟩, hhas⟩ : (∃ n, BucketName.ofString name = .ok n) ∧
      (b.after requests).store.HasBucket name := by
    rcases hname with rfl | ⟨e, he, rfl, hcommitted⟩
    · exact ⟨hnamed, (b.persists_after requests).hasBucket (hasBucket_of_openWith h)⟩
    · exact ⟨named_of_mem_log hnamed he, hasBucket_of_mem_log he hcommitted⟩
  obtain ⟨leased', hlease'⟩ := Volume.lease_release hlease (b.after requests).store
  obtain ⟨reopened, hopen, hstore, hactive'⟩ := openWith_of_hasBucket hn hlease' hhas shape'
  obtain ⟨kept, hswitch, hkept, hkept_store, hkept_active⟩ := hintact.switch_of_hasBucket hn hhas
  have hsame : SameTables kept reopened :=
    ⟨hkept, intact_of_openWith hopen, hactive'.trans hkept_active.symm,
      hstore.trans hkept_store.symm⟩
  obtain ⟨table, htable, hcache⟩ := cache_of_openWith hopen
  refine ⟨reopened, kept, table, ?_, hswitch, htable, ?_, ?_, fun further => ?_,
    fun other further => ((b.after requests).persists_after further).hasBucket⟩
  · rw [close, place_after]
    exact hopen
  · rw [hcache]
    exact exact_rebuilt shape' (.refl _)
  · rw [hcache, stats_loadAll, ← hcache]
    simp [Cache.stats, Cache.empty, Filter.empty, Std.TreeMap.length_keys]
  · obtain ⟨hanswers, hafter⟩ := hsame.run further
    exact ⟨hanswers, hafter.store⟩

/-- A bucket that was flushed and written to, and is then reopened with filters of another size: the
key that was written is there, and the one that another bucket holds is not. -/
theorem reopened_after_flush :
    ∃ b reopened, (openWith .byLength (.holding .single) "kv" "b").1 = .ok b ∧
      (openWith { Filter.Shape.byLength with slots := 5, slots_pos := by decide }
        ((b.after [.switch "c", .flush, .put .ifAbsent [7] [5], .switch "b"]).close
          (openWith .byLength (.holding .single) "kv" "b").2) "kv" "c").1 = .ok reopened ∧
      (reopened.answers [.get [7], .get [1], .put .ifAbsent [7] [], .switch "b", .get [1]]).map
          (·.map Answer.reply) =
        [.ok (.value (some [5])), .ok (.value none), .error (.keyExists "c" [7]), .ok .done,
          .ok (.value (some [2]))] := by
  let requests : List Request := [.switch "c", .flush, .put .ifAbsent [7] [5], .switch "b"]
  let further : List Request :=
    [.get [7], .get [1], .put .ifAbsent [7] [], .switch "b", .get [1]]
  have hrun : ((openWith .byLength (.holding .single) "kv" "b").1.toOption.map fun b =>
      ((b.log requests).any fun e => e.bucket == "c" && e.request.committed e.answer,
        (((b.after requests).switch "c").2.answers further).map (·.map Answer.reply))) =
      some (true, [.ok (.value (some [5])), .ok (.value none), .error (.keyExists "c" [7]),
        .ok .done, .ok (.value (some [2]))]) := by decide +kernel
  obtain ⟨b, hb, hfound⟩ := Option.map_eq_some_iff.mp hrun
  obtain ⟨hlog, hkept⟩ := Prod.ext_iff.mp hfound
  obtain ⟨e, he, hboth⟩ := List.any_eq_true.mp hlog
  obtain ⟨hbucket, hcommitted⟩ := Bool.and_eq_true_iff.mp hboth
  have hopen := StoreError.eq_ok_of_toOption hb
  obtain ⟨reopened, kept, table, hreopen, hswitch, -, -, -, hanswers, -⟩ :=
    reopened_eq_kept hopen requests (.inr ⟨e, he, eq_of_beq hbucket, hcommitted⟩)
      { Filter.Shape.byLength with slots := 5, slots_pos := by decide }
  rw [hswitch] at hkept
  exact ⟨b, reopened, hopen, hreopen, (hanswers further).1.trans hkept⟩

end BucketStore.Backend
