import BucketStore.Backend.Open
import BucketStore.Proofs.Balance
import BucketStore.Proofs.Operations

/-!
# Caches Count Their Buckets

A backend is **sound** if every cache of its registry counts exactly the keys that the store holds
for its bucket, whether or not the bucket is active (`Backend.Sound`). Opening a store gives a sound
backend, since the cache is filled from the table, and every request keeps it sound, whether it
succeeds or fails: an update ends in one of the two endings of a balanced transaction, and a bucket
that becomes active for the first time has its cache filled from its own table.

## Main results

* `sound_of_openWith`: a backend is sound when it was opened.
* `Sound.update`: a transaction whose body keeps the balance keeps the backend sound.
* `Sound.serve`, `Sound.after`: one request, and any row of requests, keeps the backend sound.
* `counter_eq_stuck_or_hits_of_stored`: the counters of every cache in every reachable backend,
  and the absence of false negatives.
-/

namespace BucketStore

/-! ### Registries that count a store -/

namespace Registry

/-- A registry **counts** a store if all of its caches have its shape and each one counts the keys
that the store holds for its bucket. -/
structure Counts (r : Registry) (s : Store) : Prop where
  /-- All caches have one shape. -/
  shape : ∀ {name c}, r.find? name = some c → c.filter.shape = r.shape
  /-- Each cache counts its bucket. -/
  counts : ∀ {name c}, r.find? name = some c → c.filter.Counts (s.keysOf name)

namespace Counts

variable {r r' : Registry} {s s' : Store} {name : String}

/-- A registry without caches counts any store. -/
theorem empty (shape : Filter.Shape) (s : Store) : (Registry.empty shape).Counts s :=
  ⟨fun h => by simp at h, fun h => by simp at h⟩

/-- A registry in which one cache was put goes on counting if the others keep their tables and the
new one counts its own. -/
theorem of_find? (h : r.Counts s) {c : Cache} (hr : r'.shape = r.shape)
    (hfind : ∀ other, r'.find? other = if name = other then some c else r.find? other)
    (helsewhere : ∀ other, other ≠ name → s'[other]? = s[other]?)
    (hshape : c.filter.shape = r.shape) (hcounts : c.filter.Counts (s'.keysOf name)) :
    r'.Counts s' where
  shape := by
    intro other c' hc'
    rw [hfind] at hc'
    split at hc'
    · cases hc'
      exact hshape.trans hr.symm
    · exact (h.shape hc').trans hr.symm
  counts := by
    intro other c' hc'
    rw [hfind] at hc'
    split at hc'
    · rename_i hname
      cases hc'
      exact hname ▸ hcounts
    · rename_i hname
      rw [Store.keysOf_congr (helsewhere other (Ne.symm hname))]
      exact h.counts hc'

/-- A registry goes on counting when a name becomes known, if the name's cache is filled from the
name's own table. -/
theorem ensure (h : r.Counts s) {ε : Type} {fill : Cache → Except ε Cache}
    (hens : r.ensure name fill = .ok r')
    (hfill : ∀ c, fill (.empty r.shape) = .ok c →
      c.filter.shape = r.shape ∧ c.filter.Counts (s.keysOf name)) :
    r'.Counts s ∧ ∃ c, r'.find? name = some c := by
  rcases ensure_eq_ok hens with ⟨hknown, rfl⟩ | ⟨c, -, hc, rfl⟩
  · rw [contains_eq_isSome_find?, Option.isSome_iff_exists] at hknown
    exact ⟨h, hknown⟩
  · obtain ⟨hshape, hcounts⟩ := hfill c hc
    have hfind := find?_insert r name
    refine ⟨h.of_find? rfl (fun other => hfind other c) (fun _ _ => rfl) hshape hcounts, c, ?_⟩
    rw [hfind, if_pos rfl]

end Counts

end Registry

/-! ### Sound backends -/

namespace Backend

variable {b b' : Backend}

/-- A transaction is balanced at its start if the active cache counts the active bucket. -/
theorem balanced_transaction (h : b.cache.filter.Counts (b.store.keysOf b.active)) :
    b.transaction.Balanced (b.store.keysOf b.active : Multiset Key) where
  counts := by simpa [transaction] using h
  keys := rfl
  not_reset := rfl

/-- A backend is **sound** if its active bucket has a cache and its registry counts its store. -/
structure Sound (b : Backend) : Prop where
  /-- The active bucket has a cache. -/
  active_known : ∃ c, b.registry.find? b.active = some c
  /-- The caches count what is stored. -/
  registry : b.registry.Counts b.store

namespace Sound

/-- The cache of the active bucket of a sound backend. -/
theorem find?_active (hb : b.Sound) : b.registry.find? b.active = some b.cache := by
  obtain ⟨c, hc⟩ := hb.active_known
  rw [hc, cache, Registry.cacheOf_of_find? hc]

/-- The active cache counts the active bucket. -/
theorem counts_cache (hb : b.Sound) : b.cache.filter.Counts (b.store.keysOf b.active) :=
  hb.registry.counts hb.find?_active

/-- The active cache has the shape of the registry. -/
theorem shape_cache (hb : b.Sound) : b.cache.filter.shape = b.registry.shape :=
  hb.registry.shape hb.find?_active

/-- **No false negatives**: the active cache admits every stored key. -/
theorem mayContain_of_stored (hb : b.Sound) {table : Table}
    (ht : b.store.bucketD b.active = .ok table) {key : Key} (hkey : table.contains key = true) :
    b.cache.mayContain key = true := by
  refine hb.counts_cache.contains ?_
  rw [Store.keysOf_of_bucketD ht]
  exact (table.mem_keys_iff key).mpr hkey

/-- A change of the active bucket alone keeps the backend sound, if the new cache counts the new
table. -/
theorem of_set (hb : b.Sound) {c : Cache} (hactive : b'.active = b.active)
    (hregistry : b'.registry = b.registry.set b.active c)
    (helsewhere : ∀ name, name ≠ b.active → b'.store[name]? = b.store[name]?)
    (hshape : c.filter.shape = b.registry.shape)
    (hcounts : c.filter.Counts (b'.store.keysOf b.active)) : b'.Sound where
  active_known := by
    rw [hactive, hregistry, Registry.find?_set_self hb.find?_active]
    exact ⟨c, rfl⟩
  registry := by
    refine hb.registry.of_find? ?_ (fun other => ?_) helsewhere hshape hcounts
    · rw [hregistry, Registry.shape_set]
    · rw [hregistry]
      exact Registry.find?_set_of_find? hb.find?_active other

/-! ### Updates -/

/-- The transaction that starts from a sound backend is balanced over the stored keys. -/
theorem balanced_transaction (hb : b.Sound) :
    b.transaction.Balanced (b.store.keysOf b.active : Multiset Key) :=
  Backend.balanced_transaction hb.counts_cache

/-- A transaction keeps the backend sound if either ending leaves a cache that counts the table that
goes with it. -/
theorem of_update (hb : b.Sound) {α : Type} {body : TxnM α}
    (hframe : Txn.Frame b.transaction (Txn.ending body b.transaction))
    (hok : ∀ {a t}, body.run b.transaction = .ok a t →
      (t.pending.commit t.cache).filter.Counts (t.store.keysOf t.bucket))
    (herror : ∀ {e t}, body.run b.transaction = .error e t →
      (t.pending.retract t.cache).filter.Counts (b.store.keysOf b.active)) :
    (b.update body).2.Sound := by
  cases hrun : body.run b.transaction with
  | ok a t =>
      rw [Txn.ending_of_ok hrun] at hframe
      have hbucket : t.bucket = b.active := hframe.bucket
      rw [update_of_ok hrun]
      refine hb.of_set rfl rfl hframe.elsewhere ?_ (hbucket ▸ hok hrun)
      rw [Pending.shape_commit, hframe.shape]
      exact hb.shape_cache
  | error e t =>
      rw [Txn.ending_of_error hrun] at hframe
      rw [update_of_error hrun]
      refine hb.of_set rfl rfl (fun _ _ => rfl) ?_ (herror hrun)
      rw [Pending.shape_retract, hframe.shape]
      exact hb.shape_cache

/-- **An update keeps the backend sound** if its body keeps the balance. -/
theorem update (hb : b.Sound) {α : Type} {body : TxnM α} (hbody : Txn.KeepsBalance body) :
    (b.update body).2.Sound := by
  have hend := hbody.balanced hb.balanced_transaction
  refine hb.of_update (hbody.frame _) (fun hrun => ?_) (fun hrun => ?_)
  · rw [hrun] at hend
    exact Txn.Balanced.commit hend
  · rw [hrun] at hend
    exact Txn.Balanced.retract hend

/-- A flush keeps the backend sound. -/
theorem flush (hb : b.Sound) : b.flush.2.Sound := by
  refine hb.of_update (Txn.frame_flush _) Txn.commit_flush (fun hrun => ?_)
  rw [Txn.run_flush] at hrun
  cases hrun

/-! ### Requests -/

/-- Looking a key up keeps the backend sound, since a test leaves the filter alone. -/
theorem looked (hb : b.Sound) (key : Key) : (b.looked key).Sound := by
  refine hb.of_set (b.looked_active key) (b.looked_registry key) (fun _ _ => ?_) hb.shape_cache ?_
  · rw [looked_store]
  · rw [looked_store]
    exact hb.counts_cache

/-- A read keeps the backend sound. -/
theorem get (hb : b.Sound) (key : Key) : (b.get key).2.Sound := by
  rw [get_eq]
  exact hb.looked key

/-- A deletion keeps the backend sound, with a read before it or without. -/
theorem delete (hb : b.Sound) (key : Key) (onlyIfExists : Bool) :
    (b.delete key onlyIfExists).2.Sound := by
  cases onlyIfExists with
  | false => exact hb.update (Txn.keepsBalance_delete key)
  | true =>
      have hlooked := hb.looked key
      rw [delete_ifExists_eq]
      rcases b.found key with e | _ | value
      · exact hlooked
      · exact hlooked
      · exact Sound.update hlooked (Txn.keepsBalance_delete key)

/-- A cache that was filled from a bucket's table counts the keys of that table. -/
theorem counts_of_fill {s : Store} {name : String} {shape : Filter.Shape} {c : Cache}
    (h : fill s name (.empty shape) = .ok c) :
    c.filter.shape = shape ∧ c.filter.Counts (s.keysOf name) := by
  rw [fill_working] at h
  cases ht : s.bucketD name with
  | error fault => simp [ht] at h
  | ok table =>
      simp only [ht, Except.ok.injEq] at h
      exact h ▸ loadKeys_spec ht shape

/-- A switch keeps the backend sound: no table changes, and a cache that is new was filled from the
table of its own bucket. -/
theorem switch (hb : b.Sound) (name : String) : (b.switch name).2.Sound := by
  obtain ⟨_, -, h⟩ | ⟨_, _, -, -, h⟩ | ⟨n, registry, -, hens, h⟩ := b.switch_cases name
  · rw [h]
    exact hb
  · rw [h]
    exact hb
  · rw [h]
    obtain ⟨hcounts, hknown⟩ := hb.registry.ensure hens fun c hc => counts_of_fill hc
    exact ⟨hknown, hcounts⟩

/-- **Every request keeps the backend sound**, whether it succeeds or fails. -/
theorem serve (hb : b.Sound) (request : Request) : (b.serve request).2.Sound := by
  cases request with
  | put mode key value => exact hb.update (Txn.keepsBalance_put mode key value)
  | get key => exact hb.get key
  | delete key onlyIfExists => exact hb.delete key onlyIfExists
  | adjust change create key => exact hb.update (Txn.keepsBalance_adjust change create key)
  | flush => exact hb.flush
  | switch name => exact hb.switch name
  | stats => exact hb

/-- A row of requests keeps the backend sound. -/
theorem after (hb : b.Sound) (requests : List Request) : (b.after requests).Sound := by
  induction requests generalizing b with
  | nil => exact hb
  | cons request rest ih => exact ih (hb.serve request)

end Sound

/-! ### Opening -/

section Opening

variable {shape : Filter.Shape} {v : Volume} {path bucket : String}

/-- What a successful opening consists of. -/
theorem openWith_eq_ok (h : (openWith shape v path bucket).1 = .ok b) :
    ∃ place s leased registry, v.lease path = .ok (place, s, leased) ∧
      (Registry.empty shape).ensure bucket (existing s bucket path) = .ok registry ∧
      b = { path, place, store := s, registry, active := bucket, reads := 0, shortCircuits := 0 } := by
  simp only [openWith] at h
  cases hn : BucketName.ofString bucket with
  | error fault => simp [hn] at h
  | ok name =>
      have htext := BucketName.text_of_ofString hn
      subst htext
      cases hl : v.lease path with
      | error fault => simp [hn, hl] at h
      | ok opened =>
          obtain ⟨place, s, leased⟩ := opened
          cases hr : (Registry.empty shape).ensure name.text (existing s name.text path) with
          | error e => simp [hn, hl, hr] at h
          | ok registry =>
              simp only [hn, hl, hr, Except.ok.injEq] at h
              exact ⟨place, s, leased, registry, rfl, hr, h.symm⟩

/-- The cache of an existing bucket is filled from the bucket's table. -/
theorem existing_eq_ok {s : Store} {c c' : Cache} (h : existing s bucket path c = .ok c') :
    ∃ table, s.bucket? bucket = .ok (some table) ∧ c' = loadKeys table c := by
  rw [existing_working] at h
  rcases ht : s.bucket? bucket with fault | _ | table
  · simp [ht] at h
  · simp [ht] at h
  · simp only [ht, Except.ok.injEq] at h
    exact ⟨table, rfl, h.symm⟩

/-- A backend is opened with a single cache, which is that of the active bucket and was filled from
the bucket's table. -/
theorem registry_of_openWith (h : (openWith shape v path bucket).1 = .ok b) :
    b.active = bucket ∧ ∃ table, b.store.bucket? bucket = .ok (some table) ∧
      ∀ name, b.registry.find? name =
        if bucket = name then some (loadKeys table (.empty shape)) else none := by
  obtain ⟨place, s, leased, registry, -, hens, rfl⟩ := openWith_eq_ok h
  obtain ⟨hknown, -⟩ | ⟨c, -, hc, rfl⟩ := Registry.ensure_eq_ok hens
  · simp [Registry.contains_eq_isSome_find?] at hknown
  · obtain ⟨table, htable, rfl⟩ := existing_eq_ok hc
    refine ⟨rfl, table, htable, fun name => ?_⟩
    rw [Registry.find?_insert, Registry.find?_empty]
    rfl

/-- **A backend is sound when it was opened**: its one cache was filled from the bucket's table. -/
theorem sound_of_openWith (h : (openWith shape v path bucket).1 = .ok b) :
    b.Sound ∧ b.registry.shape = shape := by
  obtain ⟨place, s, leased, registry, -, hens, rfl⟩ := openWith_eq_ok h
  obtain ⟨hcounts, hknown⟩ := (Registry.Counts.empty shape s).ensure hens fun c hc => by
    obtain ⟨table, htable, rfl⟩ := existing_eq_ok hc
    exact loadKeys_spec (Store.bucketD_of_bucket? htable) shape
  exact ⟨⟨hknown, hcounts⟩, Registry.shape_ensure hens⟩

end Opening

end Backend

/-! ### A small store -/

/-- A shape of three slots that tells keys apart by their lengths only, so that keys collide. -/
def Filter.Shape.byLength : Filter.Shape where
  capacity := 1
  rate := 0.5
  slots := 3
  hashes := 2
  probe key := ⟨UInt64.ofNat key.length, 1⟩
  slots_pos := by decide
  hashes_pos := by decide

/-- A volume with one file, `kv`, which holds a store. -/
def Volume.holding (s : Store) : Volume :=
  Volume.empty.put ["kv"] (.file (.store s))

/-- A store with one bucket, `b`, which holds one key. -/
def Store.single : Store :=
  (∅ : Store).setBucket "b" ((∅ : Table).insert [1] [2])

/-- A result that is there was no error. -/
theorem StoreError.eq_ok_of_toOption {α : Type} {result : Except StoreError α} {a : α}
    (h : result.toOption = some a) : result = .ok a := by
  cases result with
  | error e => cases h
  | ok a' => exact congrArg _ (Option.some.inj h)

namespace Backend

/-- The small store can be opened. -/
theorem openWith_single :
    ∃ b, (openWith .byLength (.holding .single) "kv" "b").1 = .ok b := by
  have hsome : (openWith .byLength (.holding .single) "kv" "b").1.toOption.isSome = true := by
    decide +kernel
  obtain ⟨b, hb⟩ := Option.isSome_iff_exists.mp hsome
  exact ⟨b, StoreError.eq_ok_of_toOption hb⟩

/-! ### Every reachable backend -/

/-- **One entry per stored key.** Whatever was asked of a backend since it was opened, every counter
of every cache is stuck or the exact number of times that its slot comes up among the positions of
the keys that are stored for the bucket of that cache. So no cache denies a stored key. -/
theorem counter_eq_stuck_or_hits_of_stored {b : Backend} {shape : Filter.Shape}
    {v : Volume} {path bucket : String} (h : (openWith shape v path bucket).1 = .ok b)
    (requests : List Request) {name : String} {c : Cache}
    (hc : (b.after requests).registry.find? name = some c) :
    (∀ slot < shape.slots, c.filter.counter slot = Filter.stuck ∨
      c.filter.counter slot =
        (((b.after requests).store.keysOf name).map fun key => shape.hits key slot).sum) ∧
    ∀ key ∈ (b.after requests).store.keysOf name, c.mayContain key = true := by
  obtain ⟨hsound, hshape⟩ := sound_of_openWith h
  have hafter := hsound.after requests
  have hcounts := hafter.registry.counts hc
  have hc_shape : c.filter.shape = shape := by
    rw [hafter.registry.shape hc, shape_after, hshape]
  refine ⟨fun slot hslot => ?_, fun key hkey => hcounts.contains (Multiset.mem_coe.mpr hkey)⟩
  rw [← Filter.Shape.load_coe, ← hc_shape]
  exact hcounts slot (hc_shape ▸ hslot)

/-- The counters of a bucket that is left behind with another key than it was opened with. -/
theorem counter_eq_of_switched_away :
    ∃ b c, (openWith .byLength (.holding .single) "kv" "b").1 = .ok b ∧
      (b.after [.put .ifAbsent [1, 2] [7], .delete [1] true, .switch "c"]).registry.find? "b" =
        some c ∧
      (∀ slot < 3, c.filter.counter slot = Filter.stuck ∨
        c.filter.counter slot = Filter.Shape.byLength.hits [1, 2] slot) ∧
      c.mayContain [1, 2] = true := by
  let requests : List Request := [.put .ifAbsent [1, 2] [7], .delete [1] true, .switch "c"]
  have hrun : ((openWith .byLength (.holding .single) "kv" "b").1.toOption.bind fun b =>
      ((b.after requests).registry.find? "b").map fun _ =>
        (b.after requests).store.keysOf "b") = some [[1, 2]] := by decide +kernel
  obtain ⟨b, hb, hfound⟩ := Option.bind_eq_some_iff.mp hrun
  obtain ⟨c, hc, hkeys⟩ := Option.map_eq_some_iff.mp hfound
  have hopen := StoreError.eq_ok_of_toOption hb
  obtain ⟨hcounters, hknown⟩ := counter_eq_stuck_or_hits_of_stored hopen requests hc
  rw [hkeys] at hcounters hknown
  have hslots : ∀ slot < 3, c.filter.counter slot = Filter.stuck ∨
      c.filter.counter slot = Filter.Shape.byLength.hits [1, 2] slot := fun slot hslot => by
    simpa using hcounters slot hslot
  exact ⟨b, c, hopen, hc, hslots, hknown [1, 2] (by decide)⟩

end Backend

end BucketStore
