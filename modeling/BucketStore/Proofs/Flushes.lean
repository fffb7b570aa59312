import BucketStore.Proofs.Drops

/-!
# Flushes

A flush puts a bucket in order again, whatever state it was in. The table may hold any keys, be
missing, or be a foreign one, and the counters of the cache may be stuck or have nothing to do with
the table. The transaction drops the table and makes it anew, and the commit clears the filter,
which is the one change of a filter that a stuck counter does not survive.

From then on the cache denies every key (`Backend.DeniesAll`), and it stays that way as long as keys
are only looked up: a denied key is answered from the cache alone, and a test leaves the filter as
it is.

## Main results

* `flush_eq`: a flush succeeds, and commits an emptied transaction.
* `DeniesAll.serve`, `DeniesAll.run`: lookups in a backend that denies all keys.
* `flush_from_any_state`: what a flush leaves, and what is answered after it.
-/

namespace BucketStore

/-! ### Lookups -/

/-- A **lookup** is a request that changes no table unless it finds its key. -/
inductive Lookup where
  /-- Read a key. -/
  | get (key : Key)
  /-- Delete a key if it is stored. -/
  | deleteIfExists (key : Key)
  deriving DecidableEq, Repr

namespace Lookup

/-- The key that is looked up. -/
def key : Lookup → Key
  | .get key => key
  | .deleteIfExists key => key

/-- The request that a lookup is. -/
def request : Lookup → Request
  | .get key => .get key
  | .deleteIfExists key => .delete key true

/-- The answer to a lookup whose key is absent. -/
def absent : Lookup → Answer
  | .get _ => .value none
  | .deleteIfExists _ => .deleted false

end Lookup

namespace Backend

variable {b : Backend} {c : Cache}

/-! ### Backends that deny all keys -/

/-- A backend **denies all keys** if its active bucket has a cache and that cache admits none. -/
structure DeniesAll (b : Backend) : Prop where
  /-- The active bucket has a cache. -/
  active_known : ∃ c, b.registry.find? b.active = some c
  /-- The cache admits no key. -/
  denies : ∀ key, b.cache.mayContain key = false

namespace DeniesAll

/-- Nothing is found, and no table is looked into. -/
theorem found_eq (h : b.DeniesAll) (key : Key) : b.found key = .ok none := by
  simp only [found, h.denies, Bool.false_eq_true, if_false]

/-- A key that was looked up was not read. -/
theorem looked_eq (h : b.DeniesAll) (key : Key) :
    b.looked key =
      { b.setCache (b.cache.noteTest key) with shortCircuits := b.shortCircuits + 1 } := by
  simp only [looked, h.denies, Bool.false_eq_true, if_false]

/-- A lookup answers that its key is absent, and does no more than to look the key up. -/
theorem serve (h : b.DeniesAll) (lookup : Lookup) :
    b.serve lookup.request = (.ok lookup.absent, b.looked lookup.key) := by
  cases lookup with
  | get key =>
      simp only [Lookup.request, Backend.serve, get_eq, h.found_eq]
      rfl
  | deleteIfExists key =>
      simp only [Lookup.request, Backend.serve, delete_ifExists_eq, h.found_eq]
      rfl

/-- Looking a key up leaves the filter as it is, so that all keys are denied as before. -/
theorem looked (h : b.DeniesAll) (key : Key) : (b.looked key).DeniesAll := by
  obtain ⟨c, hc⟩ := h.active_known
  have hcache : (b.looked key).cache = b.cache.noteTest key := by
    rw [cache, looked_registry, looked_active, cacheOf_set hc]
  refine ⟨⟨b.cache.noteTest key, ?_⟩, fun other => ?_⟩
  · rw [looked_registry, looked_active]
    exact Registry.find?_set_self hc _
  · rw [hcache]
    exact h.denies other

/-- **A row of lookups** is answered from the cache alone: every key is absent, each lookup counts as
one short circuit, and no table is read or changed. -/
theorem run (h : b.DeniesAll) (lookups : List Lookup) :
    let b' := b.after (lookups.map Lookup.request)
    b.answers (lookups.map Lookup.request) = lookups.map (fun lookup => .ok lookup.absent) ∧
      b'.reads = b.reads ∧ b'.shortCircuits = b.shortCircuits + lookups.length ∧
      b'.store = b.store := by
  -- A lookup leaves a backend that denies all keys, so the induction is for every such backend.
  induction lookups generalizing b with
  | nil => exact ⟨rfl, rfl, rfl, rfl⟩
  | cons lookup rest ih =>
      obtain ⟨hanswers, hreads, hshort, hstore⟩ := ih (h.looked lookup.key)
      simp only [List.map_cons, Backend.answers, Backend.after, h.serve, List.length_cons]
      refine ⟨by rw [hanswers], hreads.trans ?_, hshort.trans ?_, hstore.trans ?_⟩
      · rw [h.looked_eq]
        rfl
      · rw [h.looked_eq]
        simp only
        omega
      · exact looked_store ..

end DeniesAll

/-! ### Flushes -/

/-- A flush succeeds, and commits an emptied transaction. -/
theorem flush_eq (b : Backend) : b.flush = (.ok (), b.commit b.transaction.emptied) :=
  update_of_ok (Txn.run_flush _)

/-- The caches after a flush: that of the active bucket was reset, and the others are as they were. -/
theorem find?_commit_emptied (hknown : b.registry.find? b.active = some c) (name : String) :
    (b.commit b.transaction.emptied).registry.find? name =
      if b.active = name then some c.reset else b.registry.find? name := by
  have hcache : b.cache = c := Registry.cacheOf_of_find? hknown
  rw [← hcache]
  exact Registry.find?_set_of_find? hknown name

/-- **A flush puts a bucket in order.** Whatever the table of the active bucket holds, and also if it is
missing or a foreign one, and whatever the counters of its cache are, a flush succeeds. After it the
bucket has a table without keys, every counter of its cache is at zero, the cache was reset once
more, and under the other names all tables and caches are as they were. Every row of lookups after
it is told that its keys are absent, at one short circuit each and without a read. -/
theorem flush_from_any_state (hknown : b.registry.find? b.active = some c) :
    ∃ b' c', b.flush = (.ok (), b') ∧ b'.active = b.active ∧
      b'.store[b.active]? = some (.bucket ∅) ∧
      b'.registry.find? b.active = some c' ∧ (∀ slot, c'.filter.counter slot = 0) ∧
      c'.resets = c.resets + 1 ∧
      (∀ name, name ≠ b.active →
        b'.store[name]? = b.store[name]? ∧ b'.registry.find? name = b.registry.find? name) ∧
      ∀ lookups : List Lookup,
        b'.answers (lookups.map Lookup.request) = lookups.map (fun lookup => .ok lookup.absent) ∧
          (b'.after (lookups.map Lookup.request)).reads = b.reads ∧
          (b'.after (lookups.map Lookup.request)).shortCircuits =
            b.shortCircuits + lookups.length := by
  have hfind := find?_commit_emptied hknown
  have hself : (b.commit b.transaction.emptied).registry.find? b.active = some c.reset := by
    rw [hfind, if_pos rfl]
  have hdenies : (b.commit b.transaction.emptied).DeniesAll := by
    have hcache : (b.commit b.transaction.emptied).cache = c.reset :=
      Registry.cacheOf_of_find? hself
    refine ⟨⟨c.reset, hself⟩, fun key => ?_⟩
    rw [hcache]
    exact Filter.contains_clear _ key
  refine ⟨_, c.reset, b.flush_eq, rfl, Std.TreeMap.getElem?_insert_self, hself, ?_, rfl, ?_, ?_⟩
  · exact Filter.counter_clear c.filter
  · intro name hname
    refine ⟨?_, by rw [hfind, if_neg (Ne.symm hname)]⟩
    exact (Store.getElem?_setBucket_of_ne hname _).trans (Store.getElem?_drop_of_ne hname)
  · intro lookups
    obtain ⟨hanswers, hreads, hshort, -⟩ := hdenies.run lookups
    exact ⟨hanswers, hreads, hshort⟩

/-- A flush where a foreign table stands under the bucket's name and the counters of the cache are
stuck. -/
theorem flush_of_foreign :
    ∃ b, (openWith .byLength (.holding .single) "kv" "b").1 = .ok b ∧
      let c := (List.replicate 255 [9]).foldl Cache.add b.cache
      let spoilt := { b.setCache c with store := b.store.insert "b" .foreign }
      spoilt.cache.filter.counter 1 = Filter.stuck ∧
        ∃ b', spoilt.flush = (.ok (), b') ∧ b'.store["b"]? = some (.bucket ∅) ∧
          b'.cache.filter.counter 1 = 0 ∧
          b'.answers [.get [1], .delete [9] true] =
            [.ok (.value none), .ok (.deleted false)] := by
  have hrun : ((openWith .byLength (.holding .single) "kv" "b").1.toOption.map fun b =>
      (b.active, ((List.replicate 255 [9]).foldl Cache.add b.cache).filter.counter 1)) =
      some ("b", Filter.stuck) := by decide +kernel
  obtain ⟨b, hb, hfacts⟩ := Option.map_eq_some_iff.mp hrun
  simp only [Prod.mk.injEq] at hfacts
  obtain ⟨hactive, hstuck⟩ := hfacts
  have hopen := StoreError.eq_ok_of_toOption hb
  have hfind := (sound_of_openWith hopen).1.find?_active
  refine ⟨b, hopen, ?_⟩
  intro c spoilt
  have hknown : spoilt.registry.find? spoilt.active = some c := Registry.find?_set_self hfind c
  obtain ⟨b', c', hflush, hactive', htable, hfound, hzero, -, -, hlookups⟩ :=
    flush_from_any_state hknown
  have hcache : b'.cache = c' := by
    rw [cache, hactive', Registry.cacheOf_of_find? hfound]
  refine ⟨?_, b', hflush, hactive ▸ htable, ?_, (hlookups [.get [1], .deleteIfExists [9]]).1⟩
  · rw [cache, Registry.cacheOf_of_find? hknown]
    exact hstuck
  · rw [hcache]
    exact hzero 1

end Backend

end BucketStore
