import BucketStore.Proofs.Soundness

/-!
# Failed Requests

A request that fails has still looked at things: it has tested the cache, it may have read the table,
and these looks are counted. On a disk that works nothing else is left of it. Two states of which the
second one differs from the first by looks alone stand in a preorder, `OnlyTested` for caches and
`OnlyRead` for transactions and backends.

A body may fail at a point where its copy of the table is changed already, when a cache that gave a
false answer had settled the condition of a write. The copy is thrown away, and no body notes a key
before its last chance to fail, so there is nothing to take back from the cache (`FailsReading`).
None of this asks that the caches count their buckets or that tables exist.

## Main results

* `failsReading_put`, `failsReading_delete`, `failsReading_adjust`, `failsReading_flush`: a body that
  fails has only read.
* `onlyRead_update`: an update that fails has only read.
* `onlyRead_of_error`: a request that fails has only read.
-/

namespace BucketStore

/-! ### Looks at caches and transactions -/

/-- A cache was **only tested**: beside the tests everything in it is as it was. -/
structure Cache.OnlyTested (c c' : Cache) : Prop where
  filter : c'.filter = c.filter
  adds : c'.adds = c.adds
  removes : c'.removes = c.removes
  resets : c'.resets = c.resets
  tests : c.tests ≤ c'.tests
  negatives : c.negatives ≤ c'.negatives

namespace Cache.OnlyTested

variable {c c' c'' : Cache}

theorem refl (c : Cache) : OnlyTested c c :=
  ⟨rfl, rfl, rfl, rfl, le_rfl, le_rfl⟩

theorem trans (h : OnlyTested c c') (h' : OnlyTested c' c'') : OnlyTested c c'' where
  filter := h'.filter.trans h.filter
  adds := h'.adds.trans h.adds
  removes := h'.removes.trans h.removes
  resets := h'.resets.trans h.resets
  tests := h.tests.trans h'.tests
  negatives := h.negatives.trans h'.negatives

/-- A test is a test. -/
theorem noteTest (c : Cache) (key : Key) : OnlyTested c (c.noteTest key) := by
  refine ⟨rfl, rfl, rfl, rfl, Nat.le_succ _, ?_⟩
  simp only [Cache.noteTest]
  split
  · exact le_rfl
  · exact Nat.le_succ _

end Cache.OnlyTested

namespace Txn

variable {t t' t'' : Txn} {table : Table}

/-- A transaction has **only read**, as far as anything outlives its copy of the store: the cache was
only tested, nothing was noted, and only the two counters moved. -/
structure OnlyRead (t t' : Txn) : Prop where
  cache : t.cache.OnlyTested t'.cache
  pending : t'.pending = t.pending
  reads : t.reads ≤ t'.reads
  shortCircuits : t.shortCircuits ≤ t'.shortCircuits

namespace OnlyRead

theorem refl (t : Txn) : OnlyRead t t :=
  ⟨.refl _, rfl, le_rfl, le_rfl⟩

theorem trans (h : OnlyRead t t') (h' : OnlyRead t' t'') : OnlyRead t t'' where
  cache := h.cache.trans h'.cache
  pending := h'.pending.trans h.pending
  reads := h.reads.trans h'.reads
  shortCircuits := h.shortCircuits.trans h'.shortCircuits

/-- Putting a table in place changes the copy of the store only. -/
theorem withTable (t : Txn) (table : Table) : OnlyRead t (t.withTable table) :=
  ⟨.refl _, rfl, le_rfl, le_rfl⟩

/-- Consulting the cache is a test and one count. -/
theorem consulted (t : Txn) (key : Key) (doubtful : Bool) :
    OnlyRead t (t.consulted key doubtful) := by
  refine ⟨?_, consulted_pending .., ?_, ?_⟩
  · rw [consulted_cache]
    exact .noteTest _ key
  all_goals
    simp only [Txn.consulted]
    split
    all_goals simp [tested]

/-- Settling a condition consults the cache at most. -/
theorem settled (t : Txn) (mode : WriteMode) (key : Key) : OnlyRead t (t.settled mode key) := by
  cases mode with
  | always => exact .refl t
  | ifAbsent => exact .consulted t key true
  | ifPresent => exact .consulted t key false

end OnlyRead

/-- A transaction has **inserted nothing**, as far as an abort takes back: the cache was only tested, no
key was noted as inserted, and only the two counters moved. It may have noted what waits for a commit. -/
structure InsertedNothing (t t' : Txn) : Prop where
  cache : t.cache.OnlyTested t'.cache
  inserted : t'.pending.inserted = t.pending.inserted
  reads : t.reads ≤ t'.reads
  shortCircuits : t.shortCircuits ≤ t'.shortCircuits

/-- Who has only read has inserted nothing. -/
theorem OnlyRead.insertedNothing (h : OnlyRead t t') : InsertedNothing t t' :=
  ⟨h.cache, congrArg Pending.inserted h.pending, h.reads, h.shortCircuits⟩

/-! ### Bodies that fail -/

/-- A body **fails reading** if it has only read whenever it fails. -/
def FailsReading {α : Type} (body : TxnM α) : Prop :=
  ∀ {t e t'}, body.run t = .error e t' → OnlyRead t t'

/-- A write that fails has only read, even where the key was already in the copy of the table. -/
theorem failsReading_put (mode : WriteMode) (key : Key) (value : Value) :
    FailsReading (put mode key value) := by
  intro t e t' hrun
  cases h : t.store.bucketD t.bucket with
  | error fault =>
      rw [run_put_of_fault mode key value h] at hrun
      cases hrun
      exact .refl t
  | ok table =>
      have hsettled := (OnlyRead.withTable t table).trans (.settled _ mode key)
      cases hm : mode.admits (table.contains key) with
      | true =>
          rw [run_put_of_admits mode key value h hm] at hrun
          cases hrun
      | false =>
          rw [run_put_of_not_admits mode key value h hm] at hrun
          obtain ⟨-, rfl⟩ := EStateM.Result.error.inj hrun
          split
          · exact hsettled.trans (.withTable _ _)
          · exact hsettled

/-- A deletion fails at a foreign table only, before anything has happened. -/
theorem failsReading_delete (key : Key) : FailsReading (delete key) := by
  intro t e t' hrun
  cases h : t.store.bucketD t.bucket with
  | error fault =>
      rw [run_delete_of_fault key h] at hrun
      cases hrun
      exact .refl t
  | ok table =>
      rw [run_delete key h] at hrun
      cases hrun

/-- A change of a tally that fails has only read. -/
theorem failsReading_adjust (change : Adjustment) (create : Bool) (key : Key) :
    FailsReading (adjust change create key) := by
  intro t e t' hrun
  cases h : t.store.bucketD t.bucket with
  | error fault =>
      rw [run_adjust_of_fault change create key h] at hrun
      cases hrun
      exact .refl t
  | ok table =>
      rw [run_adjust change create key h] at hrun
      cases ho : change.outcome create t.bucket key (t.seen table key) with
      | error e' =>
          simp only [ho] at hrun
          cases hrun
          exact (OnlyRead.withTable t table).trans (.consulted _ key true)
      | ok n =>
          simp only [ho] at hrun
          cases hrun

/-- A flush does not fail. -/
theorem failsReading_flush : FailsReading flush := by
  intro t e t' hrun
  rw [run_flush] at hrun
  cases hrun

end Txn

/-! ### Backends -/

/-- A result that fails when something is made of it failed before. -/
theorem StoreError.error_of_map {α β : Type} {f : α → β} {result : Except StoreError α}
    {e : StoreError} (h : result.map f = .error e) : result = .error e := by
  cases result with
  | error e' => exact congrArg _ (Except.error.inj h)
  | ok a => cases h

namespace Backend

variable {b b' b'' : Backend} {e : StoreError}

/-- A backend has **only read**: the store, its place, the active bucket and the set of the known
buckets are as they were, every cache was only tested, and only the two counters moved. -/
structure OnlyRead (b b' : Backend) : Prop where
  path : b'.path = b.path
  place : b'.place = b.place
  store : b'.store = b.store
  active : b'.active = b.active
  shape : b'.registry.shape = b.registry.shape
  caches : ∀ name,
    Option.Rel Cache.OnlyTested (b.registry.find? name) (b'.registry.find? name)
  reads : b.reads ≤ b'.reads
  shortCircuits : b.shortCircuits ≤ b'.shortCircuits

namespace OnlyRead

theorem refl (b : Backend) : OnlyRead b b where
  path := rfl
  place := rfl
  store := rfl
  active := rfl
  shape := rfl
  caches name := by
    cases b.registry.find? name with
    | none => exact .none
    | some c => exact .some (.refl c)
  reads := le_rfl
  shortCircuits := le_rfl

theorem trans (h : OnlyRead b b') (h' : OnlyRead b' b'') : OnlyRead b b'' where
  path := h'.path.trans h.path
  place := h'.place.trans h.place
  store := h'.store.trans h.store
  active := h'.active.trans h.active
  shape := h'.shape.trans h.shape
  caches name := by
    have hn := h.caches name
    have hn' := h'.caches name
    generalize b.registry.find? name = c at hn
    generalize b'.registry.find? name = c' at hn hn'
    generalize b''.registry.find? name = c'' at hn'
    cases hn with
    | none => exact hn'
    | some hc =>
        cases hn' with
        | some hc' => exact .some (hc.trans hc')
  reads := h.reads.trans h'.reads
  shortCircuits := h.shortCircuits.trans h'.shortCircuits

/-- Every cache is one that was there before and was only tested. -/
theorem find? (h : OnlyRead b b') {name : String} {c' : Cache}
    (hc' : b'.registry.find? name = some c') :
    ∃ c, b.registry.find? name = some c ∧ c.OnlyTested c' := by
  have hrel := h.caches name
  rw [hc'] at hrel
  cases hc : b.registry.find? name with
  | none =>
      rw [hc] at hrel
      cases hrel
  | some c =>
      rw [hc] at hrel
      cases hrel with
      | some htested => exact ⟨c, rfl, htested⟩

/-- The active cache was only tested. -/
theorem cache (h : OnlyRead b b') : b.cache.OnlyTested b'.cache := by
  have hrel := h.caches b.active
  rw [Backend.cache, Backend.cache, h.active, Registry.cacheOf, Registry.cacheOf, h.shape]
  generalize b.registry.find? b.active = c at hrel
  generalize b'.registry.find? b.active = c' at hrel
  cases hrel with
  | none => exact .refl _
  | some hc => exact hc

/-- The same buckets are known. -/
theorem contains (h : OnlyRead b b') (name : String) :
    b'.registry.contains name = b.registry.contains name := by
  have hn := h.caches name
  rw [Registry.contains_eq_isSome_find?, Registry.contains_eq_isSome_find?]
  generalize b.registry.find? name = c at hn
  generalize b'.registry.find? name = c' at hn
  cases hn with
  | none => rfl
  | some => rfl

end OnlyRead

/-- The caches of a registry were only tested if the one that was replaced was. An unknown name stays
unknown. -/
theorem caches_set {c : Cache} (h : b.cache.OnlyTested c) (name : String) :
    Option.Rel Cache.OnlyTested (b.registry.find? name)
      ((b.registry.set b.active c).find? name) := by
  rw [Registry.find?_set]
  split
  · rename_i hname
    obtain ⟨rfl, hknown⟩ := hname
    rw [Registry.contains_eq_isSome_find?, Option.isSome_iff_exists] at hknown
    obtain ⟨c₀, hc₀⟩ := hknown
    rw [cache, Registry.cacheOf_of_find? hc₀] at h
    rw [hc₀]
    exact .some h
  · exact (OnlyRead.refl b).caches name

/-- An abort leaves what was only read, if nothing was inserted. -/
theorem onlyRead_abort {t : Txn} (h : Txn.InsertedNothing b.transaction t) : OnlyRead b (b.abort t) := by
  have hretract : t.pending.retract t.cache = t.cache := by
    rw [Pending.retract, h.inserted]
    rfl
  simp only [abort, setCache, hretract]
  exact {
    path := rfl
    place := rfl
    store := rfl
    active := rfl
    shape := Registry.shape_set ..
    caches := caches_set h.cache
    reads := h.reads
    shortCircuits := h.shortCircuits }

/-- **An update that fails has only read**, if its body fails reading. -/
theorem onlyRead_update {α : Type} {body : TxnM α} (hbody : Txn.FailsReading body)
    (h : (b.update body).1 = .error e) : OnlyRead b (b.update body).2 := by
  cases hrun : body.run b.transaction with
  | ok a t =>
      rw [update_of_ok hrun] at h
      cases h
  | error e' t =>
      rw [update_of_error hrun]
      exact onlyRead_abort (hbody hrun).insertedNothing

/-- Looking a key up is only reading, whatever is found. -/
theorem onlyRead_looked (b : Backend) (key : Key) : OnlyRead b (b.looked key) where
  path := b.looked_path key
  place := b.looked_place key
  store := b.looked_store key
  active := b.looked_active key
  shape := by rw [looked_registry, Registry.shape_set]
  caches := by
    rw [looked_registry]
    exact caches_set (.noteTest b.cache key)
  reads := by
    simp only [looked]
    split
    · exact Nat.le_succ _
    · exact le_rfl
  shortCircuits := by
    simp only [looked]
    split
    · exact le_rfl
    · exact Nat.le_succ _

/-- A deletion that fails has only read, with the read before it or without. -/
theorem onlyRead_delete {key : Key} {onlyIfExists : Bool}
    (h : (b.delete key onlyIfExists).1 = .error e) :
    OnlyRead b (b.delete key onlyIfExists).2 := by
  cases onlyIfExists with
  | false => exact onlyRead_update (Txn.failsReading_delete key) (StoreError.error_of_map h)
  | true =>
      have hlooked := onlyRead_looked b key
      rw [delete_ifExists_eq] at h ⊢
      generalize b.found key = found at h ⊢
      rcases found with e' | _ | value
      · exact hlooked
      · exact hlooked
      · exact hlooked.trans (onlyRead_update (Txn.failsReading_delete key) h)

/-- A switch that fails changes nothing: neither a text that is no name nor a table that cannot be
read makes anything known. -/
theorem onlyRead_switch {name : String} (h : (b.switch name).1 = .error e) :
    OnlyRead b (b.switch name).2 := by
  obtain ⟨_, -, hs⟩ | ⟨_, _, -, -, hs⟩ | ⟨_, _, -, -, hs⟩ := b.switch_cases name
  · rw [hs]
    exact .refl b
  · rw [hs]
    exact .refl b
  · rw [hs] at h
    cases h

/-- **A failed request is as good as none**, on a disk that works. Whatever state a backend is in, when
a request fails, every table is as it was and where it was, the same bucket is active, the same buckets
are known, and no cache has changed but for its statistics of tests. -/
theorem onlyRead_of_error {request : Request} (h : (b.serve request).1 = .error e) :
    OnlyRead b (b.serve request).2 := by
  cases request with
  | put mode key value =>
      exact onlyRead_update (Txn.failsReading_put mode key value) (StoreError.error_of_map h)
  | get key =>
      simp only [serve, get_eq, Prod.map_snd, id]
      exact onlyRead_looked b key
  | delete key onlyIfExists => exact onlyRead_delete (StoreError.error_of_map h)
  | adjust change create key =>
      exact onlyRead_update (Txn.failsReading_adjust change create key) (StoreError.error_of_map h)
  | flush => exact onlyRead_update Txn.failsReading_flush (StoreError.error_of_map h)
  | switch name => exact onlyRead_switch (StoreError.error_of_map h)
  | stats => exact .refl b

end Backend

end BucketStore
