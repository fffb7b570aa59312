import BucketStore.Proofs.Flushes
import BucketStore.Proofs.Reopening
import BucketStore.Proofs.Retractions
import Mathlib.Algebra.Order.Sub.Basic
import Mathlib.Data.Multiset.OrderedMonoid

/-!
# Ledgers of Caches

The statistics of a cache are a **ledger**: how many keys were given to it and taken from it, how often
it was reset, and how often it was asked. No answer to a client depends on the ledger, so an entry too
many would go unnoticed, and would stand there for good.

What is entered hangs on the notes of the transactions. An insertion that is noted is one addition at
once, and a removal that is noted is one removal at the commit. The balance of a transaction
(`Txn.Balanced`) says what the notes have to do with the table, but only the difference of the two
kinds. Each kind by itself comes out right because no body notes both: a write and a change of a tally
note at most an insertion, a deletion at most a removal. So over every request but a flush the ledger
**follows** the keys of the bucket (`Cache.Follows`): one addition for each key that is new, and one
removal for each key that is gone. What the cache happens to answer plays no part in it.

A flush takes all keys away by one reset, and is the only request that leaves keys in the ledger that
were added and never removed. Over a run these are the keys that the bucket held at its flushes
(`Backend.flushed`).

## Main results

* `keepsLedger_put`, `keepsLedger_delete`, `keepsLedger_adjust`: what bodies enter and note.
* `Sound.follows_serve`: a request but a flush has the ledger follow the keys.
* `HasLedger.serve`, `HasLedger.after`: the ledger over one request, and over any row of them.
* `ledger_after_run`: the ledger of every cache of every reachable backend.
-/

namespace BucketStore

/-! ### Ledgers -/

namespace Cache

/-- A cache has **followed** its bucket from some keys to others: each key that is new was added once,
each key that is gone was removed once, and the cache was not reset. -/
structure Follows (keys keys' : Multiset Key) (c c' : Cache) : Prop where
  /-- The keys that are new were added. -/
  adds : c'.adds = c.adds + (keys' - keys).card
  /-- The keys that are gone were removed. -/
  removes : c'.removes = c.removes + (keys - keys').card
  /-- The cache was not reset. -/
  resets : c'.resets = c.resets
  /-- No more tests were answered *absent* than were made. -/
  negatives : c'.negatives + c.tests ≤ c.negatives + c'.tests

/-- A ledger **accounts** for a number of keys, and for the keys that were held at some flushes. -/
structure Accounts (c : Cache) (keys : Nat) (flushed : List Nat) : Prop where
  /-- What was added and not removed is held, or was held at a flush. -/
  keys : c.adds = c.removes + (keys + flushed.sum)
  /-- Each flush was a reset. -/
  resets : c.resets = flushed.length
  /-- No more tests were answered *absent* than were made. -/
  negatives : c.negatives ≤ c.tests

namespace Follows

variable {keys keys' : Multiset Key} {c c' c'' : Cache}

/-- Where nothing is entered beside tests, the ledger follows keys that stay. -/
theorem of_same (keys : Multiset Key) (hadds : c'.adds = c.adds) (hremoves : c'.removes = c.removes)
    (hresets : c'.resets = c.resets)
    (hnegatives : c'.negatives + c.tests ≤ c.negatives + c'.tests) : Follows keys keys c c' := by
  constructor
  · rw [hadds, tsub_self, Multiset.card_zero, add_zero]
  · rw [hremoves, tsub_self, Multiset.card_zero, add_zero]
  · exact hresets
  · exact hnegatives

theorem refl (keys : Multiset Key) (c : Cache) : Follows keys keys c c :=
  .of_same keys rfl rfl rfl le_rfl

/-- A test is entered as a test only. -/
theorem noteTest (keys : Multiset Key) (c : Cache) (key : Key) :
    Follows keys keys c (c.noteTest key) := by
  refine .of_same keys rfl rfl rfl ?_
  simp only [Cache.noteTest]
  split <;> omega

/-- A cache may be tested before it follows its bucket. -/
theorem trans (h : Follows keys keys c c') (h' : Follows keys keys' c' c'') :
    Follows keys keys' c c'' := by
  obtain ⟨hadds, hremoves, hresets, hnegatives⟩ := h
  obtain ⟨hadds', hremoves', hresets', hnegatives'⟩ := h'
  simp only [tsub_self, Multiset.card_zero, add_zero] at hadds hremoves
  constructor <;> omega

/-- Two steps away from each other, the keys differ by what is new and what is gone. -/
theorem card_add_card_sub (keys keys' : Multiset Key) :
    keys.card + (keys' - keys).card = keys'.card + (keys - keys').card := by
  have hunion : keys' - keys + keys = keys - keys' + keys' := by
    rw [← Multiset.union_def, ← Multiset.union_def, Multiset.union_comm]
  have hcard := congrArg Multiset.card hunion
  rw [Multiset.card_add, Multiset.card_add] at hcard
  omega

/-- **Notes of one kind have the ledger follow the keys**: if insertions and removals lead from some
keys to others, and there are none of the one or none of the other, then the insertions are the keys
that are new and the removals those that are gone. -/
theorem of_notes {inserted removed : Multiset Key} (hkeys : keys + inserted = keys' + removed)
    (hnotes : removed = 0 ∨ inserted = 0) (hadds : c'.adds = c.adds + inserted.card)
    (hremoves : c'.removes = c.removes + removed.card) (hresets : c'.resets = c.resets)
    (hnegatives : c'.negatives + c.tests ≤ c.negatives + c'.tests) : Follows keys keys' c c' := by
  obtain ⟨hnew, hgone⟩ : keys' - keys = inserted ∧ keys - keys' = removed := by
    rcases hnotes with rfl | rfl
    · rw [add_zero] at hkeys
      rw [← hkeys]
      exact ⟨add_tsub_cancel_left .., tsub_eq_zero_of_le (Multiset.le_add_right ..)⟩
    · rw [add_zero] at hkeys
      rw [hkeys]
      exact ⟨tsub_eq_zero_of_le (Multiset.le_add_right ..), add_tsub_cancel_left ..⟩
  exact ⟨hnew ▸ hadds, hgone ▸ hremoves, hresets, hnegatives⟩

end Follows

namespace Accounts

variable {c c' : Cache} {flushed : List Nat}

/-- A ledger that follows the keys goes on to account for them. -/
theorem follow {keys keys' : Multiset Key} (h : c.Accounts keys.card flushed)
    (hfollows : Follows keys keys' c c') : c'.Accounts keys'.card flushed := by
  obtain ⟨hkeys, hresets, hnegatives⟩ := h
  obtain ⟨hadds, hremoves, hresets', hnegatives'⟩ := hfollows
  have hcard := Follows.card_add_card_sub keys keys'
  constructor <;> omega

/-- A reset takes all keys away at once, and they stay in the ledger. -/
theorem reset {keys : Nat} (h : c.Accounts keys flushed) :
    c.reset.Accounts 0 (flushed ++ [keys]) := by
  obtain ⟨hkeys, hresets, hnegatives⟩ := h
  constructor
  · simp only [Cache.reset, List.sum_append, List.sum_singleton]
    omega
  · simp only [Cache.reset, List.length_append, List.length_singleton, hresets]
  · exact hnegatives

/-- The ledger of a cache that was filled just now accounts for the keys that it was filled with. -/
theorem loadAll (keys : List Key) (shape : Filter.Shape) :
    (Backend.loadAll keys (.empty shape)).Accounts keys.length [] := by
  have hstats := Backend.stats_loadAll keys (.empty shape)
  obtain ⟨htests, hnegatives, hadds, hremoves, hresets, -⟩ := Stats.mk.inj hstats
  constructor
  · rw [hadds, hremoves]
    simp [Cache.empty, Cache.stats]
  · exact hresets
  · rw [htests, hnegatives]
    exact le_rfl

end Accounts

end Cache

/-! ### What bodies enter -/

namespace Txn

variable {t t' t'' : Txn} {key : Key}

/-- A transaction has **entered** its insertions: each one that was noted is one addition, and beside
tests nothing else was entered. Removals and resets wait for the commit. -/
structure Entered (t t' : Txn) : Prop where
  /-- Each insertion that was noted is an addition. -/
  adds : t'.cache.adds + t.pending.inserted.length =
    t.cache.adds + t'.pending.inserted.length
  /-- No removal was entered. -/
  removes : t'.cache.removes = t.cache.removes
  /-- No reset was entered. -/
  resets : t'.cache.resets = t.cache.resets
  /-- No more tests were answered *absent* than were made. -/
  negatives : t'.cache.negatives + t.cache.tests ≤ t.cache.negatives + t'.cache.tests

namespace Entered

/-- Nothing is entered where cache and notes are left alone. -/
theorem of_eq (hcache : t'.cache = t.cache) (hinserted : t'.pending.inserted = t.pending.inserted) :
    Entered t t' := by
  constructor <;> simp [hcache, hinserted]

theorem refl (t : Txn) : Entered t t :=
  .of_eq rfl rfl

theorem trans (h : Entered t t') (h' : Entered t' t'') : Entered t t'' := by
  obtain ⟨hadds, hremoves, hresets, hnegatives⟩ := h
  obtain ⟨hadds', hremoves', hresets', hnegatives'⟩ := h'
  constructor <;> omega

/-- Where the cache was tested and the notes are left alone, a test is entered. -/
theorem of_noteTest (hcache : t'.cache = t.cache.noteTest key)
    (hinserted : t'.pending.inserted = t.pending.inserted) : Entered t t' := by
  constructor
  · simp only [hcache, hinserted, Cache.noteTest]
  · simp only [hcache, Cache.noteTest]
  · simp only [hcache, Cache.noteTest]
  · simp only [hcache, Cache.noteTest]
    split <;> omega

/-- Putting a table in place enters nothing. -/
theorem withTable (t : Txn) (table : Table) : Entered t (t.withTable table) :=
  .of_eq rfl rfl

/-- Consulting the cache enters a test. -/
theorem consulted (t : Txn) (key : Key) (doubtful : Bool) :
    Entered t (t.consulted key doubtful) :=
  .of_noteTest (consulted_cache ..) (by rw [consulted_pending])

/-- Settling a condition enters a test at most. -/
theorem settled (t : Txn) (mode : WriteMode) (key : Key) : Entered t (t.settled mode key) := by
  cases mode with
  | always => exact .refl t
  | ifAbsent => exact .consulted t key true
  | ifPresent => exact .consulted t key false

/-- A key that is noted as inserted is one addition. -/
theorem inserted (t : Txn) (key : Key) : Entered t (t.inserted key) := by
  constructor
  · simp only [Txn.inserted, Cache.add, Pending.noteInsert, List.length_append,
      List.length_singleton]
    omega
  · rfl
  · rfl
  · exact le_rfl

/-- Making a written key known enters a test, or an addition, or both. -/
theorem registered (t : Txn) (existed : Bool) (key : Key) :
    Entered t (t.registered existed key) := by
  have htested : Entered t (t.tested key) := .of_noteTest rfl rfl
  simp only [Txn.registered]
  split
  · split
    · exact htested
    · exact htested.trans (.inserted _ key)
  · exact .inserted t key

end Entered

/-- Making a written key known notes no removal. -/
@[simp] theorem registered_removed (t : Txn) (existed : Bool) (key : Key) :
    (t.registered existed key).pending.removed = t.pending.removed := by
  simp only [registered]
  split <;> [split; skip] <;> rfl

/-- A body **keeps the ledger** if it enters its insertions, and notes insertions or removals but not
both. -/
def KeepsLedger {α : Type} (body : TxnM α) : Prop :=
  ∀ t, Entered t (ending body t) ∧
    ((ending body t).pending.removed = t.pending.removed ∨
      (ending body t).pending.inserted = t.pending.inserted)

/-- Writes keep the ledger: they note no removal. -/
theorem keepsLedger_put (mode : WriteMode) (key : Key) (value : Value) :
    KeepsLedger (put mode key value) := by
  intro t
  cases h : t.store.bucketD t.bucket with
  | error fault =>
      rw [ending_of_error (run_put_of_fault mode key value h)]
      exact ⟨.refl t, .inl rfl⟩
  | ok table =>
      have hs := (Entered.withTable t table).trans (.settled _ mode key)
      cases hm : mode.admits (table.contains key) with
      | true =>
          rw [ending_of_ok (run_put_of_admits mode key value h hm)]
          exact ⟨(hs.trans (.withTable _ _)).trans (.registered _ _ _), .inl (by simp)⟩
      | false =>
          rw [ending_of_error (run_put_of_not_admits mode key value h hm)]
          split
          · exact ⟨hs.trans (.withTable _ _), .inl (by simp)⟩
          · exact ⟨hs, .inl (by simp)⟩

/-- Deletions keep the ledger: they note no insertion, and enter nothing before the commit. -/
theorem keepsLedger_delete (key : Key) : KeepsLedger (delete key) := by
  intro t
  cases h : t.store.bucketD t.bucket with
  | error fault =>
      rw [ending_of_error (run_delete_of_fault key h)]
      exact ⟨.refl t, .inr rfl⟩
  | ok table =>
      rw [ending_of_ok (run_delete key h)]
      split
      · exact ⟨.of_eq rfl rfl, .inr rfl⟩
      · exact ⟨.of_eq rfl rfl, .inr rfl⟩

/-- Changes of tallies keep the ledger: they note no removal. -/
theorem keepsLedger_adjust (change : Adjustment) (create : Bool) (key : Key) :
    KeepsLedger (adjust change create key) := by
  intro t
  cases h : t.store.bucketD t.bucket with
  | error fault =>
      rw [ending_of_error (run_adjust_of_fault change create key h)]
      exact ⟨.refl t, .inl rfl⟩
  | ok table =>
      have hs := (Entered.withTable t table).trans (.consulted _ key true)
      have hrun := run_adjust change create key h
      cases ho : change.outcome create t.bucket key (t.seen table key) with
      | error e =>
          simp only [ho] at hrun
          rw [ending_of_error hrun]
          exact ⟨hs, .inl (by simp)⟩
      | ok n =>
          simp only [ho] at hrun
          rw [ending_of_ok hrun]
          exact ⟨(hs.trans (.withTable _ _)).trans (.registered _ _ _), .inl (by simp)⟩

end Txn

/-! ### Requests -/

namespace Backend

variable {b b' : Backend} {name : String} {c : Cache}

/-- The cache of the active bucket after a key was looked up. -/
theorem Sound.cache_looked (hb : b.Sound) (key : Key) :
    (b.looked key).cache = b.cache.noteTest key := by
  rw [cache, looked_registry, looked_active, cacheOf_set hb.find?_active]

/-- The cache of the active bucket after a commit that is no flush: the removals that were noted are
entered. -/
theorem Sound.cache_commit (hb : b.Sound) {t : Txn} (hreset : t.pending.reset = false) :
    (b.commit t).cache = t.pending.removed.foldl Cache.remove t.cache := by
  refine (cacheOf_set hb.find?_active _).trans ?_
  simp only [Pending.commit, hreset, Bool.false_eq_true, if_false]

/-- The cache of the active bucket after an abort with nothing noted. -/
theorem Sound.cache_abort (hb : b.Sound) {t : Txn} (hpending : t.pending = {}) :
    (b.abort t).cache = t.cache := by
  refine (cacheOf_set hb.find?_active _).trans ?_
  rw [hpending]
  rfl

/-- **An update has the ledger of the active cache follow the keys of the bucket**, if its body keeps
the balance and the ledger. When it fails there is nothing to follow. -/
theorem Sound.follows_update (hb : b.Sound) {α : Type} {body : TxnM α}
    (hbalance : Txn.KeepsBalance body) (hledger : Txn.KeepsLedger body)
    (hfails : Txn.FailsReading body) :
    Cache.Follows (b.store.keysOf b.active) ((b.update body).2.store.keysOf b.active) b.cache
      (b.update body).2.cache := by
  obtain ⟨hentered, hnotes⟩ := hledger b.transaction
  have hbalanced := hbalance.balanced hb.balanced_transaction
  have hframe := hbalance.frame b.transaction
  cases hrun : body.run b.transaction with
  | ok a t =>
      rw [Txn.ending_of_ok hrun] at hentered hnotes hframe
      rw [hrun] at hbalanced
      have hkeys := hbalanced.keys
      have hbucket : t.bucket = b.active := hframe.bucket
      rw [hbucket] at hkeys
      obtain ⟨hadds, hremoves, hresets, hnegatives⟩ := hentered
      rw [update_of_ok hrun, hb.cache_commit hbalanced.not_reset, Cache.foldl_remove]
      refine .of_notes hkeys ?_ ?_ ?_ hresets hnegatives
      · rcases hnotes with hremoved | hinserted
        · exact .inl (congrArg _ hremoved)
        · exact .inr (congrArg _ hinserted)
      · simpa [transaction] using hadds
      · simpa [transaction] using hremoves
  | error e t =>
      rw [Txn.ending_of_error hrun] at hentered
      have hpending : t.pending = {} := (hfails hrun).pending
      obtain ⟨hadds, hremoves, hresets, hnegatives⟩ := hentered
      rw [update_of_error hrun, hb.cache_abort hpending]
      refine .of_same _ ?_ hremoves hresets hnegatives
      simpa [hpending, transaction] using hadds

/-- A deletion has the ledger follow the keys, with a read before it or without. -/
theorem Sound.follows_delete (hb : b.Sound) (key : Key) (onlyIfExists : Bool) :
    Cache.Follows (b.store.keysOf b.active) ((b.delete key onlyIfExists).2.store.keysOf b.active)
      b.cache (b.delete key onlyIfExists).2.cache := by
  have hupdate : ∀ {b : Backend}, b.Sound → Cache.Follows (b.store.keysOf b.active)
      ((b.update (Txn.delete key)).2.store.keysOf b.active) b.cache
      (b.update (Txn.delete key)).2.cache := fun hb =>
    hb.follows_update (Txn.keepsBalance_delete key) (Txn.keepsLedger_delete key)
      (Txn.failsReading_delete key)
  cases onlyIfExists with
  | false => exact hupdate hb
  | true =>
      have htest := Cache.Follows.noteTest (b.store.keysOf b.active) b.cache key
      have hnext := hupdate (hb.looked key)
      rw [looked_store, looked_active, hb.cache_looked] at hnext
      rw [delete_ifExists_eq]
      rcases b.found key with e | _ | value
      · rw [looked_store, hb.cache_looked]
        exact htest
      · rw [looked_store, hb.cache_looked]
        exact htest
      · exact htest.trans hnext

/-- **A request of the active bucket has the ledger follow the keys**, whether it succeeds or fails, if
it is neither a switch nor a flush. -/
theorem Sound.follows_own (hb : b.Sound) {request : Request} (hswitch : request.isSwitch = false)
    (hflush : request ≠ .flush) :
    Cache.Follows (b.store.keysOf b.active) ((b.serve request).2.store.keysOf b.active) b.cache
      (b.serve request).2.cache := by
  cases request with
  | put mode key value =>
      exact hb.follows_update (Txn.keepsBalance_put mode key value)
        (Txn.keepsLedger_put mode key value) (Txn.failsReading_put mode key value)
  | get key =>
      simp only [Backend.serve, get_eq, Prod.map_snd, id, looked_store, hb.cache_looked]
      exact .noteTest _ _ key
  | delete key onlyIfExists => exact hb.follows_delete key onlyIfExists
  | adjust change create key =>
      exact hb.follows_update (Txn.keepsBalance_adjust change create key)
        (Txn.keepsLedger_adjust change create key) (Txn.failsReading_adjust change create key)
  | flush => exact absurd rfl hflush
  | switch new => cases hswitch
  | stats => exact .refl _ _

/-- A known bucket keeps its cache when another one, or itself, is made active. -/
theorem find?_switch_of_known (hc : b.registry.find? name = some c) (new : String) :
    (b.switch new).2.registry.find? name = some c := by
  obtain ⟨_, -, hs⟩ | ⟨_, _, -, -, hs⟩ | ⟨n, registry, -, hens, hs⟩ := b.switch_cases new
  · rw [hs, hc]
  · rw [hs, hc]
  · rw [hs]
    rcases Registry.ensure_eq_ok hens with ⟨-, rfl⟩ | ⟨c', hnew, -, rfl⟩
    · exact hc
    · have hne : n.text ≠ name := by
        rintro rfl
        simp [Registry.contains_eq_isSome_find?, hc] at hnew
      exact (Registry.find?_insert ..).trans ((if_neg hne).trans hc)

/-- A bucket that gets a cache when one is made active has it filled from its table. -/
theorem find?_switch_of_unknown (hfind : b.registry.find? name = none) {new : String}
    (hc : (b.switch new).2.registry.find? name = some c) :
    ∃ table, b.store.bucketD name = .ok table ∧
      c = loadAll table.keys (.empty b.registry.shape) := by
  obtain ⟨_, -, hs⟩ | ⟨_, _, -, -, hs⟩ | ⟨n, registry, -, hens, hs⟩ := b.switch_cases new
  · rw [hs, hfind] at hc
    cases hc
  · rw [hs, hfind] at hc
    cases hc
  · rw [hs] at hc
    rcases Registry.ensure_eq_ok hens with ⟨-, rfl⟩ | ⟨c', -, hfill, rfl⟩
    · rw [hfind] at hc
      cases hc
    · rw [Registry.find?_insert] at hc
      split at hc
      · rename_i hname
        obtain ⟨table, htable⟩ := bucketD_of_fill hfill
        rw [fill_of_bucketD htable] at hfill
        obtain rfl := Option.some.inj hc
        exact ⟨table, hname ▸ htable, (Except.ok.inj hfill).symm⟩
      · rw [hfind] at hc
        cases hc

/-- Whether a request **flushes** a bucket. -/
def Flushes (b : Backend) (name : String) (request : Request) : Prop :=
  request = .flush ∧ b.active = name

instance (b : Backend) (name : String) (request : Request) :
    Decidable (b.Flushes name request) :=
  inferInstanceAs (Decidable (_ ∧ _))

/-- **Over every request but a flush the ledger follows the keys**, for each bucket that has a cache,
active or not, and whether the request succeeds or fails. -/
theorem Sound.follows_serve (hb : b.Sound) (hc : b.registry.find? name = some c)
    {request : Request} (hflush : ¬b.Flushes name request) :
    ∃ c', (b.serve request).2.registry.find? name = some c' ∧
      Cache.Follows (b.store.keysOf name) ((b.serve request).2.store.keysOf name) c c' := by
  rcases request.switch_or with hswitch | ⟨new, rfl⟩
  · by_cases hactive : b.active = name
    · subst hactive
      have hactive' : (b.serve request).2.active = b.active := steady_active.serve hswitch
      have hcache : b.cache = c := Registry.cacheOf_of_find? hc
      have hnext := (hb.serve request).find?_active
      rw [hactive'] at hnext
      exact ⟨_, hnext, hcache ▸ hb.follows_own hswitch fun heq => hflush ⟨heq, rfl⟩⟩
    · obtain ⟨htable, hfind⟩ := serve_elsewhere (b := b) hswitch (Ne.symm hactive)
      rw [hfind, Store.keysOf_congr htable]
      exact ⟨c, hc, .refl _ _⟩
  · have hstore : (b.serve (.switch new)).2.store = b.store := switch_store b new
    rw [hstore]
    exact ⟨c, find?_switch_of_known hc new, .refl _ _⟩

/-! ### Runs -/

/-- The numbers of keys that a bucket held at each of its **flushes** in a run. -/
def flushed (b : Backend) (name : String) : List Request → List Nat
  | [] => []
  | request :: rest =>
    (if b.Flushes name request then [(b.store.keysOf name).length] else []) ++
      flushed (b.serve request).2 name rest

/-- A backend has the **ledger** of a bucket if the bucket's cache accounts for its keys and for some
flushes, and if there were no flushes as long as the bucket has no cache. -/
structure HasLedger (b : Backend) (name : String) (past : List Nat) : Prop where
  /-- The bucket's cache accounts for its keys and the flushes. -/
  accounts : ∀ {c}, b.registry.find? name = some c →
    c.Accounts (b.store.keysOf name).length past
  /-- A bucket without a cache was not flushed. -/
  unknown : b.registry.find? name = none → past = []

namespace HasLedger

variable {past : List Nat}

/-- A bucket that is made active for the first time has a ledger of the keys that its table holds. -/
theorem switch (h : b.HasLedger name past) (new : String) : (b.switch new).2.HasLedger name past := by
  have hstore : (b.switch new).2.store = b.store := switch_store b new
  cases hfind : b.registry.find? name with
  | some c =>
      have hnext := find?_switch_of_known hfind new
      refine ⟨fun hc => ?_, fun hnone => ?_⟩
      · obtain rfl := Option.some.inj (hnext.symm.trans hc)
        exact hstore ▸ h.accounts hfind
      · rw [hnext] at hnone
        cases hnone
  | none =>
      obtain rfl := h.unknown hfind
      refine ⟨fun hc => ?_, fun _ => rfl⟩
      obtain ⟨table, htable, rfl⟩ := find?_switch_of_unknown hfind hc
      rw [hstore, Store.keysOf_of_bucketD htable]
      exact .loadAll table.keys _

/-- A flush leaves a bucket without keys, and its ledger with one flush more. -/
theorem flush (hb : b.Sound) (h : b.HasLedger b.active past) :
    b.flush.2.HasLedger b.active (past ++ [(b.store.keysOf b.active).length]) := by
  have hfind := find?_commit_emptied hb.find?_active b.active
  have hkeys : b.transaction.emptied.store.keysOf b.active = [] :=
    Txn.keysOf_emptied b.transaction
  rw [if_pos rfl] at hfind
  rw [flush_eq]
  refine ⟨fun hc => ?_, fun hnone => ?_⟩
  · obtain rfl := Option.some.inj (hfind.symm.trans hc)
    have hreset := (h.accounts hb.find?_active).reset
    rw [← List.length_nil, ← hkeys] at hreset
    exact hreset
  · rw [hfind] at hnone
    cases hnone

/-- **One request** leaves the ledger with the flush that it is, if it is one of the bucket. -/
theorem serve (hb : b.Sound) (h : b.HasLedger name past) (request : Request) :
    (b.serve request).2.HasLedger name (past ++ b.flushed name [request]) := by
  by_cases hflush : b.Flushes name request
  · have hrow : b.flushed name [request] = [(b.store.keysOf name).length] := by
      simp only [flushed, if_pos hflush, List.append_nil]
    obtain ⟨rfl, rfl⟩ := hflush
    rw [hrow]
    exact flush hb h
  · have hrow : b.flushed name [request] = [] := by
      simp only [flushed, if_neg hflush, List.append_nil]
    rw [hrow, List.append_nil]
    rcases request.switch_or with hswitch | ⟨new, rfl⟩
    · have hknown : (b.serve request).2.registry.contains name = b.registry.contains name :=
        (steady_contains name).serve hswitch
      refine ⟨fun hc => ?_, fun hnone => ?_⟩
      · rw [Registry.contains_eq_isSome_find?, Registry.contains_eq_isSome_find?, hc,
          Option.isSome_some, eq_comm, Option.isSome_iff_exists] at hknown
        obtain ⟨c₀, hc₀⟩ := hknown
        obtain ⟨c', hc', hfollows⟩ := hb.follows_serve hc₀ hflush
        obtain rfl := Option.some.inj (hc'.symm.trans hc)
        exact (h.accounts hc₀).follow hfollows
      · rw [Registry.contains_eq_isSome_find?, Registry.contains_eq_isSome_find?, hnone,
          Option.isSome_none, eq_comm, Option.isSome_eq_false_iff, Option.isNone_iff_eq_none]
          at hknown
        exact h.unknown hknown
    · exact h.switch new

/-- **A row of requests** leaves the ledger with the flushes among them. -/
theorem after (hb : b.Sound) (h : b.HasLedger name past) (requests : List Request) :
    (b.after requests).HasLedger name (past ++ b.flushed name requests) := by
  -- What was flushed before is carried along, so the induction is for every such past.
  induction requests generalizing b past with
  | nil => simpa [flushed, Backend.after] using h
  | cons request rest ih =>
      have hcons : b.flushed name (request :: rest) =
          b.flushed name [request] ++ (b.serve request).2.flushed name rest := by
        simp only [flushed, List.append_nil]
      rw [hcons, ← List.append_assoc]
      exact ih (hb.serve request) (h.serve hb request)

end HasLedger

/-- A backend is opened with the ledger of every bucket. -/
theorem hasLedger_of_openWith {shape : Filter.Shape} {v : Volume} {path bucket : String}
    (h : (openWith shape v path bucket).1 = .ok b) (name : String) : b.HasLedger name [] := by
  obtain ⟨-, table, htable, hfind⟩ := registry_of_openWith h
  refine ⟨fun hc => ?_, fun _ => rfl⟩
  rw [hfind] at hc
  split at hc
  · rename_i hname
    cases hc
    rw [← hname, Store.keysOf_of_bucketD (Store.bucketD_of_bucket? htable)]
    exact .loadAll table.keys shape
  · cases hc

/-! ### Every reachable backend -/

/-- **The ledger of a cache.** Whatever was asked of a backend since it was opened, for every bucket
that has a cache the keys that were added to the cache and not removed from it are as many as the
bucket holds now, and held at its flushes since then, taken together. There was one reset for each of
these flushes, and no more tests were answered *absent* than were made. Every further request but a
flush of the bucket adds as many keys as are new in its table, and removes as many as are gone, and
does not reset; so a request that leaves the table with the same keys, be it a write of a stored key,
a deletion of a key that is not there, or a request that fails, enters neither. -/
theorem ledger_after_run {shape : Filter.Shape} {v : Volume} {path bucket : String}
    (h : (openWith shape v path bucket).1 = .ok b) (requests : List Request)
    (hc : (b.after requests).registry.find? name = some c) :
    (c.adds : Int) - c.removes =
        ((b.after requests).store.keysOf name).length + (b.flushed name requests).sum ∧
      c.resets = (b.flushed name requests).length ∧ c.negatives ≤ c.tests ∧
      ∀ request, ¬(b.after requests).Flushes name request →
        let b' := ((b.after requests).serve request).2
        let keys : Multiset Key := (b.after requests).store.keysOf name
        let keys' : Multiset Key := b'.store.keysOf name
        ∃ c', b'.registry.find? name = some c' ∧ c'.adds = c.adds + (keys' - keys).card ∧
          c'.removes = c.removes + (keys - keys').card ∧ c'.resets = c.resets := by
  have hsound := (sound_of_openWith h).1
  obtain ⟨hkeys, hresets, hnegatives⟩ :=
    ((hasLedger_of_openWith h name).after hsound requests).accounts hc
  rw [List.nil_append] at hkeys hresets
  refine ⟨by omega, hresets, hnegatives, fun request hflush => ?_⟩
  obtain ⟨c', hc', hfollows⟩ := (hsound.after requests).follows_serve hc hflush
  exact ⟨c', hc', hfollows.adds, hfollows.removes, hfollows.resets⟩

/-- The ledger of a bucket that was flushed with two keys and holds one: of the other requests some
fail, some meet keys that collide, and one writes the stored key once more. -/
theorem ledger_of_flushed_bucket :
    let requests : List Request := [.put .ifAbsent [7] [8], .put .ifAbsent [1] [3],
      .delete [8] true, .flush, .switch "c", .switch "b", .adjust (.up 1) true [2],
      .put .always [3] [], .delete [3] false]
    ∃ b c c', (openWith .byLength (.holding .single) "kv" "b").1 = .ok b ∧
      (b.after requests).registry.find? "b" = some c ∧ (c.adds : Int) - c.removes = 1 + 2 ∧
      c.resets = 1 ∧
      ((b.after requests).serve (.put .always [2] [5])).2.registry.find? "b" = some c' ∧
      c'.adds = c.adds ∧ c'.removes = c.removes := by
  intro requests
  have hrun : ((openWith .byLength (.holding .single) "kv" "b").1.toOption.bind fun b =>
      ((b.after requests).registry.find? "b").map fun _ =>
        ((b.after requests).store.keysOf "b",
          ((b.after requests).serve (.put .always [2] [5])).2.store.keysOf "b",
          b.flushed "b" requests)) = some ([[2]], [[2]], [2]) := by decide +kernel
  obtain ⟨b, hb, hfound⟩ := Option.bind_eq_some_iff.mp hrun
  obtain ⟨c, hc, hfacts⟩ := Option.map_eq_some_iff.mp hfound
  simp only [Prod.mk.injEq] at hfacts
  obtain ⟨hkeys, hkeys', hflushed⟩ := hfacts
  have hopen := StoreError.eq_ok_of_toOption hb
  obtain ⟨hledger, hresets, -, hnext⟩ := ledger_after_run hopen requests hc
  obtain ⟨c', hc', hadds, hremoves, -⟩ :=
    hnext (.put .always [2] [5]) fun hflush => by cases hflush.1
  simp only [hkeys, hkeys', hflushed, tsub_self, Multiset.card_zero, add_zero, List.sum_singleton,
    List.length_singleton] at hledger hresets hadds hremoves
  exact ⟨b, c, c', hopen, hc, hledger, hresets, hc', hadds, hremoves⟩

end Backend

end BucketStore
