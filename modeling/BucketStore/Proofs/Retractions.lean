import BucketStore.Proofs.FailedRequests
import BucketStore.Proofs.Rebuilding

/-!
# Retractions

An update that fails takes back from the cache what its body has put in. Nothing is asked of the
cache here, and nothing of the body: the counters may be any, and the notes need not have to do with
the table. The body is any row of acts (`Txn.Act`), notes and other work in any order.

What is taken back is what was put in, as often as it was put in, and no more: notes of removals and
resets wait for a commit that does not come. So every counter goes up by the load of the inserted
keys and down by the same, unless it gets stuck on the way up; then it stays stuck, and is the only
thing that is left of the update.

## Main results

* `counter_takenBack`: what is left of keys that were added and removed again.
* `takenBack_eq_iff`: exactly when nothing is left.
* `Act.run_body`, `Act.run_runAll`: a body takes in the keys that it notes as inserted.
* `retracted_after_acts`: what an update that fails leaves of the store and the caches.
-/

namespace BucketStore

/-! ### Keys that are taken back -/

namespace Filter

variable (f : Filter) (keys : List Key)

/-- The filter after some keys were added and **taken back**. -/
def takenBack : Filter :=
  keys.foldl remove (keys.foldl add f)

/-- Taking keys back leaves the shape that the filter had. -/
theorem shape_takenBack : (f.takenBack keys).shape = f.shape := by
  rw [takenBack, shape_foldl_remove, shape_foldl_add]

/-- **A counter is restored** if it did not get stuck while the keys were added, and else it is stuck
for good. -/
theorem counter_takenBack (slot : Nat) :
    (f.takenBack keys).counter slot =
      if f.counter slot + f.shape.load keys slot < stuck then f.counter slot else stuck := by
  have hle := f.counter_le slot
  -- Removing stops at a stuck counter, adding at the greatest value, and these are the same.
  rw [takenBack, counter_foldl_remove, counter_foldl_add, shape_foldl_add]
  split <;> split <;> omega

/-- No counter is behind after keys were taken back. -/
theorem counter_le_takenBack (slot : Nat) : f.counter slot ≤ (f.takenBack keys).counter slot := by
  have hle := f.counter_le slot
  rw [counter_takenBack]
  split <;> omega

/-- **The filter is restored** exactly if no counter was driven to where it is stuck. -/
theorem takenBack_eq_iff :
    (∀ slot, (f.takenBack keys).counter slot = f.counter slot) ↔
      ∀ slot, f.counter slot = stuck ∨ f.counter slot + f.shape.load keys slot < stuck := by
  refine forall_congr' fun slot => ?_
  rw [counter_takenBack]
  split <;> omega

variable {f} {key : Key}

/-- A key that was admitted is admitted after other keys were taken back. -/
theorem contains_takenBack (h : f.contains key = true) : (f.takenBack keys).contains key = true :=
  contains_mono (shape_takenBack f keys).symm (fun slot _ => counter_le_takenBack f keys slot) h

end Filter

/-- Removing keys from a cache removes them from its filter, and counts them. -/
theorem Cache.foldl_remove (keys : List Key) (c : Cache) :
    keys.foldl Cache.remove c =
      { c with
        filter := keys.foldl Filter.remove c.filter
        removes := c.removes + keys.length } := by
  induction keys generalizing c with
  | nil => rfl
  | cons key rest ih =>
      rw [List.foldl_cons, ih]
      simp only [Cache.remove, List.foldl_cons, List.length_cons]
      congr 1
      omega

namespace Txn

/-! ### Acts -/

/-- One **act** of a body: a note, which need not be true of the table, or other work. -/
inductive Act where
  /-- A key is noted as inserted. -/
  | noteInsert (key : Key)
  /-- A key is noted as removed. -/
  | noteRemove (key : Key)
  /-- A reset is noted. -/
  | noteReset
  /-- The table is replaced. -/
  | setTable (table : Table)
  /-- The table is dropped. -/
  | dropTable
  /-- The cache is asked for a key. -/
  | test (key : Key)

namespace Act

/-- The body of an act. -/
def body : Act → TxnM Unit
  | .noteInsert key => Txn.noteInsert key
  | .noteRemove key => Txn.noteRemove key
  | .noteReset => Txn.noteReset
  | .setTable table => Txn.setTable table
  | .dropTable => Txn.dropTable
  | .test key => do let _ ← Txn.test key

/-- Runs some acts, one after the other. -/
def runAll : List Act → TxnM Unit
  | [] => return
  | act :: rest => do
    act.body
    runAll rest

/-- The key that an act notes as inserted. -/
def inserted? : Act → Option Key
  | .noteInsert key => some key
  | _ => none

/-- The keys that some acts note as inserted, with repetitions. -/
def inserts (acts : List Act) : List Key :=
  acts.filterMap inserted?

end Act

/-! ### What a cache has taken in -/

/-- A transaction has **taken in** some keys: they were noted as inserted and given to the cache, and
beside tests nothing else has happened to the cache. -/
structure TookIn (keys : List Key) (t t' : Txn) : Prop where
  /-- The keys were noted. -/
  inserted : t'.pending.inserted = t.pending.inserted ++ keys
  /-- The keys were added to the filter. -/
  filter : t'.cache.filter = keys.foldl Filter.add t.cache.filter
  /-- The keys were counted. -/
  adds : t'.cache.adds = t.cache.adds + keys.length
  /-- Nothing was removed. -/
  removes : t'.cache.removes = t.cache.removes
  /-- Nothing was reset. -/
  resets : t'.cache.resets = t.cache.resets

namespace TookIn

variable {keys keys' : List Key} {t t' t'' : Txn}

/-- Nothing was taken in if notes of insertions and cache are as they were, up to tests. -/
theorem nothing (hinserted : t'.pending.inserted = t.pending.inserted)
    (hcache : t.cache.OnlyTested t'.cache) : TookIn [] t t' where
  inserted := by rw [hinserted, List.append_nil]
  filter := hcache.filter
  adds := hcache.adds
  removes := hcache.removes
  resets := hcache.resets

theorem trans (h : TookIn keys t t') (h' : TookIn keys' t' t'') :
    TookIn (keys ++ keys') t t'' where
  inserted := by rw [h'.inserted, h.inserted, List.append_assoc]
  filter := by rw [h'.filter, h.filter, List.foldl_append]
  adds := by
    have hadds := h.adds
    have hadds' := h'.adds
    rw [List.length_append]
    omega
  removes := h'.removes.trans h.removes
  resets := h'.resets.trans h.resets

/-- A key that was taken in is admitted. -/
theorem mayContain (h : TookIn keys t t') {key : Key} (hkey : key ∈ keys) :
    t'.cache.mayContain key = true := by
  rw [Cache.mayContain, h.filter]
  exact Filter.contains_foldl_add hkey

/-- **What a retraction leaves** of the cache, if all that was noted was taken in. -/
theorem retract (h : TookIn keys t t') (hnew : t.pending.inserted = []) :
    let c := t'.pending.retract t'.cache
    c.filter = t.cache.filter.takenBack keys ∧ c.adds = t.cache.adds + keys.length ∧
      c.removes = t.cache.removes + keys.length ∧ c.resets = t.cache.resets := by
  intro c
  have hc : c = keys.foldl Cache.remove t'.cache := by
    simp only [c, Pending.retract, h.inserted, hnew, List.nil_append]
  rw [hc, Cache.foldl_remove]
  refine ⟨?_, h.adds, ?_, h.resets⟩
  · rw [Filter.takenBack, ← h.filter]
  · simp only [h.removes]

end TookIn

/-! ### Bodies of acts -/

namespace Act

/-- **An act** succeeds, and takes in the key that it notes as inserted, if it does. -/
theorem run_body (act : Act) (t : Txn) :
    ∃ t', act.body.run t = .ok () t' ∧ TookIn act.inserted?.toList t t' := by
  cases act with
  | noteInsert key => exact ⟨_, rfl, ⟨rfl, rfl, rfl, rfl, rfl⟩⟩
  | noteRemove key => exact ⟨_, rfl, .nothing rfl (.refl _)⟩
  | noteReset => exact ⟨_, rfl, .nothing rfl (.refl _)⟩
  | setTable table => exact ⟨_, rfl, .nothing rfl (.refl _)⟩
  | dropTable => exact ⟨_, rfl, .nothing rfl (.refl _)⟩
  | test key => exact ⟨_, rfl, .nothing rfl (.noteTest _ key)⟩

/-- **A row of acts** succeeds, and takes in the keys that it notes as inserted. -/
theorem run_runAll (acts : List Act) (t : Txn) :
    ∃ t', (runAll acts).run t = .ok () t' ∧ TookIn (inserts acts) t t' := by
  induction acts generalizing t with
  | nil => exact ⟨t, rfl, .nothing rfl (.refl _)⟩
  | cons act rest ih =>
      obtain ⟨next, hact, htook⟩ := run_body act t
      obtain ⟨t', hrest, htook'⟩ := ih next
      refine ⟨t', ?_, ?_⟩
      · simp only [runAll, EStateM.run_bind, hact, hrest]
      · have hinserts : inserts (act :: rest) = act.inserted?.toList ++ inserts rest := by
          simp only [inserts, List.filterMap_cons]
          cases act.inserted? <;> rfl
        rw [hinserts]
        exact htook.trans htook'

/-- A row of acts after which the body fails ends where the acts end. -/
theorem run_runAll_throw {acts : List Act} {t t' : Txn} (h : (runAll acts).run t = .ok () t')
    (e : StoreError) : (do runAll acts; throw e : TxnM Unit).run t = .error e t' := by
  simp only [EStateM.run_bind, h]
  rfl

end Act

end Txn

/-! ### Updates that fail -/

namespace Backend

open Txn (Act)

variable {b : Backend} {c : Cache}

/-- **An update that fails is taken back.** Let the cache of the active bucket be any, and let the body
of an update note insertions, removals and resets in any number and order, work on the table and ask
the cache in between, and fail in the end. Then all tables are as they were, and so is the shape of
the filter. A counter is as it was if the load of the inserted keys has not driven it to where it is
stuck, and else it is stuck. The insertions count as additions and as removals of the cache, and no
reset has taken place. So every key that was admitted is admitted still, and the filter is as it was
exactly if no counter was driven to where it is stuck. As long as the body runs, the cache admits
every key that was noted as inserted up to then. -/
theorem retracted_after_acts (hknown : b.registry.find? b.active = some c) (acts : List Act)
    (e : StoreError) :
    let hits := c.filter.shape.load (Act.inserts acts)
    ∃ b' c', b.update (do Act.runAll acts; throw e : TxnM Unit) = (.error e, b') ∧
      b'.store = b.store ∧ b'.registry.find? b.active = some c' ∧
      c'.filter.shape = c.filter.shape ∧
      (∀ slot, c'.filter.counter slot =
        if c.filter.counter slot + hits slot < Filter.stuck then c.filter.counter slot
        else Filter.stuck) ∧
      c'.adds = c.adds + (Act.inserts acts).length ∧
      c'.removes = c.removes + (Act.inserts acts).length ∧ c'.resets = c.resets ∧
      (∀ key, c.mayContain key = true → c'.mayContain key = true) ∧
      ((∀ slot, c'.filter.counter slot = c.filter.counter slot) ↔
        ∀ slot, c.filter.counter slot = Filter.stuck ∨
          c.filter.counter slot + hits slot < Filter.stuck) ∧
      ∀ earlier, earlier <+: acts → ∃ t, (Act.runAll earlier).run b.transaction = .ok () t ∧
        ∀ key ∈ Act.inserts earlier, t.cache.mayContain key = true := by
  intro hits
  obtain ⟨t, hrun, htook⟩ := Act.run_runAll acts b.transaction
  have hcache : b.transaction.cache = c := Registry.cacheOf_of_find? hknown
  obtain ⟨hfilter, hadds, hremoves, hresets⟩ := htook.retract rfl
  rw [hcache] at hfilter hadds hremoves hresets
  refine ⟨b.abort t, t.pending.retract t.cache, update_of_error (Act.run_runAll_throw hrun e), rfl,
    ?_, ?_, fun slot => ?_, hadds, hremoves, hresets, fun key hkey => ?_, ?_, fun earlier _ => ?_⟩
  · exact Registry.find?_set_self hknown _
  · rw [hfilter, Filter.shape_takenBack]
  · rw [hfilter, Filter.counter_takenBack]
  · rw [Cache.mayContain, hfilter]
    exact Filter.contains_takenBack _ hkey
  · rw [hfilter]
    exact Filter.takenBack_eq_iff ..
  · -- What an earlier part of the body takes in does not depend on what comes after it.
    obtain ⟨t', hrun', htook'⟩ := Act.run_runAll earlier b.transaction
    exact ⟨t', hrun', fun key hkey => htook'.mayContain hkey⟩

/-- An update that fails after 254 insertions of a key whose slots are at one. The counter of slot 1 is
driven to where it is stuck; that of slot 0, which only the last insertion hits, is restored. -/
theorem retracted_at_the_limit :
    ∃ b, (openWith .byLength (.holding .single) "kv" "b").1 = .ok b ∧
      let acts : List Act := List.replicate 254 (.noteInsert [7]) ++
        [.noteRemove [1], .dropTable, .noteReset, .noteInsert [2, 3]]
      ∃ b' c', b.update (do Act.runAll acts; throw (.keyExists "b" [1]) : TxnM Unit) =
          (.error (.keyExists "b" [1]), b') ∧
        b'.store = b.store ∧ b'.registry.find? b.active = some c' ∧
        c'.filter.counter 0 = 0 ∧ c'.filter.counter 1 = Filter.stuck ∧
        c'.removes = b.cache.removes + 255 ∧ c'.mayContain [1] = true := by
  let acts : List Act := List.replicate 254 (.noteInsert [7]) ++
    [.noteRemove [1], .dropTable, .noteReset, .noteInsert [2, 3]]
  have hrun : ((openWith .byLength (.holding .single) "kv" "b").1.toOption.map fun b =>
      (b.cache.filter.counter 0, b.cache.filter.counter 1,
        b.cache.filter.shape.load (Act.inserts acts) 0,
        b.cache.filter.shape.load (Act.inserts acts) 1, b.cache.mayContain [1])) =
      some (0, 1, 1, 254, true) := by decide +kernel
  obtain ⟨b, hb, hfacts⟩ := Option.map_eq_some_iff.mp hrun
  simp only [Prod.mk.injEq] at hfacts
  obtain ⟨hzero, hone, hload, hload', hadmitted⟩ := hfacts
  have hopen := StoreError.eq_ok_of_toOption hb
  obtain ⟨b', c', hupdate, hstore, hfind, -, hcounter, -, hremoves, -, hadmits, -⟩ :=
    retracted_after_acts (sound_of_openWith hopen).1.find?_active acts (.keyExists "b" [1])
  have hlength : (Act.inserts acts).length = 255 := by decide +kernel
  rw [hlength] at hremoves
  have hcounter₀ := hcounter 0
  have hcounter₁ := hcounter 1
  rw [hzero, hload] at hcounter₀
  rw [hone, hload'] at hcounter₁
  exact ⟨b, hopen, b', c', hupdate, hstore, hfind, hcounter₀, hcounter₁, hremoves,
    hadmits [1] hadmitted⟩

end Backend

end BucketStore
