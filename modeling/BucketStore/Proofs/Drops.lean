import BucketStore.Proofs.Ordering

/-!
# Drops Among Other Steps

A transaction may drop its table at any point, and write and delete before and after. The table is
then what the steps make of it one after the other (`Step.onTable`), but the notes keep no order: a
drop leaves a single mark, and the commit applies it last of all. So the reset takes away with the
old keys whatever was inserted after the drop, and the cache denies keys that were just committed.

No harm comes of a drop that leaves nothing behind. A transaction that drops its table and ends with
an empty one is committed with a cache that counts the new table, and so is every transaction
without a drop; there is no third kind.

## Main results

* `Step.run_body`, `Step.run_runAll`: steps succeed, and leave the table that they spell out.
* `Pending.mayContain_commit_of_reset`: after a commit with a reset noted every key is denied.
* `admits_committed_iff`: exactly when the cache admits what was committed.
* `not_admits_committed`: a transaction in which the cache denies what was committed.
-/

namespace BucketStore

/-! ### What a reset leaves -/

namespace Filter

/-- Every key has a position. -/
theorem Shape.positions_ne_nil (shape : Shape) (key : Key) : shape.positions key ≠ [] := by
  have hpos := shape.hashes_pos
  simp only [positions, ne_eq, List.map_eq_nil_iff, List.range_eq_nil]
  omega

/-- A cleared filter denies every key. -/
theorem contains_clear (f : Filter) (key : Key) : f.clear.contains key = false := by
  obtain ⟨slot, hslot⟩ := List.exists_mem_of_ne_nil _ (f.clear.shape.positions_ne_nil key)
  rw [Bool.eq_false_iff]
  intro hcontains
  exact (f.clear.contains_iff key).mp hcontains slot hslot (counter_clear f slot)

end Filter

/-- **After a commit with a reset** every key is denied, whatever else was noted. -/
theorem Pending.mayContain_commit_of_reset {p : Pending} (h : p.reset = true) (c : Cache)
    (key : Key) : (p.commit c).mayContain key = false := by
  simp only [commit, if_pos h]
  exact Filter.contains_clear _ key

namespace Txn

/-! ### The table that steps spell out -/

/-- What a step makes of a table. -/
def Step.onTable (table : Table) : Step → Table
  | .write key value => table.insert key value
  | .erase key => table.erase key
  | .empty => ∅

variable {t : Txn} {table : Table}

/-- Making a key known to the cache notes no reset. -/
@[simp] theorem registered_reset (t : Txn) (existed : Bool) (key : Key) :
    (t.registered existed key).pending.reset = t.pending.reset := by
  simp only [registered]
  split <;> [split; skip] <;> rfl

/-- **A step** succeeds where the table can be read. It leaves the table that it spells out, and a
reset is noted afterwards if one was noted before or the step is a drop. -/
theorem Step.run_body (ht : t.store.bucketD t.bucket = .ok table) (step : Step) :
    ∃ t', step.body.run t = .ok () t' ∧ t'.bucket = t.bucket ∧
      t'.store.bucketD t.bucket = .ok (step.onTable table) ∧
      (t'.pending.reset = true ↔ t.pending.reset = true ∨ step = .empty) := by
  cases step with
  | write key value =>
      have hrun := run_put_of_admits .always key value ht rfl
      refine ⟨_, hrun, by simp, bucketD_registered_withTable _ key _ (by simp) _, ?_⟩
      simp
  | erase key =>
      have hrun : (Step.erase key).body.run t = .ok () (if table.contains key then
          ((t.withTable table).withTable (table.erase key)).erased key
          else (t.withTable table).withTable (table.erase key)) := by
        simp only [Step.body, EStateM.run_bind, run_delete key ht, EStateM.run_pure]
      refine ⟨_, hrun, ?_, ?_, ?_⟩
      · split <;> rfl
      · split <;> exact Store.bucketD_setBucket_self _
      · split <;> simp [erased, Pending.noteRemove]
  | empty =>
      refine ⟨_, run_flush t, rfl, Store.bucketD_setBucket_self _, ?_⟩
      simp [emptied, Pending.noteReset]

/-- **A row of steps** succeeds where the table can be read. It leaves the table that the steps
spell out, and a reset is noted afterwards if one was noted before or a drop is among the steps. -/
theorem Step.run_runAll (ht : t.store.bucketD t.bucket = .ok table) (steps : List Step) :
    ∃ t', (runAll steps).run t = .ok () t' ∧ t'.bucket = t.bucket ∧
      t'.store.bucketD t.bucket = .ok (steps.foldl onTable table) ∧
      (t'.pending.reset = true ↔ t.pending.reset = true ∨ .empty ∈ steps) := by
  induction steps generalizing t table with
  | nil => exact ⟨t, rfl, rfl, ht, by simp⟩
  | cons step rest ih =>
      obtain ⟨next, hstep, hbucket, htable, hreset⟩ := run_body ht step
      rw [← hbucket] at htable
      obtain ⟨t', hrest, hbucket', htable', hreset'⟩ := ih htable
      refine ⟨t', ?_, hbucket'.trans hbucket, hbucket ▸ htable', ?_⟩
      · simp only [runAll, EStateM.run_bind, hstep, hrest]
      · rw [hreset', hreset, List.mem_cons, or_assoc, eq_comm (a := step)]

end Txn

/-! ### Commits -/

namespace Backend

open Txn (Step)

variable {b : Backend} {c : Cache} {table : Table}

/-- A row of steps is committed where the active table can be read. -/
theorem update_runAll (ht : b.store.bucketD b.active = .ok table) (steps : List Step) :
    ∃ t, (Step.runAll steps).run b.transaction = .ok () t ∧
      b.update (Step.runAll steps) = (.ok (), b.commit t) ∧
      t.store.bucketD b.active = .ok (steps.foldl Step.onTable table) ∧
      (t.pending.reset = true ↔ .empty ∈ steps) := by
  obtain ⟨t, hrun, -, htable, hreset⟩ := Step.run_runAll (t := b.transaction) ht steps
  refine ⟨t, hrun, update_of_ok hrun, htable, ?_⟩
  rw [hreset]
  simp [transaction]

/-- Without a drop the notes balance, so that the commit leaves a cache that counts the new keys. -/
theorem counts_commit_of_not_mem (hcounts : b.cache.filter.Counts (b.store.keysOf b.active))
    {steps : List Step} (hdrop : .empty ∉ steps) {t : Txn}
    (hrun : (Step.runAll steps).run b.transaction = .ok () t) :
    (t.pending.commit t.cache).filter.Counts (t.store.keysOf b.active) := by
  have hkeeps := Step.keepsBalance_runAll hdrop
  have hend := hkeeps.balanced (balanced_transaction hcounts)
  have hframe := hkeeps.frame b.transaction
  rw [hrun] at hend
  rw [Txn.ending_of_ok hrun] at hframe
  have hbucket : t.bucket = b.active := hframe.bucket
  exact hbucket ▸ Txn.Balanced.commit hend

/-- **What a commit leaves of the cache.** If the active cache counts the active bucket, a row of
writes, deletions and drops is committed with the table that it spells out. Without a drop, or if
the new table is empty, the cache counts the new table, and in no other case does it admit all that
was committed: a drop after which a key is left makes the cache deny that key. -/
theorem admits_committed_iff (hknown : b.registry.find? b.active = some c)
    (hcounts : c.filter.Counts (b.store.keysOf b.active))
    (ht : b.store.bucketD b.active = .ok table) (steps : List Step) :
    let new := steps.foldl Step.onTable table
    ∃ b', b.update (Step.runAll steps) = (.ok (), b') ∧
      b'.store.bucketD b.active = .ok new ∧
      (.empty ∉ steps ∨ new.keys = [] → b'.cache.filter.Counts new.keys) ∧
      ((∀ key, new.contains key = true → b'.cache.mayContain key = true) ↔
        .empty ∉ steps ∨ new.keys = []) := by
  intro new
  rw [← Registry.cacheOf_of_find? hknown] at hcounts
  obtain ⟨t, hrun, hupdate, htable, hreset⟩ := update_runAll ht steps
  have hcache : (b.commit t).cache = t.pending.commit t.cache := cacheOf_set hknown _
  have hgood : .empty ∉ steps ∨ new.keys = [] → (b.commit t).cache.filter.Counts new.keys := by
    intro hcond
    rw [hcache]
    by_cases hdrop : .empty ∈ steps
    · rw [hcond.resolve_left (not_not_intro hdrop)]
      simp only [Pending.commit, if_pos (hreset.mpr hdrop)]
      exact Filter.Counts.clear _
    · have hcommit := counts_commit_of_not_mem hcounts hdrop hrun
      rwa [Store.keysOf_of_bucketD htable] at hcommit
  refine ⟨b.commit t, hupdate, htable, hgood, ?_, fun hcond key hkey => ?_⟩
  · intro hadmits
    by_contra hcond
    rw [not_or, not_not] at hcond
    obtain ⟨hdrop, hleft⟩ := hcond
    obtain ⟨key, hkey⟩ := List.exists_mem_of_ne_nil _ hleft
    have hdenied := Pending.mayContain_commit_of_reset (hreset.mpr hdrop) t.cache key
    rw [← hcache, hadmits key ((new.mem_keys_iff key).mp hkey)] at hdenied
    cases hdenied
  · exact (hgood hcond).contains ((new.mem_keys_iff key).mpr hkey)

/-- A transaction that writes, drops, writes and deletes again is committed with a cache that counts
the new table, since nothing is left in it. -/
theorem admits_committed_of_empty :
    ∃ b, (openWith .byLength (.holding .single) "kv" "b").1 = .ok b ∧
      ∃ b', b.update (Step.runAll [.write [5] [], .empty, .write [7] [8], .erase [7]]) =
          (.ok (), b') ∧
        b'.cache.filter.Counts 0 := by
  obtain ⟨b, hopen⟩ := openWith_single
  have hsound := (sound_of_openWith hopen).1
  obtain ⟨hactive, table, htable, -⟩ := registry_of_openWith hopen
  rw [← hactive] at htable
  obtain ⟨b', hupdate, -, hcounts, -⟩ := admits_committed_iff hsound.find?_active
    hsound.counts_cache (Store.bucketD_of_bucket? htable)
    [.write [5] [], .empty, .write [7] [8], .erase [7]]
  exact ⟨b, hopen, b', hupdate, hcounts (.inr rfl)⟩

/-- **The order of the notes is lost.** A table is dropped and a key written into the new one; the
commit succeeds, the key is stored, and the cache denies it. So a cache that counts its bucket does
not admit all that a transaction commits, if drops may stand among the steps. -/
theorem not_admits_committed :
    ¬ ∀ (b : Backend) (c : Cache) (steps : List Step),
      b.registry.find? b.active = some c → c.filter.Counts (b.store.keysOf b.active) →
      (b.update (Step.runAll steps)).1 = .ok () →
      ∀ key ∈ (b.update (Step.runAll steps)).2.store.keysOf b.active,
        (b.update (Step.runAll steps)).2.cache.mayContain key = true := by
  intro hall
  have hrun : ((openWith .byLength (.holding .single) "kv" "b").1.toOption.map fun b =>
      ((b.update (Step.runAll [.empty, .write [7] [8]])).1,
        (b.update (Step.runAll [.empty, .write [7] [8]])).2.store.keysOf b.active,
        (b.update (Step.runAll [.empty, .write [7] [8]])).2.cache.mayContain [7])) =
      some (.ok (), [[7]], false) := by decide +kernel
  obtain ⟨b, hb, hfound⟩ := Option.map_eq_some_iff.mp hrun
  simp only [Prod.mk.injEq] at hfound
  obtain ⟨hok, hkeys, hdenied⟩ := hfound
  have hsound := (sound_of_openWith (StoreError.eq_ok_of_toOption hb)).1
  have hadmits := hall b _ _ hsound.find?_active hsound.counts_cache hok [7]
    (by rw [hkeys]; exact List.mem_singleton_self _)
  rw [hdenied] at hadmits
  cases hadmits

end Backend

end BucketStore
