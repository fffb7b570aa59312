import BucketStore.Proofs.Soundness

/-!
# The Order of an Update

A reader may look at the cache at any time while an update runs. What it must never be told is
*absent* of a key that is committed. So an update is looked at here moment by moment: after each
step of its body, between the commit and the changes of the cache that follow it, after each of
these changes, and after each insertion that is taken back when the body failed. A **moment** is
the committed store together with the active cache (`Backend.moments`), and commit and abort
themselves take no time.

The order is what makes it work. Insertions are in the cache before the commit, so all the way up
to the commit the cache counts the old keys and more; removals wait, so from the commit on it counts
the new keys and what is still to be removed.

## Main results

* `keepsBalance_runAll`: steps that write and erase keep the balance, in any number and order.
* `counts_states`: up to the commit, the cache counts the committed keys and the insertions.
* `counts_commitCaches`: from the commit on, the cache counts the new keys and what is left to remove.
* `mayContain_at_every_moment`: the cache admits every committed key at every moment.
-/

namespace BucketStore

namespace Txn

variable {held : Multiset Key} {t t' : Txn}

/-! ### Steps and programs -/

/-- A **step** of a transaction: one change of which keys there are, with one note at most. -/
inductive Step where
  /-- A key is written, and noted as inserted if it was not there. -/
  | write (key : Key) (value : Value)
  /-- A key is deleted, and noted as removed if it was there. -/
  | erase (key : Key)
  /-- The table is dropped and made anew, and the reset is noted. -/
  | empty
  deriving DecidableEq, Repr

namespace Step

/-- The body of a step. -/
def body : Step → TxnM Unit
  | .write key value => put .always key value
  | .erase key => do let _ ← delete key
  | .empty => flush

/-- Runs some steps, one after the other. -/
def runAll : List Step → TxnM Unit
  | [] => return
  | step :: rest => do
    step.body
    runAll rest

/-- The **states** that some steps go through: the one they start in, and one after each step up to
the first that fails. -/
def states (t : Txn) : List Step → List Txn
  | [] => [t]
  | step :: rest =>
    match step.body.run t with
    | .ok _ t' => t :: states t' rest
    | .error _ t' => [t, t']

end Step

/-- A **program** of a transaction: some steps, after which it succeeds or fails. -/
structure Program where
  /-- The steps, in order. -/
  steps : List Step
  /-- How the program ends when all steps succeeded. -/
  ending : Except StoreError Unit

/-- The body of a program. -/
def Program.body (p : Program) : TxnM Unit := do
  Step.runAll p.steps
  match p.ending with
  | .ok () => return
  | .error e => throw e

/-! ### The balance of a program -/

/-- A step other than the emptying keeps the balance. -/
theorem Step.keepsBalance_body {step : Step} (h : step ≠ .empty) : KeepsBalance step.body := by
  cases step with
  | write key value => exact keepsBalance_put .always key value
  | erase key => exact (keepsBalance_delete key).bind fun _ => .pure ()
  | empty => exact absurd rfl h

/-- Steps that write and erase keep the balance, in any number and order. -/
theorem Step.keepsBalance_runAll {steps : List Step} (h : .empty ∉ steps) :
    KeepsBalance (runAll steps) := by
  induction steps with
  | nil => exact .pure ()
  | cons step rest ih =>
      rw [List.mem_cons, not_or] at h
      exact (keepsBalance_body (Ne.symm h.1)).bind fun _ => ih h.2

/-- A program that writes and erases keeps the balance, in whichever way it ends. -/
theorem Program.keepsBalance_body {p : Program} (h : .empty ∉ p.steps) : KeepsBalance p.body := by
  refine (Step.keepsBalance_runAll h).bind fun _ => ?_
  cases p.ending with
  | ok => exact .pure ()
  | error e => exact .throw e

/-- The emptying alone succeeds, so that the ending decides. -/
theorem Program.run_body_of_empty {p : Program} (h : p.steps = [.empty]) (t : Txn) :
    p.body.run t =
      match p.ending with
      | .ok () => .ok () t.emptied
      | .error e => .error e t.emptied := by
  simp only [Program.body, h, Step.runAll, Step.body, EStateM.run_bind, run_flush, EStateM.run_pure]
  cases p.ending <;> rfl

/-- **Up to the commit** the cache counts the committed keys and the insertions, in every state that
the steps go through. -/
theorem Step.counts_states {steps : List Step} (h : .empty ∉ steps) (hb : t.Balanced held) :
    ∀ t' ∈ states t steps, t'.cache.filter.Counts (held + t'.pending.inserted) := by
  induction steps generalizing t with
  | nil =>
      intro t' ht'
      rw [states, List.mem_singleton] at ht'
      exact ht' ▸ hb.counts
  | cons step rest ih =>
      rw [List.mem_cons, not_or] at h
      have hend := (keepsBalance_body (Ne.symm h.1)).balanced hb
      intro t' ht'
      rw [states] at ht'
      cases hrun : step.body.run t with
      | ok a next =>
          rw [hrun] at hend
          simp only [hrun, List.mem_cons] at ht'
          rcases ht' with rfl | ht'
          · exact hb.counts
          · exact ih h.2 hend t' ht'
      | error e failed =>
          rw [hrun] at hend
          simp only [hrun, List.mem_cons, List.not_mem_nil, or_false] at ht'
          rcases ht' with rfl | rfl
          · exact hb.counts
          · exact hend

end Txn

/-! ### The caches of the two endings -/

namespace Pending

variable {held : Multiset Key} {c : Cache}

/-- The caches from the commit on: the one that the commit finds, one after each removal, and one
after the reset. -/
def commitCaches (p : Pending) (c : Cache) : List Cache :=
  p.removed.scanl Cache.remove c ++
    if p.reset then [(p.removed.foldl Cache.remove c).reset] else []

/-- The caches from an abort on: the one that the abort finds, and one after each retraction. -/
def retractCaches (p : Pending) (c : Cache) : List Cache :=
  p.inserted.scanl Cache.remove c

/-- The last cache after a commit is the one that the commit leaves. -/
theorem getLast?_commitCaches (p : Pending) (c : Cache) :
    (p.commitCaches c).getLast? = some (p.commit c) := by
  simp only [commitCaches, commit]
  by_cases h : p.reset = true
  · simp [h]
  · simp [h, List.getLast?_scanl]

/-- The last cache after an abort is the one that the retraction leaves. -/
theorem getLast?_retractCaches (p : Pending) (c : Cache) :
    (p.retractCaches c).getLast? = some (p.retract c) :=
  List.getLast?_scanl

end Pending

/-- **From the commit on** the cache counts the new keys and what is left to remove. -/
theorem Txn.Balanced.counts_commitCaches {held : Multiset Key} {t : Txn} (h : t.Balanced held) :
    ∀ c ∈ t.pending.commitCaches t.cache,
      ∃ left : Multiset Key, c.filter.Counts (t.store.keysOf t.bucket + left) := by
  have hcounts := h.counts
  rw [h.keys] at hcounts
  intro c hc
  simp only [Pending.commitCaches, h.not_reset, Bool.false_eq_true, if_false,
    List.append_nil] at hc
  exact Pending.counts_scanl_remove hcounts c hc

/-! ### Moments of an update -/

/-- A **moment** of an update, as others see it. -/
structure Moment where
  /-- The committed store. -/
  store : Store
  /-- The cache of the active bucket. -/
  cache : Cache

namespace Backend

open Txn (Step Program)

variable {b : Backend} {c : Cache} {p : Program}

/-- The **moments** of an update: those of the steps and those of its ending. The store changes where
the first list meets the second, if the body succeeds. -/
def moments (b : Backend) (p : Program) : List Moment :=
  (Step.states b.transaction p.steps).map (fun t => ⟨b.store, t.cache⟩) ++
    match p.body.run b.transaction with
    | .ok _ t => (t.pending.commitCaches t.cache).map fun c => ⟨t.store, c⟩
    | .error _ t => (t.pending.retractCaches t.cache).map fun c => ⟨b.store, c⟩

/-- A backend's moment when nothing is going on. -/
def atRest (b : Backend) : Moment :=
  ⟨b.store, b.cache⟩

/-- The cache of a bucket that is known can be replaced. -/
theorem cacheOf_set (h : b.registry.find? b.active = some c) (c' : Cache) :
    (b.registry.set b.active c').cacheOf b.active = c' :=
  Registry.cacheOf_of_find? (Registry.find?_set_self h c')

/-- The last moment of an update is where it leaves the backend. -/
theorem getLast?_moments (h : b.registry.find? b.active = some c) (p : Program) :
    (b.moments p).getLast? = some (b.update p.body).2.atRest := by
  have hset := cacheOf_set h
  cases hrun : p.body.run b.transaction with
  | ok a t =>
      have hrest : (b.commit t).atRest = ⟨t.store, t.pending.commit t.cache⟩ :=
        congrArg (Moment.mk t.store) (hset _)
      simp only [moments, hrun, List.getLast?_append, List.getLast?_map,
        Pending.getLast?_commitCaches, Option.map_some, Option.some_or, update_of_ok hrun, hrest]
  | error e t =>
      have hrest : (b.abort t).atRest = ⟨b.store, t.pending.retract t.cache⟩ :=
        congrArg (Moment.mk b.store) (hset _)
      simp only [moments, hrun, List.getLast?_append, List.getLast?_map,
        Pending.getLast?_retractCaches, Option.map_some, Option.some_or, update_of_error hrun, hrest]

/-- What has to be known of the steps and of either ending of an update, so that the cache admits
every committed key at every moment. -/
theorem mayContain_of_mem_moments
    (hsteps : ∀ t ∈ Step.states b.transaction p.steps,
      t.cache.filter.Counts (b.store.keysOf b.active + t.pending.inserted))
    (hok : ∀ {t}, p.body.run b.transaction = .ok () t → ∀ c ∈ t.pending.commitCaches t.cache,
      ∀ key ∈ t.store.keysOf b.active, c.mayContain key = true)
    (herror : ∀ {e t}, p.body.run b.transaction = .error e t →
      t.cache.filter.Counts (b.store.keysOf b.active + t.pending.inserted)) :
    ∀ m ∈ b.moments p, ∀ key ∈ m.store.keysOf b.active, m.cache.mayContain key = true := by
  have hcommitted : ∀ {c : Cache} {left : Multiset Key},
      c.filter.Counts (b.store.keysOf b.active + left) →
        ∀ key ∈ b.store.keysOf b.active, c.mayContain key = true := by
    intro c left hcounts key hkey
    exact hcounts.contains (Multiset.mem_add.mpr (.inl (Multiset.mem_coe.mpr hkey)))
  intro m hm
  rw [moments, List.mem_append] at hm
  rcases hm with hm | hm
  · obtain ⟨t, ht, rfl⟩ := List.mem_map.mp hm
    exact hcommitted (hsteps t ht)
  · cases hrun : p.body.run b.transaction with
    | ok a t =>
        simp only [hrun] at hm
        obtain ⟨c, hc, rfl⟩ := List.mem_map.mp hm
        exact hok hrun c hc
    | error e t =>
        simp only [hrun] at hm
        obtain ⟨c, hc, rfl⟩ := List.mem_map.mp hm
        obtain ⟨left, hleft⟩ := Pending.counts_scanl_remove (herror hrun) c hc
        exact hcommitted hleft

/-- The cache admits every committed key at every moment of an update that writes and erases. -/
theorem mayContain_of_steps (hcounts : b.cache.filter.Counts (b.store.keysOf b.active))
    (hp : .empty ∉ p.steps) :
    ∀ m ∈ b.moments p, ∀ key ∈ m.store.keysOf b.active, m.cache.mayContain key = true := by
  have hb := balanced_transaction hcounts
  have hend := (Program.keepsBalance_body hp).balanced hb
  have hframe := (Program.keepsBalance_body hp).frame b.transaction
  refine mayContain_of_mem_moments (Step.counts_states hp hb) ?_ ?_
  · intro t hrun c hc key hkey
    rw [hrun] at hend
    rw [Txn.ending_of_ok hrun] at hframe
    obtain ⟨left, hleft⟩ := Txn.Balanced.counts_commitCaches hend c hc
    have hbucket : t.bucket = b.active := hframe.bucket
    rw [hbucket] at hleft
    exact hleft.contains (Multiset.mem_add.mpr (.inl (Multiset.mem_coe.mpr hkey)))
  · intro e t hrun
    rw [hrun] at hend
    exact hend

/-- The cache admits every committed key at every moment of a flush. After the commit there are no
keys left, and a flush that fails has inserted none. -/
theorem mayContain_of_flush (hcounts : b.cache.filter.Counts (b.store.keysOf b.active))
    (hp : p.steps = [.empty]) :
    ∀ m ∈ b.moments p, ∀ key ∈ m.store.keysOf b.active, m.cache.mayContain key = true := by
  have hb := balanced_transaction hcounts
  have hsteps : ∀ t ∈ Step.states b.transaction p.steps,
      t.cache.filter.Counts ((b.store.keysOf b.active : Multiset Key) + t.pending.inserted) := by
    intro t ht
    simp only [hp, Step.states, Step.body, Txn.run_flush, List.mem_cons, List.not_mem_nil,
      or_false] at ht
    rcases ht with rfl | rfl <;> exact hb.counts
  refine mayContain_of_mem_moments hsteps ?_ ?_
  · intro t hrun c _ key hkey
    rw [Program.run_body_of_empty hp] at hrun
    split at hrun <;> cases hrun
    have hnone : b.transaction.emptied.store.keysOf b.active = [] := Txn.keysOf_emptied _
    simp [hnone] at hkey
  · intro e t hrun
    rw [Program.run_body_of_empty hp] at hrun
    split at hrun <;> cases hrun
    exact hb.counts

/-- **The cache never denies a committed key.** If the active cache counts the active bucket, then at
every moment of an update, be it a flush or any row of writes and deletions, and whether it succeeds
or fails, the cache admits every key that is committed at that moment. The last of these moments is
where the update leaves the backend. -/
theorem mayContain_at_every_moment (hknown : b.registry.find? b.active = some c)
    (hcounts : c.filter.Counts (b.store.keysOf b.active)) (p : Program)
    (hp : p.steps = [.empty] ∨ .empty ∉ p.steps) :
    (∀ m ∈ b.moments p, ∀ key ∈ m.store.keysOf b.active, m.cache.mayContain key = true) ∧
      (b.moments p).getLast? = some (b.update p.body).2.atRest := by
  have hcache : b.cache = c := Registry.cacheOf_of_find? hknown
  rw [← hcache] at hcounts
  refine ⟨?_, getLast?_moments hknown p⟩
  rcases hp with hp | hp
  · exact mayContain_of_flush hcounts hp
  · exact mayContain_of_steps hcounts hp

/-- The moments of an update in which a key goes, comes back and collides with another one. -/
theorem mayContain_while_rewritten :
    ∃ b, (openWith .byLength (.holding .single) "kv" "b").1 = .ok b ∧
      let p : Program := ⟨[.erase [1], .write [1] [3], .write [4] [5], .erase [1]], .ok ()⟩
      (∀ m ∈ b.moments p, ∀ key ∈ m.store.keysOf b.active, m.cache.mayContain key = true) ∧
        (b.moments p).getLast? = some (b.update p.body).2.atRest := by
  obtain ⟨b, hopen⟩ := openWith_single
  have hsound := (sound_of_openWith hopen).1
  exact ⟨b, hopen, mayContain_at_every_moment hsound.find?_active hsound.counts_cache _
    (.inr (by decide))⟩

end Backend

end BucketStore
