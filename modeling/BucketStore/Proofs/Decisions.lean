import BucketStore.Proofs.Persistence

/-!
# Conditions Are Decided Once

Most requests hang on whether their key is stored. The cache is asked first, and one of its two answers
decides this **condition**; the other leaves it open, and the table is read. Which answer leaves it
open hangs on what is asked for: a write that needs its key is in doubt when the cache says *absent*,
and every other request when it says *present*.

A backend counts these decisions, those by a read apart from those by the cache alone
(`Backend.decisions`). What a request adds is known before it starts, from its condition and the cache's
answer (`Decisions.decided`). It does not matter how the request ends, how often the cache is asked
again on the way, or whether the answer was right. In a bucket whose table is foreign a transaction
ends before its condition comes up, so the tables have to be those of buckets.

## Main results

* `Txn.decides_put`, `Txn.decides_delete`, `Txn.decides_adjust`, `Txn.decides_flush`: what bodies count.
* `decisions_serve`: what one request counts.
* `decided_once_in_run`: what any row of requests counts, and each request after it.
-/

namespace BucketStore

/-! ### Conditions -/

/-- The **condition** of a request: a key that may be stored, and the answer of the cache that leaves it
open whether it is. -/
structure Condition where
  /-- The key that may be stored. -/
  key : Key
  /-- The answer that leaves the condition open. -/
  doubtful : Bool
  deriving DecidableEq, Repr

/-- The condition of a write. Whoever needs the key doubts that it is absent, and whoever needs it
away doubts that it is present. -/
def WriteMode.condition? : WriteMode → Key → Option Condition
  | .always, _ => none
  | .ifAbsent, key => some ⟨key, true⟩
  | .ifPresent, key => some ⟨key, false⟩

/-- The condition of a request, if it has one. -/
def Request.condition? : Request → Option Condition
  | .put mode key _ => mode.condition? key
  | .get key => some ⟨key, true⟩
  | .delete key onlyIfExists => if onlyIfExists then some ⟨key, true⟩ else none
  | .adjust _ _ key => some ⟨key, true⟩
  | .flush => none
  | .switch _ => none
  | .stats => none

/-- The counters of decisions. -/
structure Decisions where
  /-- The number of conditions that were decided by a read. -/
  reads : Nat
  /-- The number of conditions that were decided by the cache alone. -/
  shortCircuits : Nat
  deriving DecidableEq, Repr

namespace Decisions

/-- The counters after a condition was decided, given the cache that was asked. -/
def decided (d : Decisions) (c : Cache) : Option Condition → Decisions
  | none => d
  | some ⟨key, doubtful⟩ =>
    if c.mayContain key = doubtful then { d with reads := d.reads + 1 }
    else { d with shortCircuits := d.shortCircuits + 1 }

/-- The number of conditions that were decided. -/
def total (d : Decisions) : Nat :=
  d.reads + d.shortCircuits

/-- **A condition is decided once**, by a read or by the cache. -/
theorem total_decided (d : Decisions) (c : Cache) (condition : Option Condition) :
    (d.decided c condition).total = d.total + if condition.isSome then 1 else 0 := by
  cases condition with
  | none => rfl
  | some condition =>
      simp only [decided, Option.isSome_some, if_true]
      split
      · exact Nat.add_right_comm ..
      · rfl

end Decisions

/-! ### What bodies count -/

namespace Txn

variable {t : Txn} {α : Type}

/-- The counters of decisions in a transaction. -/
def decisions (t : Txn) : Decisions :=
  ⟨t.reads, t.shortCircuits⟩

/-- Consulting the cache decides a condition. -/
theorem decisions_consulted (t : Txn) (key : Key) (doubtful : Bool) :
    (t.consulted key doubtful).decisions = t.decisions.decided t.cache (some ⟨key, doubtful⟩) := by
  simp only [consulted, Decisions.decided]
  split <;> rfl

/-- Settling decides the condition of the mode. -/
theorem decisions_settled (t : Txn) (mode : WriteMode) (key : Key) :
    (t.settled mode key).decisions = t.decisions.decided t.cache (mode.condition? key) := by
  cases mode with
  | always => rfl
  | ifAbsent => exact decisions_consulted t key true
  | ifPresent => exact decisions_consulted t key false

/-- The cache is asked once more for a key that was overwritten, but no condition hangs on it. -/
theorem decisions_registered (t : Txn) (existed : Bool) (key : Key) :
    (t.registered existed key).decisions = t.decisions := by
  simp only [registered]
  split <;> [split; skip] <;> rfl

/-- A body **decides** a condition if it counts just that, however it ends, in a bucket whose table can
be read. -/
def Decides (condition : Option Condition) (body : TxnM α) : Prop :=
  ∀ {t table}, t.store.bucketD t.bucket = .ok table →
    (ending body t).decisions = t.decisions.decided t.cache condition

/-- Writes decide the condition of their mode, whether they are admitted or refused. -/
theorem decides_put (mode : WriteMode) (key : Key) (value : Value) :
    Decides (mode.condition? key) (put mode key value) := by
  intro t table h
  have hsettled := decisions_settled (t.withTable table) mode key
  cases hm : mode.admits (table.contains key) with
  | true =>
      rw [ending_of_ok (run_put_of_admits mode key value h hm), decisions_registered]
      exact hsettled
  | false =>
      rw [ending_of_error (run_put_of_not_admits mode key value h hm)]
      split
      · exact hsettled
      · exact hsettled

/-- Deletions decide nothing: the table says whether the key was stored, as it lets go of it. -/
theorem decides_delete (key : Key) : Decides none (delete key) := by
  intro t table h
  rw [ending_of_ok (run_delete key h)]
  split <;> rfl

/-- Changes of tallies decide whether there is a value to start from, also when they fail. -/
theorem decides_adjust (change : Adjustment) (create : Bool) (key : Key) :
    Decides (some ⟨key, true⟩) (adjust change create key) := by
  intro t table h
  have hconsulted := decisions_consulted (t.withTable table) key true
  have hrun := run_adjust change create key h
  cases ho : change.outcome create t.bucket key (t.seen table key) with
  | error e =>
      simp only [ho] at hrun
      rw [ending_of_error hrun]
      exact hconsulted
  | ok n =>
      simp only [ho] at hrun
      rw [ending_of_ok hrun, decisions_registered]
      exact hconsulted

/-- Flushes decide nothing. -/
theorem decides_flush : Decides none flush := by
  intro t _ _
  rw [ending_of_ok (run_flush t)]
  rfl

end Txn

/-! ### Requests -/

/-- Where tables persist, no foreign one appears. -/
theorem Store.Persists.onlyBuckets {s s' : Store} (h : Persists s s') (hs : s.OnlyBuckets) :
    s'.OnlyBuckets := by
  intro name hforeign
  rcases h name with hsame | ⟨table, htable⟩
  · exact hs name (hsame.symm.trans hforeign)
  · rw [htable] at hforeign
    cases hforeign

/-- A store of buckets shows a table under every name. -/
theorem Store.OnlyBuckets.bucketD {s : Store} (h : s.OnlyBuckets) (name : String) :
    ∃ table, s.bucketD name = .ok table := by
  have hname := h name
  rw [bucketD_eq]
  generalize s[name]? = stored at hname ⊢
  rcases stored with _ | table | _
  · exact ⟨∅, rfl⟩
  · exact ⟨table, rfl⟩
  · exact absurd rfl hname

namespace Backend

variable {b : Backend} {table : Table} {α : Type} {body : TxnM α} {condition : Option Condition}

/-- The counters of decisions of a backend. -/
def decisions (b : Backend) : Decisions :=
  ⟨b.reads, b.shortCircuits⟩

/-- An update counts what its body does, whether it is committed or aborted. -/
theorem decisions_update (hbody : Txn.Decides condition body)
    (h : b.store.bucketD b.active = .ok table) :
    (b.update body).2.decisions = b.decisions.decided b.cache condition := by
  have hending := hbody (t := b.transaction) h
  cases hrun : body.run b.transaction with
  | ok a t =>
      rw [Txn.ending_of_ok hrun] at hending
      rw [update_of_ok hrun]
      exact hending
  | error e t =>
      rw [Txn.ending_of_error hrun] at hending
      rw [update_of_error hrun]
      exact hending

/-- A lookup decides whether the key is stored, whatever it finds. -/
theorem decisions_looked (b : Backend) (key : Key) :
    (b.looked key).decisions = b.decisions.decided b.cache (some ⟨key, true⟩) := by
  simp only [looked, Decisions.decided]
  split <;> rfl

/-- A deletion under a condition decides it by the read before, and the update after it counts
nothing more. -/
theorem decisions_delete (h : b.store.bucketD b.active = .ok table) (key : Key)
    (onlyIfExists : Bool) :
    (b.delete key onlyIfExists).2.decisions =
      b.decisions.decided b.cache (if onlyIfExists then some ⟨key, true⟩ else none) := by
  cases onlyIfExists with
  | false => exact decisions_update (Txn.decides_delete key) h
  | true =>
      have hlooked := b.decisions_looked key
      rw [delete_ifExists_eq]
      rcases b.found key with e | _ | value
      · exact hlooked
      · exact hlooked
      · have htable : (b.looked key).store.bucketD (b.looked key).active = .ok table := by
          rw [looked_store, looked_active, h]
        exact (decisions_update (Txn.decides_delete key) htable).trans hlooked

/-- **What a request counts**: the decision of its condition, by what the cache answers at the start. -/
theorem decisions_serve (hs : b.store.OnlyBuckets) (request : Request) :
    (b.serve request).2.decisions = b.decisions.decided b.cache request.condition? := by
  obtain ⟨table, htable⟩ := hs.bucketD b.active
  cases request with
  | put mode key value => exact decisions_update (Txn.decides_put mode key value) htable
  | get key =>
      simp only [serve, get_eq, Prod.map_snd, id]
      exact decisions_looked b key
  | delete key onlyIfExists => exact decisions_delete htable key onlyIfExists
  | adjust change create key =>
      exact decisions_update (Txn.decides_adjust change create key) htable
  | flush => exact decisions_update Txn.decides_flush htable
  | switch name =>
      obtain ⟨_, -, h⟩ | ⟨_, _, -, -, h⟩ | ⟨_, _, -, -, h⟩ := b.switch_cases name <;>
        simp only [serve, Prod.map_snd, id, h] <;> rfl
  | stats => rfl

/-! ### Runs -/

/-- A row of requests decides as many conditions as there are requests that have one. -/
theorem total_decisions_after (hs : b.store.OnlyBuckets) (requests : List Request) :
    (b.after requests).decisions.total =
      b.decisions.total + requests.countP (·.condition?.isSome) := by
  induction requests generalizing b with
  | nil => rfl
  | cons request rest ih =>
      have hnext : (b.serve request).2.store.OnlyBuckets := (b.persists_serve request).onlyBuckets hs
      calc (b.after (request :: rest)).decisions.total
          = (b.serve request).2.decisions.total + rest.countP (·.condition?.isSome) := ih hnext
        _ = b.decisions.total + (if request.condition?.isSome then 1 else 0) +
              rest.countP (·.condition?.isSome) := by
            rw [decisions_serve hs, Decisions.total_decided]
        _ = b.decisions.total + (request :: rest).countP (·.condition?.isSome) := by
            rw [List.countP_cons]
            omega

/-- **Every condition is decided once.** In a store of buckets, and whatever the caches hold, after any
row of requests the reads and the short circuits together have grown by the number of requests that
have a condition. Every further request adds to neither if it has no condition. If it has one, it adds
one to the reads exactly if the cache gives the doubtful answer at the start, and else one to the short
circuits; and this is so whether the request succeeds or fails. -/
theorem decided_once_in_run (hs : b.store.OnlyBuckets) (requests : List Request) :
    let b' := b.after requests
    b'.reads + b'.shortCircuits =
        b.reads + b.shortCircuits + requests.countP (·.condition?.isSome) ∧
      ∀ request,
        let b'' := (b'.serve request).2
        (request.condition? = none →
          b''.reads = b'.reads ∧ b''.shortCircuits = b'.shortCircuits) ∧
        ∀ key doubtful, request.condition? = some ⟨key, doubtful⟩ →
          b''.reads = b'.reads + (if b'.cache.mayContain key = doubtful then 1 else 0) ∧
          b''.shortCircuits =
            b'.shortCircuits + (if b'.cache.mayContain key = doubtful then 0 else 1) := by
  refine ⟨total_decisions_after hs requests, fun request => ?_⟩
  have hserve := decisions_serve ((b.persists_after requests).onlyBuckets hs) request
  refine ⟨fun hnone => ?_, fun key doubtful hsome => ?_⟩
  · rw [hnone] at hserve
    exact Decisions.mk.inj hserve
  · rw [hsome] at hserve
    simp only [Decisions.decided] at hserve
    split at hserve
    · rename_i hdoubtful
      rw [if_pos hdoubtful, if_pos hdoubtful]
      exact Decisions.mk.inj hserve
    · rename_i hdoubtful
      rw [if_neg hdoubtful, if_neg hdoubtful]
      exact Decisions.mk.inj hserve

/-- A backend whose cache has lost the one stored key. Of the conditions in the row three are decided by
the cache alone, and wrongly, and one by a read, since its key collides with a written one. The write
after the row needs a key that was flushed. -/
theorem decided_once_while_denied :
    let requests : List Request := [.get [1], .put .ifAbsent [1] [3], .delete [1] true,
      .put .always [7] [8], .adjust (.up 1) false [9], .switch "", .delete [5] false, .flush]
    ∃ b : Backend, b.store = .single ∧ b.cache.mayContain [1] = false ∧
      (b.after requests).reads + (b.after requests).shortCircuits = 4 ∧
      ((b.after requests).serve (.put .ifPresent [7] [3])).2.reads = (b.after requests).reads + 1 ∧
      ((b.after requests).serve (.put .ifPresent [7] [3])).2.shortCircuits =
        (b.after requests).shortCircuits := by
  intro requests
  obtain ⟨b, hstore, hreads, hshort, hdenied, hflushed⟩ :
      ∃ b : Backend, b.store = .single ∧ b.reads = 0 ∧ b.shortCircuits = 0 ∧
        b.cache.mayContain [1] = false ∧ (b.after requests).cache.mayContain [7] = false :=
    ⟨{ path := "kv"
       place := ["kv"]
       store := .single
       registry := ⟨.byLength, (∅ : Std.TreeMap String Cache).insert "b" (.empty .byLength)⟩
       active := "b"
       reads := 0
       shortCircuits := 0 }, rfl, rfl, rfl, by decide +kernel, by decide +kernel⟩
  have hs : b.store.OnlyBuckets := by
    intro name
    rw [hstore, Store.single, Store.setBucket, Std.TreeMap.getElem?_insert]
    split
    · simp
    · simp
  obtain ⟨htotal, hnext⟩ := decided_once_in_run hs requests
  have hopen := (hnext (.put .ifPresent [7] [3])).2 [7] false rfl
  rw [if_pos hflushed, if_pos hflushed, add_zero] at hopen
  have hcount : requests.countP (·.condition?.isSome) = 4 := rfl
  rw [hreads, hshort, hcount] at htotal
  exact ⟨b, hstore, hdenied, htotal, hopen⟩

end Backend

end BucketStore
