import BucketStore.Proofs.Bodies

/-!
# The Balance of a Running Transaction

While a transaction runs, its cache, its notes and its copy of the store drift apart from what is
committed: insertions are in the cache already, removals are not out of it yet. They drift apart in
a controlled way. If `held` are the keys that are committed for the bucket, then

* the cache counts `held` together with the insertions noted so far, and
* `held` with those insertions are the keys of the transaction's table with the removals noted
  so far.

This is `Txn.Balanced`. Either ending starts from it: a commit takes the removals out and leaves
the keys of the new table counted, a retraction takes the insertions out and leaves `held`.

Beside the balance stands a frame (`Txn.Frame`): a body touches the table of its own bucket only,
and never changes the shape of the cache.

## Main results

* `Balanced.knows`: during a balanced transaction the cache admits every key of its table.
* `keepsBalance_put`, `keepsBalance_delete`, `keepsBalance_adjust`: every body but the flush keeps
  the balance.
* `Balanced.commit`, `Balanced.retract`, `commit_flush`: what the cache counts in the end.
-/

namespace BucketStore

namespace Txn

variable {held : Multiset Key} {t t' t'' : Txn} {key : Key} {table : Table}

/-! ### The frame of a body -/

/-- The **frame** of a transaction: what none of its steps changes. -/
structure Frame (t t' : Txn) : Prop where
  /-- The transaction stays with its bucket. -/
  bucket : t'.bucket = t.bucket
  /-- Under other names everything stands as before. -/
  elsewhere : ∀ name, name ≠ t.bucket → t'.store[name]? = t.store[name]?
  /-- The cache keeps its shape. -/
  shape : t'.cache.filter.shape = t.cache.filter.shape

namespace Frame

theorem refl (t : Txn) : Frame t t :=
  ⟨rfl, fun _ _ => rfl, rfl⟩

theorem trans (h : Frame t t') (h' : Frame t' t'') : Frame t t'' where
  bucket := h'.bucket.trans h.bucket
  elsewhere := fun name hne =>
    (h'.elsewhere name (h.bucket ▸ hne)).trans (h.elsewhere name hne)
  shape := h'.shape.trans h.shape

theorem withTable (t : Txn) (table : Table) : Frame t (t.withTable table) :=
  ⟨rfl, fun _ hne => Store.getElem?_setBucket_of_ne hne table, rfl⟩

theorem consulted (t : Txn) (key : Key) (doubtful : Bool) :
    Frame t (t.consulted key doubtful) := by
  refine ⟨consulted_bucket .., fun _ _ => ?_, ?_⟩
  · rw [consulted_store]
  · rw [consulted_cache, Cache.filter_noteTest]

theorem settled (t : Txn) (mode : WriteMode) (key : Key) : Frame t (t.settled mode key) := by
  refine ⟨settled_bucket .., fun _ _ => ?_, ?_⟩
  · rw [settled_store]
  · rw [settled_filter]

theorem registered (t : Txn) (existed : Bool) (key : Key) :
    Frame t (t.registered existed key) := by
  refine ⟨registered_bucket .., fun _ _ => ?_, ?_⟩
  · rw [registered_store]
  · simp only [Txn.registered]
    split <;> [split; skip] <;> simp [inserted, tested]

theorem erased (t : Txn) (key : Key) : Frame t (t.erased key) :=
  ⟨rfl, fun _ _ => rfl, rfl⟩

end Frame

/-! ### Notes as multisets -/

/-- A key that is noted as inserted joins the insertions. -/
theorem coe_noteInsert (p : Pending) (key : Key) :
    (↑(p.noteInsert key).inserted : Multiset Key) = key ::ₘ ↑p.inserted := by
  rw [Pending.noteInsert, ← Multiset.coe_add, add_comm]
  rfl

/-- A key that is noted as removed joins the removals. -/
theorem coe_noteRemove (p : Pending) (key : Key) :
    (↑(p.noteRemove key).removed : Multiset Key) = key ::ₘ ↑p.removed := by
  rw [Pending.noteRemove, ← Multiset.coe_add, add_comm]
  rfl

/-! ### The balance -/

/-- A transaction is **balanced** over the keys that are committed for its bucket if the cache counts
them with the insertions noted so far, these are the keys of the table with the removals noted so
far, and no reset is noted. -/
structure Balanced (held : Multiset Key) (t : Txn) : Prop where
  /-- The cache has the insertions already and the removals still. -/
  counts : t.cache.filter.Counts (held + t.pending.inserted)
  /-- The notes account for the difference between the table and what is committed. -/
  keys : held + t.pending.inserted = (t.store.keysOf t.bucket : Multiset Key) + t.pending.removed
  /-- The table was not dropped. -/
  not_reset : t.pending.reset = false

namespace Balanced

/-- A change that leaves filter, notes and keys alone keeps the balance. -/
theorem congr (h : t.Balanced held) (hfilter : t'.cache.filter = t.cache.filter)
    (hpending : t'.pending = t.pending)
    (hkeys : (t'.store.keysOf t'.bucket : Multiset Key) = t.store.keysOf t.bucket) :
    t'.Balanced held where
  counts := by rw [hfilter, hpending]; exact h.counts
  keys := by rw [hpending, hkeys]; exact h.keys
  not_reset := by rw [hpending]; exact h.not_reset

/-- **No false negatives inside a transaction**: the cache admits every key of its table. -/
theorem knows (h : t.Balanced held) (hkey : key ∈ t.store.keysOf t.bucket) :
    t.cache.mayContain key = true := by
  refine h.counts.contains ?_
  rw [h.keys]
  exact Multiset.mem_add.mpr (.inl (Multiset.mem_coe.mpr hkey))

/-- Putting a table in place that has the same keys keeps the balance. -/
theorem withTable (h : t.Balanced held) (hkeys : t.store.keysOf t.bucket = table.keys) :
    (t.withTable table).Balanced held :=
  h.congr rfl rfl (by rw [withTable_bucket, keysOf_withTable, hkeys])

/-- Settling a condition keeps the balance. -/
theorem settled (h : t.Balanced held) (mode : WriteMode) (key : Key) :
    (t.settled mode key).Balanced held :=
  h.congr (settled_filter ..) (settled_pending ..) (by rw [settled_store, settled_bucket])

/-- Consulting the cache keeps the balance. -/
theorem consulted (h : t.Balanced held) (key : Key) (doubtful : Bool) :
    (t.consulted key doubtful).Balanced held :=
  h.congr (by simp) (consulted_pending ..) (by rw [consulted_store, consulted_bucket])

/-- A new key that is written and noted joins the table and the cache. -/
theorem write_new (h : t.Balanced held) (hkeys : t.store.keysOf t.bucket = table.keys)
    (hc : table.contains key = false) (value : Value) :
    ((t.withTable (table.insert key value)).inserted key).Balanced held := by
  have hnew := Table.keys_insert table key value
  rw [if_neg (by simp [hc])] at hnew
  refine ⟨?_, ?_, h.not_reset⟩
  · have hcounts := h.counts.add key
    rw [← Multiset.add_cons, ← coe_noteInsert] at hcounts
    exact hcounts
  · simp only [inserted, withTable_bucket, withTable_pending, keysOf_withTable, coe_noteInsert]
    rw [hnew, Multiset.add_cons, h.keys, hkeys, Multiset.cons_add]
    rfl

/-- A stored key that is written once more is known, and nothing has to be noted. -/
theorem write_known (h : t.Balanced held) (hkeys : t.store.keysOf t.bucket = table.keys)
    (hc : table.contains key = true) (value : Value) :
    ((t.withTable (table.insert key value)).tested key).Balanced held := by
  have hnew := Table.keys_insert table key value
  rw [if_pos hc] at hnew
  refine h.congr rfl rfl ?_
  simp only [tested, withTable_bucket, keysOf_withTable]
  rw [hnew, hkeys]

/-- **A write keeps the balance.** The key of the first case joins both sides; in the second case the
cache knows the key by `knows`, so that `registered` does not note it again. -/
theorem write (h : t.Balanced held) (hkeys : t.store.keysOf t.bucket = table.keys) (key : Key)
    (value : Value) :
    ((t.withTable (table.insert key value)).registered (table.contains key) key).Balanced held := by
  cases hc : table.contains key with
  | false => exact h.write_new hkeys hc value
  | true =>
      have hknown : (t.withTable (table.insert key value)).cache.mayContain key = true :=
        h.knows (hkeys ▸ (table.mem_keys_iff key).mpr hc)
      rw [registered, if_pos rfl, if_pos hknown]
      exact h.write_known hkeys hc value

/-- **A deletion keeps the balance.** A key that was stored moves from the table to the notes. -/
theorem erase (h : t.Balanced held) (hkeys : t.store.keysOf t.bucket = table.keys) (key : Key) :
    (if table.contains key then (t.withTable (table.erase key)).erased key
      else t.withTable (table.erase key)).Balanced held := by
  have hnew := Table.keys_erase table key
  cases hc : table.contains key with
  | false =>
      have hmem : key ∉ (table.keys : Multiset Key) := fun hk =>
        absurd ((table.mem_keys_iff key).mp hk) (by simp [hc])
      refine h.congr rfl rfl ?_
      simp only [Bool.false_eq_true, if_false, withTable_bucket, keysOf_withTable]
      rw [hnew, Multiset.erase_of_notMem hmem, hkeys]
  | true =>
      have hmem : key ∈ (table.keys : Multiset Key) := (table.mem_keys_iff key).mpr hc
      refine ⟨h.counts, ?_, h.not_reset⟩
      simp only [if_true, erased, withTable_bucket, withTable_pending, keysOf_withTable,
        coe_noteRemove]
      rw [hnew, Multiset.add_cons, ← Multiset.cons_add, Multiset.cons_erase hmem, ← hkeys]
      exact h.keys

/-- **After a commit** the cache counts the keys of the new table. -/
theorem commit (h : t.Balanced held) :
    (t.pending.commit t.cache).filter.Counts (t.store.keysOf t.bucket) := by
  have hcounts := h.counts
  rw [h.keys] at hcounts
  simp only [Pending.commit, h.not_reset, Bool.false_eq_true, if_false]
  exact Pending.counts_foldl_remove hcounts

/-- **After a retraction** the cache counts what was committed before. The table of the transaction
plays no part in this. -/
theorem retract (h : t.cache.filter.Counts (held + t.pending.inserted)) :
    (t.pending.retract t.cache).filter.Counts held :=
  Pending.counts_foldl_remove h

end Balanced

/-! ### Bodies that keep the balance -/

/-- The state in which a body **ends**, be it in success or in failure. -/
def ending {α : Type} (body : TxnM α) (t : Txn) : Txn :=
  match body.run t with
  | .ok _ t' => t'
  | .error _ t' => t'

/-- A body that succeeds ends in its last state. -/
theorem ending_of_ok {α : Type} {body : TxnM α} {a : α} (h : body.run t = .ok a t') :
    ending body t = t' := by
  simp only [ending, h]

/-- A body that fails ends in the state it failed in. -/
theorem ending_of_error {α : Type} {body : TxnM α} {e : StoreError}
    (h : body.run t = .error e t') : ending body t = t' := by
  simp only [ending, h]

/-- What is left of the balance when a body has **ended**: all of it after a success. A failure may
leave a table that the notes do not account for, since that table is thrown away, but the cache still
counts what is committed with what was noted as inserted. -/
def EndsBalanced {α : Type} (held : Multiset Key) : EStateM.Result StoreError Txn α → Prop
  | .ok _ t => t.Balanced held
  | .error _ t => t.cache.filter.Counts (held + t.pending.inserted)

/-- A body **keeps the balance** if it stays inside the frame and ends balanced over the keys over
which it was started. -/
structure KeepsBalance {α : Type} (body : TxnM α) : Prop where
  /-- The body stays inside the frame, in balance or not. -/
  frame : ∀ t, Frame t (ending body t)
  /-- The body ends balanced. -/
  balanced : ∀ {held t}, t.Balanced held → EndsBalanced held (body.run t)

namespace KeepsBalance

variable {α β : Type}

/-- A body that does nothing keeps the balance. -/
theorem pure (a : α) : KeepsBalance (Pure.pure a : TxnM α) :=
  ⟨Frame.refl, id⟩

/-- A body that only fails keeps the balance. -/
theorem throw (e : StoreError) : KeepsBalance (MonadExcept.throw e : TxnM α) :=
  ⟨Frame.refl, Balanced.counts⟩

/-- Bodies that keep the balance keep it one after the other, wherever the first one fails. -/
theorem bind {body : TxnM α} {next : α → TxnM β} (h : KeepsBalance body)
    (hnext : ∀ a, KeepsBalance (next a)) : KeepsBalance (body >>= next) where
  frame t := by
    have hframe := h.frame t
    cases hrun : body.run t with
    | ok a t' =>
        have hend : ending (body >>= next) t = ending (next a) t' := by
          simp only [ending, EStateM.run_bind, hrun]
        rw [ending_of_ok hrun] at hframe
        exact hend ▸ hframe.trans ((hnext a).frame t')
    | error e t' =>
        have hend : (body >>= next).run t = .error e t' := by
          simp only [EStateM.run_bind, hrun]
        rw [ending_of_error hrun] at hframe
        rwa [ending_of_error hend]
  balanced := by
    intro held t hb
    have hend := h.balanced hb
    rw [EStateM.run_bind]
    cases hrun : body.run t with
    | ok a t' =>
        rw [hrun] at hend
        exact (hnext a).balanced hend
    | error e t' =>
        rw [hrun] at hend
        exact hend

end KeepsBalance

/-- **Writes keep the balance**, under every condition. -/
theorem keepsBalance_put (mode : WriteMode) (key : Key) (value : Value) :
    KeepsBalance (put mode key value) where
  frame t := by
    cases h : t.store.bucketD t.bucket with
    | error fault =>
        rw [ending_of_error (run_put_of_fault mode key value h)]
        exact .refl t
    | ok table =>
        have hs := (Frame.withTable t table).trans (.settled _ mode key)
        cases hm : mode.admits (table.contains key) with
        | true =>
            rw [ending_of_ok (run_put_of_admits mode key value h hm)]
            exact (hs.trans (.withTable _ _)).trans (.registered _ _ _)
        | false =>
            rw [ending_of_error (run_put_of_not_admits mode key value h hm)]
            split
            · exact hs.trans (.withTable _ _)
            · exact hs
  balanced := by
    intro held t hb
    cases h : t.store.bucketD t.bucket with
    | error fault =>
        rw [run_put_of_fault mode key value h]
        exact hb.counts
    | ok table =>
        have hs := (hb.withTable (Store.keysOf_of_bucketD h)).settled mode key
        cases hm : mode.admits (table.contains key) with
        | true =>
            rw [run_put_of_admits mode key value h hm]
            exact hs.write (by simp) key value
        | false =>
            rw [run_put_of_not_admits mode key value h hm]
            split <;> exact hs.counts

/-- **Deletions keep the balance**, whether or not the key was stored. -/
theorem keepsBalance_delete (key : Key) : KeepsBalance (delete key) where
  frame t := by
    cases h : t.store.bucketD t.bucket with
    | error fault =>
        rw [ending_of_error (run_delete_of_fault key h)]
        exact .refl t
    | ok table =>
        have hs := (Frame.withTable t table).trans (.withTable _ (table.erase key))
        rw [ending_of_ok (run_delete key h)]
        split
        · exact hs.trans (.erased _ _)
        · exact hs
  balanced := by
    intro held t hb
    cases h : t.store.bucketD t.bucket with
    | error fault =>
        rw [run_delete_of_fault key h]
        exact hb.counts
    | ok table =>
        rw [run_delete key h]
        exact (hb.withTable (Store.keysOf_of_bucketD h)).erase (by simp) key

/-- **Changes of tallies keep the balance**, whatever the key holds. -/
theorem keepsBalance_adjust (change : Adjustment) (create : Bool) (key : Key) :
    KeepsBalance (adjust change create key) where
  frame t := by
    cases h : t.store.bucketD t.bucket with
    | error fault =>
        rw [ending_of_error (run_adjust_of_fault change create key h)]
        exact .refl t
    | ok table =>
        have hs := (Frame.withTable t table).trans (.consulted _ key true)
        have hrun := run_adjust change create key h
        cases ho : change.outcome create t.bucket key (t.seen table key) with
        | error e =>
            simp only [ho] at hrun
            rw [ending_of_error hrun]
            exact hs
        | ok n =>
            simp only [ho] at hrun
            rw [ending_of_ok hrun]
            exact (hs.trans (.withTable _ _)).trans (.registered _ _ _)
  balanced := by
    intro held t hb
    cases h : t.store.bucketD t.bucket with
    | error fault =>
        rw [run_adjust_of_fault change create key h]
        exact hb.counts
    | ok table =>
        have hs := (hb.withTable (Store.keysOf_of_bucketD h)).consulted key true
        rw [run_adjust change create key h]
        cases change.outcome create t.bucket key (t.seen table key) with
        | error e => exact hs.counts
        | ok n => exact hs.write (by simp) key _

/-! ### Flushes -/

/-- A flush stays inside the frame. -/
theorem frame_flush (t : Txn) : Frame t (ending flush t) := by
  rw [ending_of_ok (run_flush t)]
  refine ⟨rfl, fun name hne => ?_, rfl⟩
  exact (Store.getElem?_setBucket_of_ne hne _).trans (Store.getElem?_drop_of_ne hne)

/-- **After a flush** the reset overrides whatever the cache counted before, and the table holds no
keys. -/
theorem commit_flush {a : Unit} (hrun : flush.run t = .ok a t') :
    (t'.pending.commit t'.cache).filter.Counts (t'.store.keysOf t'.bucket) := by
  rw [run_flush] at hrun
  cases hrun
  have hkeys : t.emptied.store.keysOf t.emptied.bucket = [] := keysOf_emptied t
  rw [hkeys]
  exact Filter.Counts.clear _

end Txn

end BucketStore
