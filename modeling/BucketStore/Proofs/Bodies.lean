import BucketStore.Proofs.StoredKeys

/-!
# What Transaction Bodies Do

Every body of a write transaction is a short program over a few steps. This module runs the
programs: it says of each body which result it gives and in which state it ends, as an equation
in the state it starts from. Later modules quote these equations and never look into a body again.

The states are written with five changes of a transaction: a table is put in place (`withTable`) or
emptied (`emptied`), the cache is consulted (`consulted`), and a key is noted as inserted or removed
(`inserted`, `erased`).

## Main results

* `run_put`: a write succeeds exactly if its mode admits what the table holds. The cache decides
  which counters move and whether the table is read, and nothing of the result.
* `run_delete`: a deletion always succeeds and says whether the key was stored.
* `run_adjust`: a tally is computed from what the table holds, seen through the cache's answer.
* `run_flush`: a flush succeeds whatever stands under the bucket's name.
-/

namespace BucketStore

/-! ### Conditions and refusals -/

/-- Whether a mode **admits** a write, given whether the key is stored. -/
def WriteMode.admits : WriteMode → Bool → Bool
  | .always, _ => true
  | .ifAbsent, stored => !stored
  | .ifPresent, stored => stored

/-- The error of a write that a mode does not admit. -/
def WriteMode.refusal : WriteMode → String → Key → StoreError
  | .ifPresent, bucket, key => .keyNotFound bucket key
  | _, bucket, key => .keyExists bucket key

/-- The tally after a change of what is stored, if anything is; a missing key may be created. -/
def Adjustment.outcome (change : Adjustment) (create : Bool) (bucket : String) (key : Key) :
    Option Value → Except StoreError Int
  | none => if create then .ok (change.apply 0) else .error (.keyNotFound bucket key)
  | some value =>
    match Tally.ofValue? value with
    | some n => .ok (change.apply n)
    | none => .error (.notANumber bucket key value)

namespace Txn

/-! ### Changes of a transaction -/

/-- The transaction with another table for its bucket. -/
def withTable (t : Txn) (table : Table) : Txn :=
  { t with store := t.store.setBucket t.bucket table }

/-- The transaction after the cache was asked for a key. -/
def tested (t : Txn) (key : Key) : Txn :=
  { t with cache := t.cache.noteTest key }

/-- The transaction after the cache was **consulted**: the table is read if the cache gives the
doubtful answer, and else the read is saved. -/
def consulted (t : Txn) (key : Key) (doubtful : Bool) : Txn :=
  if t.cache.mayContain key = doubtful then
    { t.tested key with reads := t.reads + 1 }
  else { t.tested key with shortCircuits := t.shortCircuits + 1 }

/-- What a transaction **sees** of a key: what the table holds, unless the cache rules the key out. -/
def seen (t : Txn) (table : Table) (key : Key) : Option Value :=
  if t.cache.mayContain key then table[key]? else none

/-- The transaction after a key was noted as inserted. -/
def inserted (t : Txn) (key : Key) : Txn :=
  { t with cache := t.cache.add key, pending := t.pending.noteInsert key }

/-- The transaction after a key was noted as removed. -/
def erased (t : Txn) (key : Key) : Txn :=
  { t with pending := t.pending.noteRemove key }

/-- The transaction after the table was dropped and made anew. -/
def emptied (t : Txn) : Txn :=
  { t with
    store := (t.store.drop t.bucket).setBucket t.bucket ∅
    pending := t.pending.noteReset }

/-- The transaction after a condition was settled. An unconditional write asks nobody; *absent* is
the doubtful answer where the key has to be there, and *present* where it must not. -/
def settled (t : Txn) : WriteMode → Key → Txn
  | .always, _ => t
  | .ifAbsent, key => t.consulted key true
  | .ifPresent, key => t.consulted key false

/-- The transaction after a written key was made known to the cache. -/
def registered (t : Txn) (existed : Bool) (key : Key) : Txn :=
  if existed then
    if t.cache.mayContain key then t.tested key else (t.tested key).inserted key
  else t.inserted key

/-! ### What the changes leave alone -/

section Projections

variable (t : Txn) (key : Key) (table : Table)

@[simp] theorem withTable_bucket : (t.withTable table).bucket = t.bucket := rfl

@[simp] theorem withTable_cache : (t.withTable table).cache = t.cache := rfl

@[simp] theorem withTable_pending : (t.withTable table).pending = t.pending := rfl

@[simp] theorem seen_withTable (table' : Table) :
    (t.withTable table').seen table key = t.seen table key := rfl

@[simp] theorem bucketD_withTable :
    (t.withTable table).store.bucketD t.bucket = .ok table :=
  Store.bucketD_setBucket_self table

@[simp] theorem keysOf_withTable :
    (t.withTable table).store.keysOf t.bucket = table.keys :=
  Store.keysOf_setBucket_self table

/-- An emptied table holds no keys. -/
@[simp] theorem keysOf_emptied : t.emptied.store.keysOf t.bucket = [] :=
  (Store.keysOf_setBucket_self ∅).trans Table.keys_empty

@[simp] theorem consulted_bucket (doubtful : Bool) : (t.consulted key doubtful).bucket = t.bucket := by
  simp only [consulted]
  split <;> rfl

@[simp] theorem consulted_store (doubtful : Bool) : (t.consulted key doubtful).store = t.store := by
  simp only [consulted]
  split <;> rfl

@[simp] theorem consulted_cache (doubtful : Bool) :
    (t.consulted key doubtful).cache = t.cache.noteTest key := by
  simp only [consulted]
  split <;> rfl

@[simp] theorem consulted_pending (doubtful : Bool) :
    (t.consulted key doubtful).pending = t.pending := by
  simp only [consulted]
  split <;> rfl

@[simp] theorem settled_bucket (mode : WriteMode) : (t.settled mode key).bucket = t.bucket := by
  cases mode <;> simp [settled]

@[simp] theorem settled_store (mode : WriteMode) : (t.settled mode key).store = t.store := by
  cases mode <;> simp [settled]

@[simp] theorem settled_pending (mode : WriteMode) : (t.settled mode key).pending = t.pending := by
  cases mode <;> simp [settled]

@[simp] theorem settled_filter (mode : WriteMode) :
    (t.settled mode key).cache.filter = t.cache.filter := by
  cases mode <;> simp [settled]

@[simp] theorem registered_bucket (existed : Bool) :
    (t.registered existed key).bucket = t.bucket := by
  simp only [registered]
  split <;> [split; skip] <;> rfl

@[simp] theorem registered_store (existed : Bool) :
    (t.registered existed key).store = t.store := by
  simp only [registered]
  split <;> [split; skip] <;> rfl

/-- A table that was put in place and registered stands under the bucket's name. -/
theorem bucketD_registered_withTable {name : String} (h : t.bucket = name) (existed : Bool) :
    ((t.withTable table).registered existed key).store.bucketD name = .ok table := by
  rw [registered_store, ← h, bucketD_withTable]

end Projections

/-! ### Steps -/

section Steps

variable (t : Txn) (key : Key) (table : Table)

/-- On a disk that works, an access is no step at all. -/
theorem run_access_working (a : Access) : (access Disk.working a).run t = .ok () t := rfl

theorem run_openTable :
    openTable.run t =
      match t.store.bucketD t.bucket with
      | .error fault => .error (.table fault) t
      | .ok table => .ok table (t.withTable table) := by
  simp only [openTable, EStateM.run_bind, EStateM.run_get]
  cases t.store.bucketD t.bucket <;> rfl

theorem run_setTable : (setTable table).run t = .ok () (t.withTable table) := rfl

theorem run_test : (test key).run t = .ok (t.cache.mayContain key) (t.tested key) := rfl

theorem run_failExists {α : Type} :
    (failExists key : TxnM α).run t = .error (.keyExists t.bucket key) t := rfl

theorem run_failNotFound {α : Type} :
    (failNotFound key : TxnM α).run t = .error (.keyNotFound t.bucket key) t := rfl

end Steps

/-! ### Writes -/

section Writes

variable (t : Txn) (mode : WriteMode) (key : Key) (value : Value) (table : Table)

/-- Settling a condition refuses a write only where the table was read and does not admit it. -/
theorem run_settle :
    (settle mode table key).run t =
      if mode.admits (table.contains key) ∨ t.cache.mayContain key = (mode == .ifPresent) then
        .ok () (t.settled mode key)
      else .error (mode.refusal t.bucket key) (t.settled mode key) := by
  cases mode with
  | always => rfl
  | ifPresent =>
      simp only [settle, EStateM.run_bind, run_test, settled, consulted, WriteMode.admits]
      cases t.cache.mayContain key <;> cases table.contains key <;> rfl
  | ifAbsent =>
      simp only [settle, EStateM.run_bind, run_test, settled, consulted, WriteMode.admits]
      cases t.cache.mayContain key <;> cases table.contains key <;> rfl

theorem run_register (existed : Bool) :
    (register existed key).run t = .ok () (t.registered existed key) := by
  cases existed with
  | false => rfl
  | true =>
      simp only [register, registered, if_true, EStateM.run_bind, run_test]
      cases t.cache.mayContain key <;> rfl

/-- A write that the table admits. What the cache says decides whether the key is noted as inserted
once more, and nothing else. -/
theorem run_put_of_admits {t : Txn} {table : Table} (h : t.store.bucketD t.bucket = .ok table)
    (hm : mode.admits (table.contains key) = true) :
    (put mode key value).run t =
      .ok () ((((t.withTable table).settled mode key).withTable (table.insert key value)).registered
        (table.contains key) key) := by
  simp only [put, EStateM.run_bind, run_access_working, run_openTable, h, run_settle, hm,
    true_or, if_true, run_setTable]
  cases mode with
  | always => exact run_register _ _ _
  | ifAbsent =>
      have hc : table.contains key = false := by simpa [WriteMode.admits] using hm
      simp only [hc]
      exact run_register _ _ _
  | ifPresent =>
      have hc : table.contains key = true := by simpa [WriteMode.admits] using hm
      simp only [hc]
      exact run_register _ _ _

/-- A write that the table does not admit fails: at the read if the cache gave the doubtful answer,
and else after the write, when what the table held is compared with the condition. -/
theorem run_put_of_not_admits {t : Txn} {table : Table} (h : t.store.bucketD t.bucket = .ok table)
    (hm : mode.admits (table.contains key) = false) :
    (put mode key value).run t =
      .error (mode.refusal t.bucket key)
        (if t.cache.mayContain key = (mode == .ifPresent) then
          ((t.withTable table).settled mode key).withTable (table.insert key value)
        else (t.withTable table).settled mode key) := by
  simp only [put, EStateM.run_bind, run_access_working, run_openTable, h, run_settle, hm,
    Bool.false_eq_true, false_or, withTable_cache]
  by_cases hk : t.cache.mayContain key = (mode == .ifPresent)
  · simp only [hk, if_true, run_setTable]
    cases mode with
    | always => simp [WriteMode.admits] at hm
    | ifAbsent =>
        have hc : table.contains key = true := by simpa [WriteMode.admits] using hm
        simp only [hc, run_failExists, withTable_bucket, settled_bucket, WriteMode.refusal]
    | ifPresent =>
        have hc : table.contains key = false := by simpa [WriteMode.admits] using hm
        simp only [hc, run_failNotFound, withTable_bucket, settled_bucket, WriteMode.refusal]
  · simp only [hk, if_false, withTable_bucket]

/-- A write into a foreign table fails before anything has happened. -/
theorem run_put_of_fault {t : Txn} {fault : TableFault}
    (h : t.store.bucketD t.bucket = .error fault) :
    (put mode key value).run t = .error (.table fault) t := by
  simp only [put, EStateM.run_bind, run_access_working, run_openTable, h]

end Writes

/-! ### Deletions -/

section Deletions

variable (key : Key)

/-- A deletion takes the key out of the table, and notes it if it was there. -/
theorem run_delete {t : Txn} {table : Table} (h : t.store.bucketD t.bucket = .ok table) :
    (delete key).run t =
      .ok (table.contains key)
        (if table.contains key then ((t.withTable table).withTable (table.erase key)).erased key
        else (t.withTable table).withTable (table.erase key)) := by
  simp only [delete, EStateM.run_bind, run_access_working, run_openTable, h, run_setTable]
  cases table.contains key <;> rfl

/-- A deletion in a foreign table fails before anything has happened. -/
theorem run_delete_of_fault {t : Txn} {fault : TableFault}
    (h : t.store.bucketD t.bucket = .error fault) :
    (delete key).run t = .error (.table fault) t := by
  simp only [delete, EStateM.run_bind, run_access_working, run_openTable, h]

end Deletions

/-! ### Tallies -/

section Tallies

variable (change : Adjustment) (create : Bool) (key : Key)

theorem run_current (t : Txn) (table : Table) :
    (current table key).run t =
      .ok (t.seen table key) (t.consulted key true) := by
  simp only [current, EStateM.run_bind, run_test, consulted, seen]
  cases t.cache.mayContain key <;> rfl

theorem run_nextTally (t : Txn) (seen : Option Value) :
    (nextTally change create key seen).run t =
      match change.outcome create t.bucket key seen with
      | .ok n => .ok n t
      | .error e => .error e t := by
  cases seen with
  | none => cases create <;> rfl
  | some value =>
      simp only [nextTally, Adjustment.outcome]
      cases Tally.ofValue? value <;> rfl

/-- A tally is computed from what the table holds under the key, if the cache does not rule the key
out, and is written back unless that computation fails. -/
theorem run_adjust {t : Txn} {table : Table} (h : t.store.bucketD t.bucket = .ok table) :
    (adjust change create key).run t =
      match change.outcome create t.bucket key (t.seen table key) with
      | .error e => .error e ((t.withTable table).consulted key true)
      | .ok n =>
        .ok n ((((t.withTable table).consulted key true).withTable
          (table.insert key (Tally.toValue n))).registered (table.contains key) key) := by
  simp only [adjust, EStateM.run_bind, run_access_working, run_openTable, h, run_current, run_nextTally,
    seen_withTable, consulted_bucket, withTable_bucket]
  cases change.outcome create t.bucket key (t.seen table key) with
  | error e => rfl
  | ok n => simp only [run_setTable, run_register, EStateM.run_pure]

/-- A tally in a foreign table cannot be changed. -/
theorem run_adjust_of_fault {t : Txn} {fault : TableFault}
    (h : t.store.bucketD t.bucket = .error fault) :
    (adjust change create key).run t = .error (.table fault) t := by
  simp only [adjust, EStateM.run_bind, run_access_working, run_openTable, h]

end Tallies

/-! ### Flushes -/

/-- A flush leaves an empty table, whatever stood under the name, and notes the reset. -/
theorem run_flush (t : Txn) : flush.run t = .ok () t.emptied := by
  have h : ({ t with store := t.store.drop t.bucket } : Txn).store.bucketD t.bucket = .ok ∅ :=
    Store.bucketD_drop_self
  have hopen : openTable.run { t with store := t.store.drop t.bucket } =
      .ok ∅ { t with store := (t.store.drop t.bucket).setBucket t.bucket ∅ } := by
    rw [run_openTable]
    simp only [h]
    rfl
  simp only [flush, dropTable, noteReset, EStateM.run_bind, run_access_working, EStateM.run_modify,
    hopen, emptied]

end Txn

end BucketStore
