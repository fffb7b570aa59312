import BucketStore.Pending
import BucketStore.StoreError
import BucketStore.Tally

/-!
# Write Transactions

A write **transaction** works on its own copy of the store, on the cache of the active bucket and on
the notes of what changed. Its body is a program in `TxnM`, which may fail at any step and then still
shows how far the counters had come; what becomes of copy, cache and notes is decided by whoever runs
the body.

The cache is asked before the table. A test that settles the precondition of a step is a **short
circuit**; where it does not, the table is read, and that read is **authoritative**.
-/

namespace BucketStore

/-- The state of a write transaction. -/
structure Txn where
  /-- The bucket that the transaction works on. -/
  bucket : String
  /-- The transaction's copy of the store. -/
  store : Store
  /-- The cache of the bucket. -/
  cache : Cache
  /-- The notes of what changed. -/
  pending : Pending
  /-- The number of authoritative reads so far. -/
  reads : Nat
  /-- The number of short circuits so far. -/
  shortCircuits : Nat

/-- Programs of a write transaction: they may fail, and keep the state they failed in. -/
abbrev TxnM := EStateM StoreError Txn

/-- Which condition on the key a write depends on. -/
inductive WriteMode where
  /-- Write in any case. -/
  | always
  /-- Write only if the key is not stored. -/
  | ifAbsent
  /-- Write only if the key is stored. -/
  | ifPresent
  deriving DecidableEq, Repr

/-- The mode that two flags ask for: `passthrough` drops every condition, and otherwise
`requireExisting` says whether the key has to be stored. -/
def WriteMode.ofFlags (requireExisting passthrough : Bool) : WriteMode :=
  if passthrough then .always else if requireExisting then .ifPresent else .ifAbsent

namespace Txn

/-! ### Steps -/

/-- Makes an access to the disk. -/
def access (disk : Disk) (a : Access) : TxnM Unit :=
  match disk.access a with
  | .ok () => return
  | .error e => throw e

/-- The bucket's table; a missing one is created empty. -/
def openTable : TxnM Table := do
  let t ← get
  match t.store.bucketD t.bucket with
  | .error fault => throw (.table fault)
  | .ok table =>
    set { t with store := t.store.setBucket t.bucket table }
    return table

/-- Replaces the bucket's table. -/
def setTable (table : Table) : TxnM Unit :=
  modify fun t => { t with store := t.store.setBucket t.bucket table }

/-- Drops the bucket's table, whatever its columns. -/
def dropTable : TxnM Unit :=
  modify fun t => { t with store := t.store.drop t.bucket }

/-- Asks the cache for a key. -/
def test (key : Key) : TxnM Bool := do
  let t ← get
  set { t with cache := t.cache.noteTest key }
  return t.cache.mayContain key

/-- Counts an authoritative read. -/
def noteRead : TxnM Unit :=
  modify fun t => { t with reads := t.reads + 1 }

/-- Counts a short circuit. -/
def noteShortCircuit : TxnM Unit :=
  modify fun t => { t with shortCircuits := t.shortCircuits + 1 }

/-- Notes a key that became present; the cache takes it in at once. -/
def noteInsert (key : Key) : TxnM Unit :=
  modify fun t => { t with cache := t.cache.add key, pending := t.pending.noteInsert key }

/-- Notes a key that was removed; the cache learns of it at the commit. -/
def noteRemove (key : Key) : TxnM Unit :=
  modify fun t => { t with pending := t.pending.noteRemove key }

/-- Notes that the bucket was dropped; the cache learns of it at the commit. -/
def noteReset : TxnM Unit :=
  modify fun t => { t with pending := t.pending.noteReset }

/-- Fails because the key is stored. -/
def failExists {α : Type} (key : Key) : TxnM α := do
  throw (.keyExists (← get).bucket key)

/-- Fails because the key is not stored. -/
def failNotFound {α : Type} (key : Key) : TxnM α := do
  throw (.keyNotFound (← get).bucket key)

/-! ### Bodies -/

/-- Settles the condition of a write, from the cache where it can and else from the table. -/
def settle (mode : WriteMode) (table : Table) (key : Key) (disk : Disk := Disk.working) :
    TxnM Unit :=
  match mode with
  | .always => return
  | .ifPresent => do
    if ← test key then noteShortCircuit
    else
      noteRead
      access disk .find
      unless table.contains key do failNotFound key
  | .ifAbsent => do
    if ← test key then
      noteRead
      access disk .find
      if table.contains key then failExists key
    else noteShortCircuit

/-- Makes sure that the cache knows a key that was just written. A key that was stored before is
known already, unless a test says otherwise. -/
def register (existed : Bool) (key : Key) : TxnM Unit := do
  if existed then
    unless ← test key do noteInsert key
  else noteInsert key

/-- Writes a key under a condition. The cache may have settled the condition without a read, so what
the table held is compared with the condition once more. -/
def put (mode : WriteMode) (key : Key) (value : Value) (disk : Disk := Disk.working) :
    TxnM Unit := do
  access disk .openTable
  let table ← openTable
  settle mode table key disk
  access disk .insert
  setTable (table.insert key value)
  let existed := table.contains key
  match mode, existed with
  | .ifPresent, false => failNotFound key
  | .ifAbsent, true => failExists key
  | _, _ => register existed key

/-- Deletes a key, and says whether it was stored. Only a key that was stored was ever counted into
the cache. -/
def delete (key : Key) (disk : Disk := Disk.working) : TxnM Bool := do
  access disk .openTable
  let table ← openTable
  access disk .remove
  setTable (table.erase key)
  let removed := table.contains key
  if removed then noteRemove key
  return removed

/-- The value that the next tally is computed from: none if the cache says that the key is absent,
else what the table holds. -/
def current (table : Table) (key : Key) (disk : Disk := Disk.working) : TxnM (Option Value) := do
  if ← test key then
    noteRead
    access disk .find
    return table[key]?
  else
    noteShortCircuit
    return none

/-- The tally after a change. A missing key counts as zero if it may be created. -/
def nextTally (change : Adjustment) (create : Bool) (key : Key) :
    Option Value → TxnM Int
  | none => if create then return change.apply 0 else failNotFound key
  | some value =>
    match Tally.ofValue? value with
    | some n => return change.apply n
    | none => do throw (.notANumber (← get).bucket key value)

/-- Changes a tally and gives its new value. -/
def adjust (change : Adjustment) (create : Bool) (key : Key) (disk : Disk := Disk.working) :
    TxnM Int := do
  access disk .openTable
  let table ← openTable
  let next ← nextTally change create key (← current table key disk)
  access disk .insert
  setTable (table.insert key (Tally.toValue next))
  register (table.contains key) key
  return next

/-- Empties the bucket, whatever its table was. -/
def flush (disk : Disk := Disk.working) : TxnM Unit := do
  access disk .dropTable
  dropTable
  access disk .openTable
  let _ ← openTable
  noteReset

end Txn

end BucketStore
