import BucketStore.Backend.Transaction
import BucketStore.Registry

/-!
# Backends

A **backend** is an open store with one active bucket, a registry of membership caches and two
counters. Reads look into the committed store; a change runs as a transaction on the active bucket
(`Backend.update`): when its body succeeds and the disk takes the commit, its copy of the store is
the new store and the cache takes over what was pending; when either fails, the store stays as it was
and the cache takes its insertions back.

Every operation gives its result together with the backend after it, for a failure also, since a
failed operation has been counted.
-/

namespace BucketStore

/-- An open store. -/
structure Backend where
  /-- The path under which the store was opened. -/
  path : String
  /-- The location of the store's file, to give the store back to. -/
  place : Location
  /-- The committed tables. -/
  store : Store
  /-- The caches of the buckets used so far. -/
  registry : Registry
  /-- The active bucket. -/
  active : String
  /-- The number of authoritative reads. -/
  reads : Nat
  /-- The number of operations decided from the cache alone. -/
  shortCircuits : Nat

namespace Backend

/-- The cache of the active bucket. -/
def cache (b : Backend) : Cache :=
  b.registry.cacheOf b.active

/-- Replaces the cache of the active bucket. -/
def setCache (b : Backend) (c : Cache) : Backend :=
  { b with registry := b.registry.set b.active c }

/-- Adds every key of a table to a cache. -/
def loadKeys (table : Table) (c : Cache) : Cache :=
  table.keys.foldl Cache.add c

/-! ### Transactions -/

/-- The transaction that starts from a backend. -/
def transaction (b : Backend) : Txn where
  bucket := b.active
  store := b.store
  cache := b.cache
  pending := {}
  reads := b.reads
  shortCircuits := b.shortCircuits

/-- The backend after a transaction succeeded. -/
def commit (b : Backend) (t : Txn) : Backend :=
  { b.setCache (t.pending.commit t.cache) with
    store := t.store
    reads := t.reads
    shortCircuits := t.shortCircuits }

/-- The backend after a transaction or its commit failed. -/
def abort (b : Backend) (t : Txn) : Backend :=
  { b.setCache (t.pending.retract t.cache) with
    reads := t.reads
    shortCircuits := t.shortCircuits }

/-- Runs the body of a write transaction on the active bucket. A commit that fails ends the
transaction as a body that fails does. -/
def update {α : Type} (b : Backend) (body : TxnM α) (disk : Disk := Disk.working) :
    Except StoreError α × Backend :=
  match disk.access .beginWrite with
  | .error e => (.error e, b)
  | .ok () =>
    match body.run b.transaction with
    | .error e t => (.error e, b.abort t)
    | .ok result t =>
      match disk.access .commit with
      | .error e => (.error e, b.abort t)
      | .ok () => (.ok result, b.commit t)

/-- The table of a bucket in a read transaction, if the bucket has one. -/
def openRead (s : Store) (name : String) (disk : Disk) : Except StoreError (Option Table) := do
  disk.access .beginRead
  disk.access .viewTable
  (s.bucket? name).mapError .table

/-- Scans a table: its keys are added to a cache, one after the other. -/
def scan (table : Table) (c : Cache) (disk : Disk) : Except StoreError Cache := do
  disk.access .listKeys
  table.keys.zipIdx.foldlM (fun c (key, i) => do
    disk.access (.entry i)
    return c.add key) c

/-! ### On a disk that works -/

/-- A read transaction finds the table of the bucket. -/
theorem openRead_working (s : Store) (name : String) :
    openRead s name Disk.working = (s.bucket? name).mapError .table := rfl

/-- A scan adds every key. -/
theorem scan_working (table : Table) (c : Cache) :
    scan table c Disk.working = .ok (loadKeys table c) := by
  have hfold : ∀ (keys : List (Key × Nat)) (c : Cache),
      keys.foldlM (fun c (key, i) => do
        Disk.working.access (.entry i)
        return Cache.add c key) c = (.ok (keys.foldl (fun c entry => c.add entry.1) c) :
          Except StoreError Cache) := by
    intro keys
    induction keys with
    | nil => exact fun _ => rfl
    | cons entry rest ih => exact fun c => ih (c.add entry.1)
  refine (hfold table.keys.zipIdx c).trans ?_
  rw [← List.foldl_map, List.zipIdx_map_fst, loadKeys]

/-! ### Operations -/

/-- Writes a key under a condition. -/
def put (b : Backend) (mode : WriteMode) (key : Key) (value : Value)
    (disk : Disk := Disk.working) : Except StoreError Unit × Backend :=
  b.update (Txn.put mode key value disk) disk

/-- The value of a key, if it is stored. A cache that says *absent* saves the read. -/
def get (b : Backend) (key : Key) (disk : Disk := Disk.working) :
    Except StoreError (Option Value) × Backend :=
  let tested := b.setCache (b.cache.noteTest key)
  if b.cache.mayContain key then
    let counted := { tested with reads := tested.reads + 1 }
    match openRead b.store b.active disk with
    | .error e => (.error e, counted)
    | .ok none => (.ok none, counted)
    | .ok (some table) => ((disk.access .find).map fun _ => table[key]?, counted)
  else (.ok none, { tested with shortCircuits := tested.shortCircuits + 1 })

/-- Deletes a key. With `onlyIfExists` a key that is not stored gives `false` and nothing is changed;
without it, deleting such a key is a success. -/
def delete (b : Backend) (key : Key) (onlyIfExists : Bool) (disk : Disk := Disk.working) :
    Except StoreError Bool × Backend :=
  if onlyIfExists then
    match b.get key disk with
    | (.error e, b) => (.error e, b)
    | (.ok none, b) => (.ok false, b)
    | (.ok (some _), b) => b.update (Txn.delete key disk) disk
  else
    let (result, b) := b.update (Txn.delete key disk) disk
    (result.map fun _ => true, b)

/-- Changes a tally and gives its new value. -/
def adjust (b : Backend) (change : Adjustment) (create : Bool) (key : Key)
    (disk : Disk := Disk.working) : Except StoreError Int × Backend :=
  b.update (Txn.adjust change create key disk) disk

/-- Drops every key of the active bucket; the bucket stays. -/
def flush (b : Backend) (disk : Disk := Disk.working) : Except StoreError Unit × Backend :=
  b.update (Txn.flush disk) disk

/-- Fills a new cache from what the store holds for a bucket; a bucket without a table is empty. -/
def fill (s : Store) (name : String) (c : Cache) (disk : Disk := Disk.working) :
    Except StoreError Cache := do
  match ← openRead s name disk with
  | none => return c
  | some table => scan table c disk

/-- On a disk that works, only a foreign table keeps a cache from being filled. -/
theorem fill_working (s : Store) (name : String) (c : Cache) :
    fill s name c = match s.bucketD name with
      | .error fault => .error (.table fault)
      | .ok table => .ok (loadKeys table c) := by
  simp only [fill, openRead_working, Store.bucketD]
  rcases s.bucket? name with fault | _ | table
  · rfl
  · exact congrArg Except.ok (List.foldl_nil).symm
  · exact scan_working table c

/-- Makes another bucket active. A bucket that is new to the backend gets a cache of the keys that the
store holds for it. -/
def switch (b : Backend) (name : String) (disk : Disk := Disk.working) :
    Except StoreError Unit × Backend :=
  match BucketName.ofString name with
  | .error fault => (.error (.invalidBucketName fault), b)
  | .ok name =>
    match b.registry.ensure name.text fun c => fill b.store name.text c disk with
    | .error e => (.error e, b)
    | .ok registry => (.ok (), { b with registry, active := name.text })

/-- The counters of a backend at one moment. -/
structure Stats where
  /-- The active bucket. -/
  bucket : String
  /-- The number of buckets with a cache. -/
  buckets : Nat
  /-- The number of keys stored in the active bucket. -/
  keys : Nat
  /-- The number of authoritative reads. -/
  reads : Nat
  /-- The number of operations decided from the cache alone. -/
  shortCircuits : Nat
  /-- The statistics of the active bucket's cache. -/
  cache : Cache.Stats
  deriving DecidableEq, Repr

/-- The number of keys that a store holds for a bucket; a bucket without a table holds none. -/
def countKeys (s : Store) (name : String) (disk : Disk) : Except StoreError Nat := do
  match ← openRead s name disk with
  | none => return 0
  | some table =>
    disk.access .count
    return table.size

/-- The counters as they stand. -/
def stats (b : Backend) (disk : Disk := Disk.working) : Except StoreError Stats := do
  return {
    bucket := b.active
    buckets := b.registry.size
    keys := ← countKeys b.store b.active disk
    reads := b.reads
    shortCircuits := b.shortCircuits
    cache := b.cache.stats }

/-- On a disk that works, only a foreign table keeps the counters from being shown. -/
theorem stats_working (b : Backend) :
    b.stats = match b.store.bucketD b.active with
      | .error fault => .error (.table fault)
      | .ok table => .ok {
          bucket := b.active
          buckets := b.registry.size
          keys := table.size
          reads := b.reads
          shortCircuits := b.shortCircuits
          cache := b.cache.stats } := by
  simp only [stats, countKeys, openRead_working, Store.bucketD]
  rcases b.store.bucket? b.active with fault | _ | table <;> rfl

/-- The buckets that have a cache, in ascending order. -/
def knownBuckets (b : Backend) : List String :=
  b.registry.names

end Backend

end BucketStore
