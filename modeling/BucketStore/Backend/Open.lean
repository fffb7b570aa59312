import BucketStore.Backend.Basic
import BucketStore.Config

/-!
# Opening and Closing

A backend is opened on a store file of a volume and leases the store until it is closed.

* `Backend.openWith` needs the bucket to exist and rebuilds its cache from the stored keys; whether it
  succeeds or fails, no table is created, changed or removed.
* `Backend.createBucket` makes the file, the directories above it and the bucket where they are
  missing, and leaves all else alone.
-/

namespace BucketStore.Backend

/-- The cache of an existing bucket of a store. -/
def existing (s : Store) (bucket path : String) (c : Cache) (disk : Disk := Disk.working) :
    Except StoreError Cache := do
  match ← openRead s bucket disk with
  | none => throw (.initialization (.noBucket bucket path))
  | some table => scan table c disk

/-- On a disk that works, the cache is filled from the table of the bucket if there is one. -/
theorem existing_working (s : Store) (bucket path : String) (c : Cache) :
    existing s bucket path c = match s.bucket? bucket with
      | .error fault => .error (.table fault)
      | .ok none => .error (.initialization (.noBucket bucket path))
      | .ok (some table) => .ok (loadKeys table c) := by
  simp only [existing, openRead_working]
  rcases s.bucket? bucket with fault | _ | table
  · rfl
  · rfl
  · exact scan_working table c

/-- **Opens** the store of a file with a bucket active, all caches having the given shape. Where the
bucket is not found, the file is left as a store all the same. -/
def openWith (shape : Filter.Shape) (v : Volume) (path bucket : String)
    (disk : Disk := Disk.working) : Except StoreError Backend × Volume :=
  match BucketName.ofString bucket with
  | .error fault => (.error (.initialization (.badName bucket fault)), v)
  | .ok name =>
    match v.lease path with
    | .error fault => (.error (.initialization (.unopenable path fault)), v)
    | .ok (place, store, leased) =>
      match (Registry.empty shape).ensure name.text fun c => existing store name.text path c disk with
      | .error e => (.error e, leased.release place store)
      | .ok registry =>
        (.ok { path, place, store, registry, active := name.text, reads := 0, shortCircuits := 0 },
          leased)

/-- Opens the store that a configuration names. -/
def openConfigured (c : Config) (v : Volume) (disk : Disk := Disk.working) :
    Except StoreError Backend × Volume :=
  openWith c.filter.shape v c.store.path c.store.bucket disk

/-- Gives the store back to its file. -/
def close (b : Backend) (v : Volume) : Volume :=
  v.release b.place b.store

/-- The store after a transaction that makes sure that a bucket has a table. -/
def provide (s : Store) (name : String) (disk : Disk) : Except StoreError Store := do
  disk.access .beginWrite
  disk.access .openTable
  let provided ← (s.provide name).mapError .table
  disk.access .commit
  return provided

/-- On a disk that works, only a foreign table is in the way of a bucket. -/
theorem provide_working (s : Store) (name : String) :
    provide s name Disk.working = (s.provide name).mapError .table := by
  simp only [provide]
  rcases s.provide name with fault | s' <;> rfl

/-- Makes sure that a store file holds a bucket. The name is checked before anything is touched. -/
def createBucket (v : Volume) (path bucket : String) (disk : Disk := Disk.working) :
    Except StoreError Unit × Volume :=
  match BucketName.ofString bucket with
  | .error fault => (.error (.invalidBucketName fault), v)
  | .ok name =>
    match v.makeParents (Path.ofString path) with
    | (.error fault, v) => (.error (.io fault), v)
    | (.ok (), v) =>
      match v.lease path with
      | .error fault => (.error (.database fault), v)
      | .ok (place, store, leased) =>
        match provide store name.text disk with
        | .error e => (.error e, leased.release place store)
        | .ok store => (.ok (), leased.release place store)

end BucketStore.Backend
