/-!
# Disks

A request reaches its tables by **accesses** to the disk, and the disk may fail at any of them. What
the disk does is an argument of every operation: it says which accesses of one request fail, and with
what fault. An operation that is given no disk runs on one that works.

No request makes the same access twice, so that a disk need not remember anything.
-/

namespace BucketStore

/-- The disk under a store has failed. -/
structure StorageFault where
  /-- What has happened, in words. -/
  reason : String
  deriving DecidableEq, Repr

/-- One **access** to the disk. -/
inductive Access where
  /-- A read transaction begins. -/
  | beginRead
  /-- A write transaction begins. -/
  | beginWrite
  /-- A write transaction is committed. -/
  | commit
  /-- A table is opened in a read transaction. -/
  | viewTable
  /-- A table is opened in a write transaction. -/
  | openTable
  /-- A table is dropped. -/
  | dropTable
  /-- The value of a key is read. -/
  | find
  /-- A key is written. -/
  | insert
  /-- A key is removed. -/
  | remove
  /-- A scan of the keys of a table begins. -/
  | listKeys
  /-- A scan comes to the key of an index. -/
  | entry (index : Nat)
  /-- The keys of a table are counted. -/
  | count
  deriving DecidableEq, Repr

/-- A **disk**, as one request finds it: the fault of every access that fails. -/
abbrev Disk := Access → Option StorageFault

namespace Disk

/-- The disk that works. -/
def working : Disk :=
  fun _ => none

/-- The disk that fails at one access and works otherwise. -/
def failingAt (a : Access) (fault : StorageFault) : Disk :=
  fun other => if other = a then some fault else none

end Disk

end BucketStore
