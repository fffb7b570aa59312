import BucketStore.Cache

/-!
# Pending Changes

While a write transaction runs, its changes of membership are **pending**. A key that becomes present
is added to the cache at once, so that no reader is told *absent* of a key that is about to be there;
removals and resets wait, so that no reader is told *absent* of a key that is still there. When the
transaction commits, what waited is applied; when it does not, what was added is taken back.
-/

namespace BucketStore

/-- The notes of one transaction. -/
structure Pending where
  /-- The keys that became present, oldest first; the cache has them already. -/
  inserted : List Key := []
  /-- The keys that were removed, oldest first; the cache still has them. -/
  removed : List Key := []
  /-- Whether the whole bucket was dropped. -/
  reset : Bool := false
  deriving DecidableEq, Repr

namespace Pending

/-- Notes a key that became present. The cache takes it in at once; see `Cache.add`. -/
def noteInsert (p : Pending) (key : Key) : Pending :=
  { p with inserted := p.inserted ++ [key] }

/-- Notes a key that was removed. -/
def noteRemove (p : Pending) (key : Key) : Pending :=
  { p with removed := p.removed ++ [key] }

/-- Notes that the whole bucket was dropped. -/
def noteReset (p : Pending) : Pending :=
  { p with reset := true }

/-- The cache after the **commit**: the removals, oldest first, and then the reset. -/
def commit (p : Pending) (c : Cache) : Cache :=
  let c := p.removed.foldl Cache.remove c
  if p.reset then c.reset else c

/-- The cache after the transaction was **dropped**: the insertions are taken back, oldest first. -/
def retract (p : Pending) (c : Cache) : Cache :=
  p.inserted.foldl Cache.remove c

end Pending

end BucketStore
