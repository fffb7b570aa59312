import BucketStore.Filter.Basic

/-!
# Membership Caches

A **membership cache** stands in front of one bucket: a counting filter of the keys that the bucket
holds, with statistics of its use. Only its negative answers carry authority: *absent* means that
the bucket does not hold the key, *present* that it may.
-/

namespace BucketStore

/-- The membership cache of a bucket. -/
structure Cache where
  /-- The filter of the keys that are present. -/
  filter : Filter
  /-- The number of tests. -/
  tests : Nat
  /-- The number of tests that were answered *absent*. -/
  negatives : Nat
  /-- The number of keys added. -/
  adds : Nat
  /-- The number of keys removed. -/
  removes : Nat
  /-- The number of times all keys were forgotten. -/
  resets : Nat

namespace Cache

/-- The cache of a shape before any use. -/
def empty (shape : Filter.Shape) : Cache where
  filter := .empty shape
  tests := 0
  negatives := 0
  adds := 0
  removes := 0
  resets := 0

/-- Adds a key. -/
def add (c : Cache) (key : Key) : Cache :=
  { c with filter := c.filter.add key, adds := c.adds + 1 }

/-- Removes a key. -/
def remove (c : Cache) (key : Key) : Cache :=
  { c with filter := c.filter.remove key, removes := c.removes + 1 }

/-- Forgets all keys. -/
def reset (c : Cache) : Cache :=
  { c with filter := c.filter.clear, resets := c.resets + 1 }

/-- The answer of a test: `false` only if the key is certainly absent. -/
def mayContain (c : Cache) (key : Key) : Bool :=
  c.filter.contains key

/-- A test leaves its trace in the statistics. -/
def noteTest (c : Cache) (key : Key) : Cache :=
  { c with
    tests := c.tests + 1
    negatives := if c.mayContain key then c.negatives else c.negatives + 1 }

/-- The statistics of a cache at one moment. -/
structure Stats where
  /-- The number of tests. -/
  tests : Nat
  /-- The number of tests that were answered *absent*. -/
  negatives : Nat
  /-- The number of keys added. -/
  adds : Nat
  /-- The number of keys removed. -/
  removes : Nat
  /-- The number of times all keys were forgotten. -/
  resets : Nat
  /-- The number of slots that are counted. -/
  occupied : Nat
  /-- The number of slots. -/
  slots : Nat
  deriving DecidableEq, Repr

/-- The statistics as they stand. -/
def stats (c : Cache) : Stats where
  tests := c.tests
  negatives := c.negatives
  adds := c.adds
  removes := c.removes
  resets := c.resets
  occupied := c.filter.occupied
  slots := c.filter.shape.slots

end Cache

end BucketStore
