import BucketStore.Backend.Basic

/-!
# Requests

The operations of a backend as data: a **request** names one operation with its arguments, and
`Backend.serve` answers it. What a client sees of a backend is the list of answers to its requests
(`Backend.answers`); `Backend.after` is where the backend stands then.
-/

namespace BucketStore

/-- One operation of a backend. -/
inductive Request where
  /-- Write a key under a condition. -/
  | put (mode : WriteMode) (key : Key) (value : Value)
  /-- Read a key. -/
  | get (key : Key)
  /-- Delete a key. -/
  | delete (key : Key) (onlyIfExists : Bool)
  /-- Change a tally. -/
  | adjust (change : Adjustment) (create : Bool) (key : Key)
  /-- Drop every key of the active bucket. -/
  | flush
  /-- Make another bucket active. -/
  | switch (name : String)
  /-- Show the counters. -/
  | stats
  deriving DecidableEq, Repr

/-- The result of a request that succeeded. -/
inductive Answer where
  /-- The operation has no result. -/
  | done
  /-- The value of a key, if it is stored. -/
  | value (value : Option Value)
  /-- Whether a key was deleted. -/
  | deleted (removed : Bool)
  /-- The new value of a tally. -/
  | tally (n : Int)
  /-- The counters. -/
  | stats (s : Backend.Stats)
  deriving DecidableEq, Repr

namespace Backend

/-- Answers one request. -/
def serve (b : Backend) (request : Request) (disk : Disk := Disk.working) :
    Except StoreError Answer × Backend :=
  match request with
  | .put mode key value => (b.put mode key value disk).map (·.map fun _ => .done) id
  | .get key => (b.get key disk).map (·.map .value) id
  | .delete key onlyIfExists => (b.delete key onlyIfExists disk).map (·.map .deleted) id
  | .adjust change create key => (b.adjust change create key disk).map (·.map .tally) id
  | .flush => (b.flush disk).map (·.map fun _ => .done) id
  | .switch name => (b.switch name disk).map (·.map fun _ => .done) id
  | .stats => ((b.stats disk).map .stats, b)

/-- The answers to a row of requests, one for each, failures included. -/
def answers (b : Backend) : List Request → List (Except StoreError Answer)
  | [] => []
  | request :: rest => (b.serve request).1 :: answers (b.serve request).2 rest

/-- The backend after a row of requests, whether they succeeded or failed. -/
def after (b : Backend) : List Request → Backend
  | [] => b
  | request :: rest => after (b.serve request).2 rest

end Backend

end BucketStore
