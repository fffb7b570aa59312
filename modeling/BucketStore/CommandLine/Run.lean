import BucketStore.Backend.Open
import BucketStore.Backend.StatsReport
import BucketStore.CommandLine.Failure
import BucketStore.CommandLine.Invocation

/-!
# Running a Command

`run` is the program as a function: from a volume, an environment and arguments it gives an outcome and
the volume afterwards. Each run opens the store, makes one request and closes the store again, so that
nothing but the volume is carried from one run to the next.
-/

namespace BucketStore.CommandLine

/-- What a run shows. -/
structure Outcome where
  /-- The exit code. -/
  exit : Nat
  /-- The bytes on the standard output. -/
  output : List UInt8
  /-- The text on the error output. -/
  errors : String
  deriving DecidableEq, Repr

/-- A line of output. -/
def line (text : String) : List UInt8 :=
  bytes text ++ [0x0A]

/-- How the command line is used. -/
def usage : String :=
  "Usage: bloomkv-cli [--config FILE] [--db FILE] [--bucket NAME] [--log-level LEVEL] COMMAND\n\n" ++
  "Commands: init, get KEY, set KEY VALUE, add KEY VALUE, replace KEY VALUE,\n" ++
  "  delete KEY [--only-if-exists], incr KEY [AMOUNT] [--create],\n" ++
  "  decr KEY [AMOUNT] [--create], flush, stats"

/-- The outcome of a command line that runs no command. -/
def Stop.outcome : Stop → Outcome
  | .help => ⟨0, line usage, ""⟩
  | .version => ⟨0, line "bloomkv-cli 0.1.0", ""⟩
  | .misuse => ⟨2, [], usage⟩

/-! ### Answers -/

/-- The output of an answer. -/
def print : Request → Answer → List UInt8
  | .put .., .done => line "STORED"
  | _, .done => line "OK"
  | _, .value (some value) => value ++ [0x0A]
  | _, .value none => line "(not found)"
  | _, .deleted true => line "DELETED"
  | _, .deleted false => line "NOT_FOUND"
  | _, .tally n => line (toString n)
  | _, .stats s => line s.toJson

/-- The output of a request's result. That the condition of a write does not hold is an answer, and no
failure. -/
def printResult (r : Request) : Except StoreError Answer → Except StoreError (List UInt8)
  | .ok a => .ok (print r a)
  | .error e =>
    match r, e with
    | .put .., .keyExists .. | .put .., .keyNotFound .. => .ok (line "NOT_STORED")
    | _, _ => .error e

/-! ### Commands -/

/-- Performs a command under a configuration. -/
def Command.perform (c : Config) (v : Volume) : Command → Except Failure (List UInt8) × Volume
  | .init =>
    match Backend.createBucket v c.store.path c.store.bucket with
    | (.error e, v) => (.error (.operation e), v)
    | (.ok (), v) => (.ok (line "OK"), v)
  | .request r =>
    match Backend.openConfigured c v with
    | (.error e, v) => (.error (.opening c.store.path c.store.bucket e), v)
    | (.ok b, v) =>
      let (result, b) := b.serve r
      ((printResult r result).mapError .operation, b.close v)

/-- Performs an invocation. -/
def Invocation.perform (inv : Invocation) (v : Volume) : Except Failure (List UInt8) × Volume :=
  match Config.load v inv.configPath with
  | .error e => (.error (.loading inv.configPath e), v)
  | .ok c =>
    match (inv.override c).fault? with
    | some e => (.error (.config e), v)
    | none => inv.command.perform (inv.override c) v

/-- **Runs** the program. -/
def run (v : Volume) (environment : Option String) (args : List String) : Outcome × Volume :=
  match Invocation.ofArguments environment args with
  | .error stop => (stop.outcome, v)
  | .ok inv =>
    match inv.perform v with
    | (.ok output, v) => (⟨0, output, ""⟩, v)
    | (.error failure, v) => (⟨1, [], failure.report⟩, v)

end BucketStore.CommandLine
