import BucketStore.Config
import BucketStore.StoreError

/-!
# Failures of a Command

A command that fails is reported on the error output: what failed comes first, and then the **causes**,
each one the reason for the one before. A single cause is indented; several are numbered from zero.
-/

namespace BucketStore.CommandLine

/-- Why a command failed. -/
inductive Failure where
  /-- The configuration file gives no configuration. -/
  | loading (path : String) (e : ConfigError)
  /-- The options make a bad configuration. -/
  | config (e : ConfigError)
  /-- The store cannot be opened on the bucket. -/
  | opening (path bucket : String) (e : StoreError)
  /-- The operation failed. -/
  | operation (e : StoreError)
  deriving Repr

namespace Failure

/-- What failed, in words. -/
def message : Failure → String
  | .loading path _ => s!"loading {path}"
  | .config e => e.message
  | .opening path bucket _ =>
    s!"opening {path} (run `bloomkv-cli init` to create bucket '" ++ bucket ++ "')"
  | .operation e => e.message

/-- The causes, in words. -/
def causes : Failure → List String
  | .loading _ e => e.message :: e.cause?.toList
  | .config e => e.cause?.toList
  | .opening _ _ e => e.message :: e.cause?.toList
  | .operation e => e.cause?.toList

/-- A cause behind its mark; further lines of it are indented as far as the first. -/
def item (mark cause : String) : String :=
  let margin := "\n" ++ String.ofList (List.replicate mark.length ' ')
  "\n" ++ mark ++ margin.intercalate (cause.splitOn "\n")

/-- The mark of a numbered cause: the number in five columns, and a colon. -/
def mark (n : Nat) : String :=
  let digits := toString n
  String.ofList (List.replicate (5 - digits.length) ' ') ++ digits ++ ": "

/-- A list of causes. -/
def list : List String → String
  | [] => ""
  | [cause] => "\n\nCaused by:" ++ item "    " cause
  | causes => "\n\nCaused by:" ++ String.join (causes.zipIdx.map fun (cause, n) => item (mark n) cause)

/-- The report of a failure. -/
def report (f : Failure) : String :=
  "Error: " ++ f.message ++ list f.causes

end Failure

end BucketStore.CommandLine
