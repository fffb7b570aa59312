import BucketStore.CommandLine.Run
import BucketStore.StoreImage

/-!
# The Program

The outer layer of the command line: it copies what stands at the two paths of a run from the system into
a volume, runs the command there, and copies a changed store back.
-/

namespace BucketStore.Main

/-- What stands at a path of the system. -/
def nodeAt (path : String) : IO (Option Node) := do
  try
    let data := (← IO.FS.readBinFile path).toList
    match Store.ofImage? data with
    | some s => return some (.file (.store s))
    | none => return some (.file (.bytes data))
  catch
    | .noFileOrDirectory .. => return none
    | .inappropriateType _ 21 _ => return some .directory
    | .inappropriateType .. => return none
    | e => throw e

/-- A place in a volume and its path in the system, for every name on the way of a path. -/
def steps (text : String) : List (Location × String) :=
  let path := Path.ofString text
  let root := if path.absolute then "/" else ""
  let step (before : List (Location × String) × Location × String) (name : String) :
      List (Location × String) × Location × String :=
    let (done, place, way) := before
    let way := way ++ name
    if name = "." then (done, place, way ++ "/")
    else if name = ".." then (done, place.dropLast, way ++ "/")
    else (done ++ [(place ++ [name], way)], place ++ [name], way ++ "/")
  (path.names.foldl step ([], [], root)).1

/-- Copies what stands on the way of a path into a volume. -/
def fetch (v : Volume) (text : String) : IO Volume := do
  let mut v := v
  for (place, way) in steps text do
    match ← nodeAt way with
    | some node => v := v.put place node
    | none => pure ()
  return v

/-- Copies new directories and changed stores on the way of a path back to the system. -/
def deliver (before after : Volume) (text : String) : IO Unit := do
  for (place, way) in steps text do
    match before.at? place, after.at? place with
    | none, some .directory => IO.FS.createDir way
    | some (.file (.store old)), some (.file (.store new)) =>
      if old.toImage ≠ new.toImage then IO.FS.writeBinFile way ⟨new.toImage.toArray⟩
    | _, some (.file (.store new)) => IO.FS.writeBinFile way ⟨new.toImage.toArray⟩
    | _, _ => pure ()

/-- The path of the store file of a run, if the run gets that far. -/
def storePath? (v : Volume) (environment : Option String) (args : List String) : Option String := do
  let inv ← (CommandLine.Invocation.ofArguments environment args).toOption
  let c ← (Config.load v inv.configPath).toOption
  some (inv.override c).store.path

/-- The volume that a run sees. -/
def volumeFor (environment : Option String) (args : List String) : IO Volume := do
  match CommandLine.Invocation.ofArguments environment args with
  | .error _ => return .empty
  | .ok inv =>
    let v ← fetch .empty inv.configPath
    match storePath? v environment args with
    | none => return v
    | some path => fetch v path

end BucketStore.Main

open BucketStore in
/-- Runs one command. -/
def main (args : List String) : IO UInt32 := do
  let environment ← IO.getEnv "BLOOMKV_DB"
  let before ← Main.volumeFor environment args
  let (outcome, after) := CommandLine.run before environment args
  if let some path := Main.storePath? before environment args then
    Main.deliver before after path
  (← IO.getStdout).write ⟨outcome.output.toArray⟩
  unless outcome.errors.isEmpty do
    IO.eprintln outcome.errors
  return UInt32.ofNat outcome.exit
