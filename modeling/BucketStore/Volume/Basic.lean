import BucketStore.Table
import BucketStore.Volume.Path

/-!
# Volumes

A **volume** is a tree of directories and files, with the working directory at its root. A file holds
bytes or a store, or it is **leased**: its store is open somewhere and out of reach until it is given
back. Locations are lists of names from the root; a path is resolved to a location by walking it.

* `lookup` resolves a path for reading, `makeDirectory` and `makeDirectories` create directories,
  `writeFile` and `readFile` move whole files;
* `lease` takes the store out of a file, creating file and store where there is none, and `release`
  gives it back.
-/

namespace BucketStore

/-- A place in the tree: names from the root. -/
abbrev Location := List String

/-- What a file holds. -/
inductive Content where
  /-- Bytes that are no store. -/
  | bytes (data : List UInt8)
  /-- A store. -/
  | store (s : Store)
  /-- A store that is open. -/
  | leased

/-- What stands at a location. -/
inductive Node where
  /-- A directory. -/
  | directory
  /-- A file. -/
  | file (content : Content)

/-- Why the system refuses to touch a path. -/
inductive SystemFault where
  /-- Nothing is there. -/
  | notFound
  /-- Something is there already. -/
  | alreadyExists
  /-- A file stands where the path needs a directory. -/
  | notDirectory
  /-- A directory stands where a file is needed. -/
  | isDirectory
  /-- A name or the whole path is too long. -/
  | nameTooLong
  /-- The path contains a NUL character. -/
  | nulInPath
  deriving DecidableEq, Repr

/-- The fault in the system's words. -/
def SystemFault.message : SystemFault → String
  | .notFound => "No such file or directory (os error 2)"
  | .alreadyExists => "File exists (os error 17)"
  | .notDirectory => "Not a directory (os error 20)"
  | .isDirectory => "Is a directory (os error 21)"
  | .nameTooLong => "File name too long (os error 36)"
  | .nulInPath => "file name contained an unexpected NUL byte"

/-- Why a store cannot be opened. -/
inductive OpenFault where
  /-- The store is open already. -/
  | locked
  /-- The file holds something else. -/
  | notAStore
  /-- The file cannot be reached. -/
  | system (fault : SystemFault)
  deriving DecidableEq, Repr

/-- The fault in words. -/
def OpenFault.message : OpenFault → String
  | .locked => "Database already open. Cannot acquire lock."
  | .notAStore => "I/O error: invalid data"
  | .system fault => "I/O error: " ++ fault.message

/-- Why a file cannot be read as text. -/
inductive ReadFault where
  /-- The file cannot be reached. -/
  | system (fault : SystemFault)
  /-- The bytes are no UTF-8 text. -/
  | notText
  deriving DecidableEq, Repr

/-- The fault in words. -/
def ReadFault.message : ReadFault → String
  | .system fault => fault.message
  | .notText => "stream did not contain valid UTF-8"

/-- A tree of directories and files. -/
structure Volume where
  /-- What stands at each location but the root, which is a directory. -/
  nodes : Std.TreeMap Location Node

namespace Volume

/-- The volume with an empty working directory. -/
def empty : Volume :=
  ⟨∅⟩

/-- What stands at a location. -/
def at? (v : Volume) (place : Location) : Option Node :=
  if place = [] then some .directory else v.nodes[place]?

/-- Puts something at a location. -/
def put (v : Volume) (place : Location) (node : Node) : Volume :=
  { v with nodes := v.nodes.insert place node }

/-! ### Walking paths -/

/-- The greatest length of a name in bytes. -/
def longestName : Nat := 255

/-- The greatest length of a path in bytes. -/
def longestPath : Nat := 4095

/-- The directory that a walk from a directory along some names ends in. -/
def walk (v : Volume) (place : Location) : List String → Except SystemFault Location
  | [] => .ok place
  | name :: rest =>
    if name = "." then walk v place rest
    else if name = ".." then walk v place.dropLast rest
    else if longestName < name.utf8ByteSize then .error .nameTooLong
    else match v.at? (place ++ [name]) with
      | none => .error .notFound
      | some (.file _) => .error .notDirectory
      | some .directory => walk v (place ++ [name]) rest

/-- The faults of a path that no walk is started for. -/
def refuse (text : String) : Except SystemFault Unit :=
  if text.toList.contains '\x00' then .error .nulInPath
  else if text = "" then .error .notFound
  else if longestPath < text.utf8ByteSize then .error .nameTooLong
  else .ok ()

/-- The end of a path: a directory reached by walking, or a name in one. -/
inductive Target where
  /-- The path ends in this directory by itself, as `.` and `..` do. -/
  | here (place : Location)
  /-- The path ends in a name, at this location. -/
  | named (place : Location)
  deriving DecidableEq, Repr

/-- The target of some names. -/
def target (v : Volume) (names : List String) : Except SystemFault Target :=
  match names.getLast? with
  | none => .ok (.here [])
  | some last =>
    if last = "." ∨ last = ".." then (v.walk [] names).map .here
    else do
      let place ← v.walk [] names.dropLast
      if longestName < last.utf8ByteSize then .error .nameTooLong
      else .ok (.named (place ++ [last]))

/-- What a path leads to. -/
def lookup (v : Volume) (text : String) : Except SystemFault Node := do
  refuse text
  let path := Path.ofString text
  match ← v.target path.names with
  | .here _ => .ok .directory
  | .named place =>
    match v.at? place with
    | none => .error .notFound
    | some .directory => .ok .directory
    | some (.file content) =>
      if path.slashed then .error .notDirectory else .ok (.file content)

/-- Whether a path leads to anything. -/
def contains (v : Volume) (text : String) : Bool :=
  (v.lookup text).isOk

/-! ### Directories -/

/-- Creates a directory under some names. -/
def makeNamed (v : Volume) (names : List String) : Except SystemFault Volume := do
  match ← v.target names with
  | .here _ => .error .alreadyExists
  | .named place =>
    match v.at? place with
    | some _ => .error .alreadyExists
    | none => .ok (v.put place .directory)

/-- Whether some names lead to a directory. -/
def isDirectory (v : Volume) (names : List String) : Bool :=
  match v.target names with
  | .error _ => false
  | .ok (.here _) => true
  | .ok (.named place) =>
    match v.at? place with
    | some .directory => true
    | _ => false

/-- Creates the directory under some names, and the ones above it that are missing; the volume keeps
what was created before a fault. A directory that is there already is left as it is. -/
def makeAll (v : Volume) (names : List String) : Except SystemFault Unit × Volume :=
  if _h : names = [] then (.ok (), v)
  else match v.makeNamed names with
    | .ok v => (.ok (), v)
    | .error .notFound =>
      match makeAll v names.dropLast with
      | (.error fault, v) => (.error fault, v)
      | (.ok (), v) =>
        match v.makeNamed names with
        | .ok v => (.ok (), v)
        | .error fault => (if v.isDirectory names then .ok () else .error fault, v)
    | .error fault => (if v.isDirectory names then .ok () else .error fault, v)
termination_by names.length
decreasing_by
  have := List.length_pos_iff.mpr _h
  simp only [List.length_dropLast]
  omega

/-- Creates the directory of a path, and the ones above it that are missing. -/
def makeDirectories (v : Volume) (path : Path) : Except SystemFault Unit × Volume :=
  if path.names.any (·.toList.contains '\x00') then (.error .nulInPath, v)
  else v.makeAll path.names

/-- Creates the directories above a path's last name. -/
def makeParents (v : Volume) (path : Path) : Except SystemFault Unit × Volume :=
  match path.parent? with
  | none => (.ok (), v)
  | some parent => v.makeDirectories parent

/-! ### Files -/

/-- The file that a path opens for writing, and what it holds; a missing file is created empty. -/
def openFile (v : Volume) (text : String) : Except SystemFault (Location × Content) := do
  refuse text
  let path := Path.ofString text
  match ← v.target path.names with
  | .here _ => .error .isDirectory
  | .named place =>
    if path.slashed then .error .isDirectory
    else match v.at? place with
      | none => .ok (place, .bytes [])
      | some .directory => .error .isDirectory
      | some (.file content) => .ok (place, content)

/-- Writes a whole file. -/
def writeFile (v : Volume) (text : String) (data : List UInt8) : Except SystemFault Volume :=
  (v.openFile text).map fun opened => v.put opened.1 (.file (.bytes data))

/-- The text of a file. -/
def readText (v : Volume) (text : String) : Except ReadFault String := do
  match v.lookup text with
  | .error fault => .error (.system fault)
  | .ok .directory => .error (.system .isDirectory)
  | .ok (.file (.bytes data)) =>
    match String.fromUTF8? ⟨data.toArray⟩ with
    | some s => .ok s
    | none => .error .notText
  | .ok (.file _) => .error .notText

/-! ### Stores -/

/-- **Leases** the store of a file: the file's location, the store, and the volume in which the file is
leased. A missing or empty file becomes an empty store. -/
def lease (v : Volume) (text : String) : Except OpenFault (Location × Store × Volume) :=
  match v.openFile text with
  | .error fault => .error (.system fault)
  | .ok (_, .leased) => .error .locked
  | .ok (place, .store s) => .ok (place, s, v.put place (.file .leased))
  | .ok (place, .bytes []) => .ok (place, ∅, v.put place (.file .leased))
  | .ok (_, .bytes (_ :: _)) => .error .notAStore

/-- Gives a store back to its file. -/
def release (v : Volume) (place : Location) (s : Store) : Volume :=
  v.put place (.file (.store s))

end Volume

end BucketStore
