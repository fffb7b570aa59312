import BucketStore.Disk
import BucketStore.Key
import Std.Data.TreeMap

/-!
# Tables and Stores

A **table** maps keys to values. A **store** is what one store file holds: tables by name. A table of
a store is a bucket's table, or a **foreign** one whose columns have other types; a foreign table
keeps its name occupied and can be dropped, but not read or written as a bucket.
-/

namespace BucketStore

/-- A bucket's table. -/
abbrev Table := Std.TreeMap Key Value

/-- The column types of a stored table. -/
inductive Columns where
  /-- Bytes to bytes: a bucket's table. -/
  | bytes
  /-- Text to numbers: a foreign table. -/
  | counts
  deriving DecidableEq, Repr

/-- The column types as messages name them. -/
def Columns.describe : Columns → String
  | .bytes => "Table<&[u8], &[u8]>"
  | .counts => "Table<&str, u64>"

/-- A table as it is stored. -/
inductive Stored where
  /-- A bucket's table. -/
  | bucket (table : Table)
  /-- A table with other columns. -/
  | foreign

/-- Why a table could not be opened or dropped. -/
inductive TableFault where
  /-- The table was opened under column types that are not its own. -/
  | mistyped (name : String) (actual : Columns)
  /-- The disk has failed. -/
  | storage (fault : StorageFault)
  deriving DecidableEq, Repr

/-- What is wrong with the table, in words. -/
def TableFault.message : TableFault → String
  | .mistyped name actual => s!"{name} is of type {actual.describe}"
  | .storage fault => fault.reason

/-- The tables of a store file, by name. -/
abbrev Store := Std.TreeMap String Stored

namespace Store

/-- The table of a bucket, or none if the bucket has no table. -/
def bucket? (s : Store) (name : String) : Except TableFault (Option Table) :=
  match s[name]? with
  | none => .ok none
  | some (.bucket table) => .ok (some table)
  | some .foreign => .error (.mistyped name .counts)

/-- The table of a bucket, with a missing table counting as an empty one. -/
def bucketD (s : Store) (name : String) : Except TableFault Table :=
  (s.bucket? name).map (·.getD ∅)

/-- Gives a bucket a table. -/
def setBucket (s : Store) (name : String) (table : Table) : Store :=
  s.insert name (.bucket table)

/-- Makes sure that a bucket has a table; a missing one is created empty. -/
def provide (s : Store) (name : String) : Except TableFault Store :=
  (s.bucketD name).map (s.setBucket name)

/-- Makes sure that there is a foreign table of that name. -/
def provideForeign (s : Store) (name : String) : Except TableFault Store :=
  match s[name]? with
  | some (.bucket _) => .error (.mistyped name .bytes)
  | _ => .ok (s.insert name .foreign)

/-- Drops a table, whatever its columns. -/
def drop (s : Store) (name : String) : Store :=
  s.erase name

/-! ### Look-ups -/

/-- Giving a bucket a table changes what is seen of that bucket only. -/
theorem bucket?_setBucket (s : Store) (name other : String) (table : Table) :
    (s.setBucket name table).bucket? other =
      if name = other then .ok (some table) else s.bucket? other := by
  simp only [bucket?, setBucket]
  rw [Std.TreeMap.getElem?_insert]
  by_cases h : name = other <;> simp [h]

/-- Dropping a table changes what is seen of that name only. -/
theorem bucket?_drop (s : Store) (name other : String) :
    (s.drop name).bucket? other = if name = other then .ok none else s.bucket? other := by
  simp only [bucket?, drop]
  rw [Std.TreeMap.getElem?_erase]
  by_cases h : name = other <;> simp [h]

end Store

end BucketStore
