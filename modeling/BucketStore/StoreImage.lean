import BucketStore.Table
import BucketStore.Text.Utf8

/-!
# Store Images

A store is kept in a file as its **image**: a header, the number of tables, and the tables one after the
other, each with its name. Counts and lengths take eight bytes, the lowest first, and every text and
every row of bytes follows its length.

* `Store.toImage` writes an image;
* `Store.ofImage?` reads one, and refuses a file that is none or goes on after its end.
-/

namespace BucketStore

namespace StoreImage

/-- The bytes that every image starts with. -/
def header : List UInt8 :=
  Text.encode ['b', 'u', 'c', 'k', 'e', 't', 's', '\n']

/-! ### Writing -/

/-- A number as a row of bytes of a given length, the lowest byte first. -/
def lowFirst : Nat → Nat → List UInt8
  | 0, _ => []
  | count + 1, n => UInt8.ofNat n :: lowFirst count (n / 256)

/-- A number in eight bytes. -/
def number (n : Nat) : List UInt8 :=
  lowFirst 8 n

/-- A row of bytes after its length. -/
def block (data : List UInt8) : List UInt8 :=
  number data.length ++ data

/-- A table after its kind and, for a bucket, the number of its keys. -/
def table : Stored → List UInt8
  | .foreign => [0]
  | .bucket t => 1 :: number t.size ++ t.toList.flatMap fun (key, value) => block key ++ block value

/-! ### Reading -/

/-- Takes something from the front of a row of bytes. -/
abbrev Reader := StateT (List UInt8) Option

/-- Takes a given number of bytes. -/
def take (count : Nat) : Reader (List UInt8) := do
  let data ← get
  guard (count ≤ data.length)
  set (data.drop count)
  return data.take count

/-- Takes a number in eight bytes. -/
def takeNumber : Reader Nat := do
  return (← take 8).foldr (fun b n => b.toNat + 256 * n) 0

/-- Takes a row of bytes after its length. -/
def takeBlock : Reader (List UInt8) := do
  take (← takeNumber)

/-- Takes a given number of things. -/
def takeMany {α : Type} (item : Reader α) : Nat → Reader (List α)
  | 0 => return []
  | count + 1 => do
    let a ← item
    return a :: (← takeMany item count)

/-- Takes a table. -/
def takeTable : Reader Stored := do
  match ← take 1 with
  | [0] => return .foreign
  | [1] =>
    let entries ← takeMany (do return (← takeBlock, ← takeBlock)) (← takeNumber)
    return .bucket (Std.TreeMap.ofList entries)
  | _ => failure

/-- Takes a table and its name. -/
def takeNamed : Reader (String × Stored) := do
  let name := String.ofList (Text.decodeLossy (← takeBlock))
  return (name, ← takeTable)

/-- Takes a whole image. -/
def takeStore : Reader Store := do
  guard ((← take header.length) = header)
  return Std.TreeMap.ofList (← takeMany takeNamed (← takeNumber))

end StoreImage

open StoreImage in
/-- The image of a store. -/
def Store.toImage (s : Store) : List UInt8 :=
  header ++ number s.size ++
    s.toList.flatMap fun (name, stored) => block (Text.encode name.toList) ++ table stored

/-- The store of an image. -/
def Store.ofImage? (image : List UInt8) : Option Store :=
  match StoreImage.takeStore.run image with
  | some (s, []) => some s
  | _ => none

end BucketStore
