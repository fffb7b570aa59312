import BucketStore.Text.Escape
import BucketStore.Text.JsonString
import BucketStore.Text.Utf8

/-!
# Bucket Names

A **bucket** is an independent keyspace inside a store, and its name is a short text over a small
alphabet: it starts with an ASCII letter or digit, goes on with letters, digits, dots, hyphens and
underscores, and takes at most 64 bytes.

* `BucketName.ofString` checks a text and says what is wrong with it; of several faults the first of
  *empty*, *too long*, *bad start*, *bad character* is reported.
* `BucketName.ofJson?` takes a name from JSON on trust, as data that was checked when it was written.
-/

namespace BucketStore

/-- The name of a bucket. -/
structure BucketName where
  /-- The text of the name. -/
  text : String
  deriving DecidableEq, Repr

/-- Why a text is no bucket name. -/
inductive NameFault where
  /-- There is no character. -/
  | empty
  /-- The text takes more than `BucketName.maxBytes` bytes. -/
  | tooLong
  /-- The first character is no ASCII letter or digit. -/
  | badStart
  /-- A later character is outside the alphabet; `c` is the first such one. -/
  | badChar (c : Char)
  deriving DecidableEq, Repr

namespace BucketName

/-- The greatest length of a name in bytes. -/
def maxBytes : Nat := 64

/-- The characters that may start a name: ASCII letters and digits. -/
def isStart (c : Char) : Bool :=
  c.isAlphanum

/-- The characters that may stand in a name. -/
def isAllowed (c : Char) : Bool :=
  isStart c || c = '-' || c = '_' || c = '.'

/-- The fault of a text that is no bucket name. -/
def fault? (s : List Char) : Option NameFault :=
  match s with
  | [] => some .empty
  | first :: _ =>
    if maxBytes < Text.byteLength s then some .tooLong
    else if !isStart first then some .badStart
    else (s.find? fun c => !isAllowed c).map .badChar

/-- The bucket of that name, or what is wrong with the name. -/
def ofString (s : String) : Except NameFault BucketName :=
  match fault? s.toList with
  | none => .ok ⟨s⟩
  | some fault => .error fault

/-- The name of a text is that text. -/
theorem text_of_ofString {s : String} {name : BucketName} (h : ofString s = .ok name) :
    name.text = s := by
  simp only [ofString] at h
  split at h
  · cases h
    rfl
  · cases h

/-- A name read from JSON, without a check of its alphabet. -/
def ofJson? (document : String) : Option BucketName :=
  (Text.ofJson? document.toList).map fun s => ⟨String.ofList s⟩

/-- A name as a JSON string. -/
def toJson (name : BucketName) : String :=
  String.ofList (Text.toJsonString name.text.toList)

/-- A name as a value in a log: its type around the quoted text. -/
def debug (name : BucketName) : String :=
  "BucketName(" ++ String.ofList (Text.quote name.text.toList) ++ ")"

instance : ToString BucketName := ⟨BucketName.text⟩

end BucketName

/-- What is wrong with a name, in words. -/
def NameFault.message : NameFault → String
  | .empty => "bucket name cannot be empty"
  | .tooLong => s!"bucket name must be at most {BucketName.maxBytes} bytes"
  | .badStart => "bucket name must start with a letter or number"
  | .badChar c => "bucket name contains invalid character: " ++ String.ofList (Text.quoteChar c)

end BucketStore
