import BucketStore.Text.Escape
import BucketStore.Text.Utf8

/-!
# Keys and Values

Keys and values are byte strings. A message shows a key as escaped text, so that every byte string
gives a line of printable characters, and two texts never give the same line.
-/

namespace BucketStore

/-- A key: any bytes. -/
abbrev Key := List UInt8

/-- A value: any bytes. -/
abbrev Value := List UInt8

/-- A key as messages show it. -/
def Key.display (key : Key) : String :=
  String.ofList (Text.escapeBare (Text.decodeLossy key))

/-- A value as messages show it, in quotation marks. -/
def Value.quoted (value : Value) : String :=
  String.ofList (Text.quote (Text.decodeLossy value))

end BucketStore
