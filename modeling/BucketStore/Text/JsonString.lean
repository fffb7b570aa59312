import BucketStore.Text.Numeral

/-!
# JSON Strings

Bucket names and reports travel as JSON strings. `toJsonString` writes a text between quotation
marks, escaping only what JSON demands; `ofJson?` reads a document that consists of one string, with
every escape of the format and with surrogate pairs.
-/

namespace BucketStore.Text

/-- The escaped form of one character inside a JSON string: two characters where the format has a
letter for it, the code point in four digits for any other control character. -/
def jsonChar (c : Char) : List Char :=
  if c = '"' then ['\\', '"']
  else if c = '\\' then ['\\', '\\']
  else if c = '\x08' then ['\\', 'b']
  else if c = '\x0c' then ['\\', 'f']
  else if c = '\n' then ['\\', 'n']
  else if c = '\r' then ['\\', 'r']
  else if c = '\t' then ['\\', 't']
  else if c.toNat < 0x20 then
    ['\\', 'u', '0', '0', Nat.digitChar (c.toNat / 16), Nat.digitChar (c.toNat % 16)]
  else [c]

/-- A text as a JSON string. -/
def toJsonString (s : List Char) : List Char :=
  '"' :: (s.flatMap jsonChar ++ ['"'])

namespace JsonString

/-- What one item inside the marks stands for: a character, or one **16-bit unit** given by its
number, which may be half of a surrogate pair. -/
inductive Item where
  /-- A character, written raw or by its letter. -/
  | char (c : Char)
  /-- A 16-bit unit, written by its number. -/
  | unit (n : Nat)
  deriving DecidableEq, Repr

/-- Where the reader stands inside the marks. -/
inductive State where
  /-- Between items. -/
  | plain
  /-- After a backslash. -/
  | escape
  /-- Inside a number whose digits so far are `value`, with `owed + 1` digits due. -/
  | number (value : Nat) (owed : Nat)
  deriving DecidableEq, Repr

/-- The character that a letter after a backslash stands for. -/
def unescape? : Char → Option Char
  | '"' => some '"'
  | '\\' => some '\\'
  | '/' => some '/'
  | 'b' => some '\x08'
  | 'f' => some '\x0c'
  | 'n' => some '\n'
  | 'r' => some '\r'
  | 't' => some '\t'
  | _ => none

/-- The items up to the closing mark, and what follows it. A raw control character, an unknown
letter, a bad digit or a missing mark gives none. -/
def items : State → List Char → Option (List Item × List Char)
  | _, [] => none
  | .plain, c :: rest =>
    if c = '"' then some ([], rest)
    else if c = '\\' then items .escape rest
    else if c.toNat < 0x20 then none
    else (items .plain rest).map fun r => (.char c :: r.1, r.2)
  | .escape, c :: rest =>
    if c = 'u' then items (.number 0 3) rest
    else do
      let d ← unescape? c
      let r ← items .plain rest
      some (.char d :: r.1, r.2)
  | .number value owed, c :: rest => do
    let d ← hexDigit? c
    match owed with
    | 0 =>
      let r ← items .plain rest
      some (.unit (value * 16 + d) :: r.1, r.2)
    | owed + 1 => items (.number (value * 16 + d) owed) rest

/-- The text of a list of items: a unit is a character, two units may be a **surrogate pair**, and a
surrogate on its own is refused. -/
def text? : List Item → Option (List Char)
  | [] => some []
  | .char c :: rest => (text? rest).map (c :: ·)
  | .unit n :: rest =>
    if n < 0xD800 ∨ 0xE000 ≤ n then (text? rest).map (Char.ofNat n :: ·)
    else if 0xDC00 ≤ n then none
    else match rest with
      | .unit m :: rest =>
        if 0xDC00 ≤ m ∧ m < 0xE000 then
          (text? rest).map (Char.ofNat (0x10000 + (n - 0xD800) * 0x400 + (m - 0xDC00)) :: ·)
        else none
      | _ => none

/-- Blanks between the tokens of a JSON document. -/
def isBlank (c : Char) : Bool :=
  c = ' ' ∨ c = '\n' ∨ c = '\t' ∨ c = '\r'

end JsonString

open JsonString in
/-- The text of a JSON document that consists of one string, with blanks around it. -/
def ofJson? (document : List Char) : Option (List Char) :=
  match document.dropWhile isBlank with
  | '"' :: rest => do
    let (read, rest) ← items .plain rest
    if rest.all isBlank then text? read else none
  | _ => none

end BucketStore.Text
