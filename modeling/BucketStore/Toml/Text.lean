import BucketStore.Text.Numeral
import BucketStore.Toml.Reader

/-!
# Texts in a Document

Blanks, line ends, comments, and the four kinds of strings of TOML 1.0.

* A **basic** string stands between quotation marks and knows escapes; a **literal** one stands between
  apostrophes and knows none.
* Either kind is also written between three marks, and then runs over **many lines**: a line end right
  after the opening is dropped, every other line end is a line feed, and one or two marks may stand in
  the text.
-/

namespace BucketStore.Toml

open Reader

/-! ### Blanks, line ends, comments -/

/-- The characters that separate tokens in a line. -/
def isBlank (c : Char) : Bool :=
  c = ' ' || c = '\t'

/-- Characters that need no escape: a tab, and all that are not control characters. -/
def isPlain (c : Char) : Bool :=
  c = '\t' || (' ' ≤ c && c ≠ '\x7f')

/-- Skips blanks. -/
def blanks : Reader Unit := do
  let _ ← takeWhile isBlank

/-- Takes a line end if one comes next, and says whether it did: a line feed, or a carriage return and a
line feed. -/
def lineEnd : Reader Bool := do
  if ← skip ['\n'] then return true
  else skip ['\r', '\n']

/-- Skips a comment if one comes next: the characters from a number sign to the end of the line. -/
def comment : Reader Unit := do
  if ← skip ['#'] then
    let _ ← takeWhile isPlain

/-- What follows after blanks and line ends. -/
def afterBreaks : List Char → List Char
  | ' ' :: rest => afterBreaks rest
  | '\t' :: rest => afterBreaks rest
  | '\n' :: rest => afterBreaks rest
  | '\r' :: '\n' :: rest => afterBreaks rest
  | rest => rest

/-- What follows after blanks, line ends and comments; the text may start inside a comment. -/
def afterGap : Bool → List Char → List Char
  | _, [] => []
  | _, '\n' :: rest => afterGap false rest
  | _, '\r' :: '\n' :: rest => afterGap false rest
  | true, c :: rest => if isPlain c then afterGap true rest else c :: rest
  | false, c :: rest =>
    if c = '#' then afterGap true rest
    else if isBlank c then afterGap false rest
    else c :: rest

/-- Skips blanks, comments and line ends. -/
def gap : Reader Unit :=
  modify (afterGap false)

/-! ### Escapes -/

/-- The character of a number in hexadecimal digits, if there is one of that number. -/
def charOfHex? (digits : List Char) : Option Char := do
  let n ← Text.numeral? 16 digits
  if n.isValidChar then some (Char.ofNat n) else none

/-- Takes the rest of an escape, after its backslash. -/
def escape : Reader Char := do
  match ← next with
  | '"' => return '"'
  | '\\' => return '\\'
  | 'b' => return '\x08'
  | 'f' => return '\x0c'
  | 'n' => return '\n'
  | 'r' => return '\r'
  | 't' => return '\t'
  | 'u' => charOfHex? (← takeExactly (Text.isDigit 16) 4)
  | 'U' => charOfHex? (← takeExactly (Text.isDigit 16) 8)
  | _ => failure

/-! ### Strings on one line -/

/-- Characters that stand for themselves in a basic string. -/
def isBasic (c : Char) : Bool :=
  isPlain c && c ≠ '"' && c ≠ '\\'

/-- Characters that stand for themselves in a literal string. -/
def isLiteral (c : Char) : Bool :=
  isPlain c && c ≠ '\''

/-- Takes a piece of a basic string; nothing if the closing mark is next. -/
def basicPiece : Reader (Option (List Char)) := do
  match ← takeWhile isBasic with
  | c :: cs => return some (c :: cs)
  | [] =>
    if ← skip ['\\'] then return some [← escape]
    else return none

/-- Takes the rest of a basic string, after its opening mark. -/
def basicString : Reader (List Char) := do
  let pieces ← many basicPiece
  expect '"'
  return pieces.flatten

/-- Takes the rest of a literal string, after its opening mark. -/
def literalString : Reader (List Char) := do
  let text ← takeWhile isLiteral
  expect '\''
  return text

/-! ### Strings over many lines -/

/-- Skips the rest of a line break that was escaped: the blanks up to the line end, and all blanks and
line ends after it. -/
def escapedBreak : Reader Unit :=
  modify afterBreaks

/-- Whether a line break follows, with only blanks before it. -/
def breakAhead : Reader Bool := do
  match (← get).dropWhile isBlank with
  | '\n' :: _ => return true
  | '\r' :: '\n' :: _ => return true
  | _ => return false

/-- Takes an escape in a string over many lines, after its backslash: a line break that stands for
nothing, or a character. -/
def linesEscape : Reader (List Char) := do
  if ← breakAhead then
    escapedBreak
    return []
  else return [← escape]

/-- Takes one or two marks that do not end a string; nothing if there is none or a longer row. -/
def looseMarks (mark : Char) : Reader (Option (List Char)) := do
  let text ← get
  let marks := text.takeWhile (· = mark)
  if marks ≠ [] ∧ marks.length < 3 then
    set (text.drop marks.length)
    return some marks
  else return none

/-- Takes a piece of a string over many lines; nothing if a row of three or more marks is next. Where a
backslash is plain, it never comes to an escape. -/
def linesPiece (mark : Char) (plain : Char → Bool) : Reader (Option (List Char)) := do
  match ← takeWhile plain with
  | c :: cs => return some (c :: cs)
  | [] =>
    if ← lineEnd then return some ['\n']
    else if ← skip ['\\'] then return some (← linesEscape)
    else looseMarks mark

/-- Takes the rest of a string over many lines, after its opening marks. Of the row of marks that ends
it, the last three close the string. -/
def linesString (mark : Char) (plain : Char → Bool) : Reader (List Char) := do
  let _ ← lineEnd
  let pieces ← many (linesPiece mark plain)
  let marks ← takeWhile (· = mark)
  guard (3 ≤ marks.length ∧ marks.length ≤ 5)
  return pieces.flatten ++ marks.drop 3

/-- Takes a string of any kind. -/
def string : Reader String := do
  if ← skip ['"', '"', '"'] then return String.ofList (← linesString '"' isBasic)
  else if ← skip ['"'] then return String.ofList (← basicString)
  else if ← skip ['\'', '\'', '\''] then
    return String.ofList (← linesString '\'' isLiteral)
  else
    expect '\''
    return String.ofList (← literalString)

/-! ### Keys -/

/-- Characters of a key without quotes. -/
def isBare (c : Char) : Bool :=
  c.isAlphanum || c = '-' || c = '_'

/-- Takes one part of a key. -/
def keyPart : Reader String := do
  if ← skip ['"'] then return String.ofList (← basicString)
  else if ← skip ['\''] then return String.ofList (← literalString)
  else
    let name ← takeWhile isBare
    guard (name ≠ [])
    return String.ofList name

/-- A key: the names of the tables that lead to the one it stands in, and its name there. -/
structure KeyPath where
  /-- The tables on the way. -/
  parents : List String
  /-- The name in the last table. -/
  name : String
  deriving DecidableEq, Repr

/-- All names of a key. -/
def KeyPath.names (key : KeyPath) : List String :=
  key.parents ++ [key.name]

/-- The number of parts that a key has to stay below. -/
def tooManyParts : Nat := 80

/-- Takes a key: parts between dots, with blanks around each. -/
def keyPath : Reader KeyPath := do
  let part : Reader String := do
    blanks
    let name ← keyPart
    blanks
    return name
  let first ← part
  let others ← many do
    if ← skip ['.'] then return some (← part)
    else return none
  let names := first :: others
  guard (names.length < tooManyParts)
  return ⟨names.dropLast, names.getLastD first⟩

end BucketStore.Toml
