import BucketStore.Toml.Scalar
import BucketStore.Toml.Text

/-!
# Documents

A document is read line by line: a line opens a table, adds a table to a list, or sets a key. Arrays and
inline tables may run deep, but not deeper than `deepest`.

* `Document.lines` splits a text into its lines and their values;
* `Document.ofLines?` builds the table that the lines define;
* `Document.ofString?` does both.
-/

namespace BucketStore.Toml

open Reader

/-! ### Values -/

/-- Takes an array of values: line ends and comments may stand around the items, and a comma after the
last one. -/
def array (item : Reader Value) : Reader (List Value) := do
  expect '['
  let items ← many do
    gap
    if (← peek) = some ']' then return none
    let value ← item
    gap
    if (← peek) ≠ some ']' then expect ','
    return some value
  expect ']'
  return items

/-- Takes a key and its value. -/
def keyValue (item : Reader Value) : Reader (KeyPath × Value) := do
  let key ← keyPath
  expect '='
  blanks
  return (key, ← item)

/-- Takes an inline table, which stands on one line. -/
def inlineTable (item : Reader Value) : Reader Entries := do
  let entry : Reader (KeyPath × Value) := do
    let entry ← keyValue item
    blanks
    return entry
  expect '\x7b'
  blanks
  if ← skip ['\x7d'] then return []
  let first ← entry
  let others ← many do
    if ← skip [','] then return some (← entry)
    else return none
  expect '\x7d'
  (first :: others).foldlM (fun entries (key, value) =>
    Entries.insert key.parents key.name value .header entries) []

/-- Takes a value with a given number of levels of arrays and inline tables. -/
def value : Nat → Reader Value
  | 0 => do
    match ← peek with
    | some '"' | some '\'' => return .string (← string)
    | _ => scalar
  | depth + 1 => do
    match ← peek with
    | some '[' => return .array (← array (value depth))
    | some '\x7b' => return .table .inline (← inlineTable (value depth))
    | some '"' | some '\'' => return .string (← string)
    | _ => scalar

/-- The number of levels that a document may have. -/
def deepest : Nat := 79

namespace Document

/-! ### Lines -/

/-- What a line of a document says. -/
inductive Line where
  /-- Nothing. -/
  | blank
  /-- Here begins this table. -/
  | table (key : KeyPath)
  /-- Here begins one more table of this list. -/
  | element (key : KeyPath)
  /-- This key has this value. -/
  | entry (key : KeyPath) (value : Value)

/-- Takes what a line says. -/
def statement : Reader Line := do
  match ← peek with
  | none | some '\n' | some '\r' | some '#' => return .blank
  | some '[' =>
    if ← skip ['[', '['] then
      let key ← keyPath
      guard (← skip [']', ']'])
      return .element key
    else
      expect '['
      let key ← keyPath
      expect ']'
      return .table key
  | some _ =>
    let (key, value) ← keyValue (value deepest)
    return .entry key value

/-- Takes a line with its comment and its end. -/
def line : Reader Line := do
  blanks
  let said ← statement
  blanks
  comment
  unless ← lineEnd do
    guard ((← get) = [])
  return said

/-- Takes all lines; a byte order mark may stand before them. -/
def lines : Reader (List Line) := do
  let _ ← skip ['\ufeff']
  many do
    if (← get) = [] then return none
    else return some (← line)

/-! ### Tables -/

/-- The table so far, and the way to the table that lines set keys in. -/
structure State where
  /-- The names on the way. -/
  current : List String
  /-- The document's table. -/
  entries : Entries

/-- Adds what a line says. -/
def State.add (s : State) : Line → Option State
  | .blank => some s
  | .table key => do
    let entries ← Entries.within false (fun _ => Entries.openTable key.name) key.parents .header
      s.entries
    some { current := key.names, entries }
  | .element key => do
    let entries ← Entries.within false (fun _ => Entries.openElement key.name) key.parents .header
      s.entries
    some { current := key.names, entries }
  | .entry key value => do
    let entries ← Entries.within false (Entries.insert key.parents key.name value) s.current
      .header s.entries
    some { s with entries }

/-- The table that lines define. -/
def ofLines? (lines : List Line) : Option Entries :=
  (lines.foldlM State.add ⟨[], []⟩).map State.entries

/-- The table that a text defines, if it is a document. -/
def ofString? (text : String) : Option Entries :=
  (readAll lines text.toList).bind ofLines?

end Document

end BucketStore.Toml
