/-!
# Values of a Document

A document is a table of named **values**. How a table came to be decides what may still be added to
it (`TableForm`), and the three ways of adding follow from that:

* `insert` puts a value under a dotted key, as a line `a.b = 1` does;
* `openTable` opens the table of a header `[a.b]`;
* `openElement` adds a table to the list of a header `[[a.b]]`.

Each gives nothing where the document defines something twice.
-/

namespace BucketStore.Toml

/-- How a table came to be. -/
inductive TableForm where
  /-- Written between braces, and complete. -/
  | inline
  /-- Opened by a header of its own, or the document itself. -/
  | header
  /-- On the way to a table with a header. -/
  | implied
  /-- On the way of a dotted key. -/
  | dotted
  deriving DecidableEq, Repr

/-- A value of TOML 1.0. -/
inductive Value where
  /-- A text. -/
  | string (text : String)
  /-- An integer of 64 bits. -/
  | integer (n : Int)
  /-- A binary64 number. -/
  | float (x : Float)
  /-- A truth value. -/
  | boolean (b : Bool)
  /-- A date, a time or both, as written. -/
  | datetime (text : String)
  /-- An array between brackets. -/
  | array (items : List Value)
  /-- A table. -/
  | table (form : TableForm) (entries : List (String × Value))
  /-- The tables of a repeated header, at least one. -/
  | tables (elements : List (List (String × Value)))

/-- The entries of a table, in the order of their definition. -/
abbrev Entries := List (String × Value)

namespace Entries

/-- Replaces the value of a key. -/
def replace (name : String) (value : Value) (entries : Entries) : Entries :=
  entries.map fun entry => if entry.1 = name then (name, value) else entry

/-- Changes the table at the end of a way that starts in a table. Tables on the way are made where there
are none, and of a repeated header the last table is taken. The way of a dotted key leads through no
table with a header of its own, and no way leads through a complete table. -/
def within (dotted : Bool) (change : TableForm → Entries → Option Entries) :
    List String → TableForm → Entries → Option Entries
  | [], form, entries => change form entries
  | name :: way, _, entries =>
    match entries.lookup name with
    | none => do
      let form := if dotted then .dotted else .implied
      let inner ← within dotted change way form []
      some (entries ++ [(name, .table form inner)])
    | some (.table .inline _) => none
    | some (.table form inner) => do
      guard (¬(dotted ∧ form = .header))
      let inner ← within dotted change way form inner
      some (replace name (.table form inner) entries)
    | some (.tables elements) => do
      let last ← elements.getLast?
      let last ← within dotted change way .header last
      some (replace name (.tables (elements.dropLast ++ [last])) entries)
    | some _ => none

/-- Puts a value under a dotted key. The last table on the way of the key has to be one that dotted keys
made, and the key new in it. -/
def insert (way : List String) (name : String) (value : Value) (form : TableForm)
    (entries : Entries) : Option Entries :=
  within true (fun form entries => do
    guard ((form = .dotted) = (way ≠ []))
    guard ((entries.lookup name).isNone)
    some (entries ++ [(name, value)])) way form entries

/-- Opens a table under a name: a new one, or one that was only on the way to others so far. -/
def openTable (name : String) (entries : Entries) : Option Entries :=
  match entries.lookup name with
  | none => some (entries ++ [(name, .table .header [])])
  | some (.table .implied inner) => some (replace name (.table .header inner) entries)
  | some _ => none

/-- Adds an empty table to the list under a name. -/
def openElement (name : String) (entries : Entries) : Option Entries :=
  match entries.lookup name with
  | none => some (entries ++ [(name, .tables [[]])])
  | some (.tables elements) => some (replace name (.tables (elements ++ [[]])) entries)
  | some _ => none

end Entries

end BucketStore.Toml
