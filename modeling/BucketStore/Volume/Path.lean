/-!
# Paths

A **path** is written as names between slashes. The names `.` and `..` stand for the directory
itself and the one above it; empty names between slashes mean nothing, and a slash at the end asks
for a directory.
-/

namespace BucketStore

/-- A path, taken apart. -/
structure Path where
  /-- Whether the path starts at the root. -/
  absolute : Bool
  /-- The names, without empty ones. -/
  names : List String
  /-- Whether the path ends with a slash. -/
  slashed : Bool
  deriving DecidableEq, Repr

namespace Path

/-- The pieces of a text between slashes. -/
def pieces : List Char → List (List Char)
  | [] => [[]]
  | c :: rest =>
    if c = '/' then [] :: pieces rest
    else match pieces rest with
      | [] => [[c]]
      | piece :: others => (c :: piece) :: others

/-- The path that a text writes. -/
def ofString (text : String) : Path where
  absolute := text.toList.head? = some '/'
  names := ((pieces text.toList).filter (· ≠ [])).map String.ofList
  slashed := text.toList.getLast? = some '/'

/-- The names that matter: a `.` is kept only where the path starts with it. -/
def essential (p : Path) : List String :=
  match p.names with
  | [] => []
  | first :: rest =>
    let rest := rest.filter (· ≠ ".")
    if first = "." ∧ p.absolute then rest else first :: rest

/-- The path of the directory that holds the last name, if there is a name. -/
def parent? (p : Path) : Option Path :=
  if p.essential = [] then none
  else some { absolute := p.absolute, names := p.essential.dropLast, slashed := false }

end Path

end BucketStore
