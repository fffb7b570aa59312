/-!
# Readers

A **reader** takes characters from the front of a text and gives a value, or refuses the text. The
readers of this module look at most a few characters ahead; none of them goes back, so what a text
means is decided where it is read.
-/

namespace BucketStore.Toml

/-- Reads a value from the front of a text and leaves the rest. -/
abbrev Reader := StateT (List Char) Option

namespace Reader

/-- The next character, which stays where it is. -/
def peek : Reader (Option Char) := do
  return (← get).head?

/-- Takes the next character. -/
def next : Reader Char := do
  match ← get with
  | [] => failure
  | c :: rest =>
    set rest
    return c

/-- Takes a character that has to be there. -/
def expect (c : Char) : Reader Unit := do
  guard ((← next) = c)

/-- Takes the characters of a text if they come next, and says whether they did. -/
def skip (s : List Char) : Reader Bool := do
  let text ← get
  if s.isPrefixOf text then
    set (text.drop s.length)
    return true
  else return false

/-- Takes the longest row of characters of a class. -/
def takeWhile (p : Char → Bool) : Reader (List Char) := do
  let text ← get
  set (text.dropWhile p)
  return text.takeWhile p

/-- Takes a given number of characters of a class. -/
def takeExactly (p : Char → Bool) : Nat → Reader (List Char)
  | 0 => return []
  | n + 1 => do
    let c ← next
    guard (p c)
    return c :: (← takeExactly p n)

/-- Repeats a reader until it gives nothing, a limited number of times. -/
def repeatUpTo {α : Type} (item : Reader (Option α)) : Nat → Reader (List α)
  | 0 => failure
  | limit + 1 => do
    match ← item with
    | none => return []
    | some a => return a :: (← repeatUpTo item limit)

/-- Repeats a reader until it gives nothing. Since every item takes a character, there are no more items
than characters. -/
def many {α : Type} (item : Reader (Option α)) : Reader (List α) := do
  repeatUpTo item ((← get).length + 1)

/-- Reads a whole text. -/
def readAll {α : Type} (r : Reader α) (text : List Char) : Option α :=
  match r.run text with
  | some (a, []) => some a
  | _ => none

end Reader

end BucketStore.Toml
