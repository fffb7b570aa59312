import BucketStore.Backend.Request
import BucketStore.CommandLine.Argument
import BucketStore.Text.Numeral

/-!
# Commands

A **command** either provides a bucket or is one request to a backend. It is named by a verb, which says
how many words follow and which flag may stand among them.
-/

namespace BucketStore.CommandLine

/-- What is to be done. -/
inductive Command where
  /-- Create the store file and the bucket where they are missing. -/
  | init
  /-- Open the store and make one request. -/
  | request (r : Request)
  deriving DecidableEq, Repr

/-- The name of a command. -/
inductive Verb where
  /-- Create the store file and the bucket. -/
  | init
  /-- Print a value. -/
  | get
  /-- Store a value in any case. -/
  | set
  /-- Store a value if there is none. -/
  | add
  /-- Store a value if there is one. -/
  | replace
  /-- Delete a key. -/
  | delete
  /-- Add to a tally. -/
  | incr
  /-- Take away from a tally. -/
  | decr
  /-- Drop all keys. -/
  | flush
  /-- Print the statistics. -/
  | stats
  deriving DecidableEq, Repr

namespace Verb

/-- The verb of a name. -/
def ofString? : String → Option Verb
  | "init" => some .init
  | "get" => some .get
  | "set" => some .set
  | "add" => some .add
  | "replace" => some .replace
  | "delete" => some .delete
  | "incr" => some .incr
  | "decr" => some .decr
  | "flush" => some .flush
  | "stats" => some .stats
  | _ => none

/-- The flag that may stand among the words. -/
def flag? : Verb → Option String
  | .delete => some "only-if-exists"
  | .incr | .decr => some "create"
  | _ => none

/-- The greatest number of words. -/
def mostWords : Verb → Nat
  | .init | .flush | .stats => 0
  | .get | .delete => 1
  | .set | .add | .replace | .incr | .decr => 2

end Verb

/-- The bytes of a word. -/
def bytes (word : String) : List UInt8 :=
  Text.encode word.toList

/-- An amount: a decimal of at most 64 bits, perhaps after a plus sign. -/
def amount? (word : String) : Option Nat :=
  let digits := match word.toList with
    | '+' :: digits => digits
    | digits => digits
  (Text.numeral? 10 digits).filter (· ≤ 0xFFFFFFFFFFFFFFFF)

/-- Whether a verb takes one more word after some others. -/
def Verb.takes (verb : Verb) (before : List String) (word : String) : Bool :=
  before.length < verb.mostWords &&
    match verb, before with
    | .incr, [_] | .decr, [_] => (amount? word).isSome
    | _, _ => true

/-- The command of a verb, its words, and whether its flag was given. -/
def Verb.command? (flagged : Bool) : Verb → List String → Option Command
  | .init, [] => some .init
  | .get, [key] => some (.request (.get (bytes key)))
  | .set, [key, value] => some (.request (.put .always (bytes key) (bytes value)))
  | .add, [key, value] => some (.request (.put .ifAbsent (bytes key) (bytes value)))
  | .replace, [key, value] => some (.request (.put .ifPresent (bytes key) (bytes value)))
  | .delete, [key] => some (.request (.delete (bytes key) flagged))
  | .incr, [key] => some (.request (.adjust (.up 1) flagged (bytes key)))
  | .incr, [key, word] =>
    (amount? word).map fun n => .request (.adjust (.up n) flagged (bytes key))
  | .decr, [key] => some (.request (.adjust (.down 1) flagged (bytes key)))
  | .decr, [key, word] =>
    (amount? word).map fun n => .request (.adjust (.down n) flagged (bytes key))
  | .flush, [] => some (.request .flush)
  | .stats, [] => some (.request .stats)
  | _, _ => none

/-- Reads the arguments after a verb: its words in order, and its flag at most once anywhere before the
separator. -/
def Verb.arguments (verb : Verb) (words : List String) (flagged separated : Bool) :
    List String → Except Stop Command
  | [] =>
    match verb.command? flagged words with
    | none => .error .misuse
    | some command => .ok command
  | arg :: rest =>
    match if separated then .word arg else Argument.ofString arg with
    | .word word =>
      if verb.takes words word then arguments verb (words ++ [word]) flagged separated rest
      else .error .misuse
    | .separator => arguments verb words flagged true rest
    | .long "help" none | .short 'h' _ => .error .help
    | .long name none =>
      if verb.flag? = some name ∧ flagged = false then arguments verb words true separated rest
      else .error .misuse
    | _ => .error .misuse

/-- Reads the arguments after the word for help: at most one command. -/
def helpAbout : List String → Stop
  | [] => .help
  | [name] => if (Verb.ofString? name).isSome ∨ name = "help" then .help else .misuse
  | _ => .misuse

end BucketStore.CommandLine
