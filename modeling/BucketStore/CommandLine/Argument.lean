/-!
# Arguments

An **argument** of the command line is a word, an option by its long or its short name, or the separator
after which every argument is a word. An option may carry its value in the same argument.
-/

namespace BucketStore.CommandLine

/-- Why no command is run. -/
inductive Stop where
  /-- The usage was asked for. -/
  | help
  /-- The version was asked for. -/
  | version
  /-- The command line is not understood. -/
  | misuse
  deriving DecidableEq, Repr

/-- An argument by its form. -/
inductive Argument where
  /-- Neither an option nor the separator; a hyphen on its own is a word. -/
  | word (text : String)
  /-- A name after two hyphens, and the value after an equals sign, if there is one. -/
  | long (name : String) (value : Option String)
  /-- A letter after one hyphen, and what is attached to it. -/
  | short (letter : Char) (attached : List Char)
  /-- Two hyphens. -/
  | separator
  deriving DecidableEq, Repr

/-- The form of an argument. -/
def Argument.ofString (s : String) : Argument :=
  match s.toList with
  | ['-', '-'] => .separator
  | '-' :: '-' :: rest =>
    let name := String.ofList (rest.takeWhile (· ≠ '='))
    match rest.dropWhile (· ≠ '=') with
    | [] => .long name none
    | _ :: value => .long name (some (String.ofList value))
  | '-' :: letter :: attached => .short letter attached
  | _ => .word s

/-- The options that take a value and stand before the command. -/
inductive Setting where
  /-- The configuration file. -/
  | config
  /-- The store file. -/
  | db
  /-- The bucket. -/
  | bucket
  /-- The level of logging. -/
  | level
  deriving DecidableEq, Repr

/-- The option of a long name. -/
def Setting.ofLong? : String → Option Setting
  | "config" => some .config
  | "db" => some .db
  | "bucket" => some .bucket
  | "log-level" => some .level
  | _ => none

/-- The option of a short name. -/
def Setting.ofShort? : Char → Option Setting
  | 'c' => some .config
  | 'b' => some .bucket
  | _ => none

/-- The options given so far. -/
structure Settings where
  /-- The configuration file. -/
  config : Option String := none
  /-- The store file. -/
  db : Option String := none
  /-- The bucket. -/
  bucket : Option String := none
  /-- The level of logging. -/
  level : Option String := none
  deriving DecidableEq, Repr

/-- Gives an option its value. No option is given twice, and no path is empty. -/
def Settings.set (s : Settings) (name : Setting) (value : String) : Except Stop Settings :=
  match name with
  | .config =>
    if s.config.isSome ∨ value = "" then .error .misuse else .ok { s with config := value }
  | .db => if s.db.isSome ∨ value = "" then .error .misuse else .ok { s with db := value }
  | .bucket => if s.bucket.isSome then .error .misuse else .ok { s with bucket := value }
  | .level => if s.level.isSome then .error .misuse else .ok { s with level := value }

end BucketStore.CommandLine
