import BucketStore.CommandLine.Command
import BucketStore.Config

/-!
# Invocations

An **invocation** is a command line that was understood: options, a verb, and the verb's words and flag.
An environment variable stands in for the option that names the store file.
-/

namespace BucketStore.CommandLine

/-- A command and the options it is run with. -/
structure Invocation where
  /-- The options. -/
  settings : Settings
  /-- The command. -/
  command : Command
  deriving DecidableEq, Repr

namespace Invocation

/-- Reads the arguments before the verb, of which one may be an option that is still `due` its value, and
then those after it. -/
def arguments (s : Settings) (due : Option Setting) : List String → Except Stop Invocation
  | [] => .error .misuse
  | arg :: rest =>
    match due, Argument.ofString arg with
    | some name, .word value => do arguments (← s.set name value) none rest
    | some _, _ => .error .misuse
    | none, .word "help" => .error (helpAbout rest)
    | none, .word word =>
      match Verb.ofString? word with
      | none => .error .misuse
      | some verb => do return { settings := s, command := ← verb.arguments [] false false rest }
    | none, .separator => .error .misuse
    | none, .long "help" none | none, .short 'h' _ => .error .help
    | none, .long "version" none | none, .short 'V' _ => .error .version
    | none, .long name value =>
      match Setting.ofLong? name, value with
      | none, _ => .error .misuse
      | some name, none => arguments s (some name) rest
      | some name, some value => do arguments (← s.set name value) none rest
    | none, .short letter attached =>
      match Setting.ofShort? letter, attached with
      | none, _ => .error .misuse
      | some name, [] => arguments s (some name) rest
      | some name, '=' :: value => do arguments (← s.set name (String.ofList value)) none rest
      | some name, value => do arguments (← s.set name (String.ofList value)) none rest

/-- The store file that the environment names takes the place of a missing option. -/
def withEnvironment (inv : Invocation) (environment : Option String) : Except Stop Invocation :=
  match inv.settings.db, environment with
  | none, some path => do return { inv with settings := ← inv.settings.set .db path }
  | _, _ => .ok inv

/-- The invocation that arguments and environment make. -/
def ofArguments (environment : Option String) (args : List String) : Except Stop Invocation := do
  (← arguments {} none args).withEnvironment environment

/-- The configuration file. -/
def configPath (inv : Invocation) : String :=
  inv.settings.config.getD "bloomkv.toml"

/-- A configuration with the options put over it. -/
def override (inv : Invocation) (c : Config) : Config :=
  { c with
    store := {
      path := inv.settings.db.getD c.store.path
      bucket := inv.settings.bucket.getD c.store.bucket }
    logging := { level := inv.settings.level.getD c.logging.level } }

end Invocation

end BucketStore.CommandLine
