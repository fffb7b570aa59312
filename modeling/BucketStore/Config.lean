import BucketStore.Decimal
import BucketStore.Filter.Shape
import BucketStore.BucketName
import BucketStore.Toml.Document
import BucketStore.Volume.Basic

/-!
# Configuration

A **configuration** says where the store is and which bucket to use, how filters are sized, and how much
is logged. It is read from a TOML document with one section for each of these; whatever the document
leaves out keeps its default, and what it says beyond that is ignored.

* `Config.ofToml` reads a text and checks the result;
* `Config.load` reads a file, and a missing file gives the defaults;
* `Config.fault?` is the check, for configurations that were changed afterwards.
-/

namespace BucketStore

namespace Config

/-- Where the store is. -/
structure StoreSection where
  /-- The path of the store file. -/
  path : String := "./bloomkv.redb"
  /-- The bucket that is active at first. -/
  bucket : String := "default"
  deriving DecidableEq, Repr

/-- How the filter of each bucket is sized. -/
structure FilterSection where
  /-- The number of keys that a bucket is expected to hold. -/
  maxKeys : Nat := 100000
  /-- The false-positive rate at that number of keys. -/
  rate : Float := Decimal.read 1 (-2)
  deriving Repr

/-- What is logged. -/
structure LoggingSection where
  /-- The level of the messages that are shown. -/
  level : String := "info"
  deriving DecidableEq, Repr

end Config

/-- A configuration. -/
structure Config where
  /-- Where the store is. -/
  store : Config.StoreSection := {}
  /-- How filters are sized. -/
  filter : Config.FilterSection := {}
  /-- What is logged. -/
  logging : Config.LoggingSection := {}
  deriving Repr

/-- Why a filter cannot be sized as asked. -/
inductive SizingFault where
  /-- No key is expected. -/
  | noKeys
  /-- The rate is below `Filter.leastRate`, or not below one. -/
  | badRate (rate : Float)
  deriving Repr

/-- The fault in words. -/
def SizingFault.message : SizingFault → String
  | .noKeys => "max_keys_per_bucket must be positive"
  | .badRate rate => "false_positive_rate must be in [1e-9, 1), got " ++ Decimal.text rate

/-- Why there is no configuration. -/
inductive ConfigError where
  /-- The file cannot be read. -/
  | io (fault : ReadFault)
  /-- The text is no document, or a setting has a value of another kind. -/
  | malformed
  /-- Filters cannot be sized as asked. -/
  | sizing (fault : SizingFault)
  /-- The bucket's name is none. -/
  | invalidBucketName (fault : NameFault)
  deriving Repr

namespace ConfigError

/-- What is said of a text that is no document or has a setting of another kind. -/
def malformedReason : String := "TOML parse error"

/-- The error in words. -/
def message : ConfigError → String
  | .io fault => "io error: " ++ fault.message
  | .malformed => "failed to parse config: " ++ malformedReason
  | .sizing fault => "configuration error: " ++ fault.message
  | .invalidBucketName fault => "invalid bucket name: " ++ fault.message

/-- The error that lies behind this one, in words, if there is one. -/
def cause? : ConfigError → Option String
  | .io fault => some fault.message
  | .malformed => some malformedReason
  | .sizing _ => none
  | .invalidBucketName fault => some fault.message

end ConfigError

namespace Config

/-! ### Settings -/

/-- The settings of a section: the value that stands at a place or under a name. -/
abbrev Settings := Nat → String → Option Toml.Value

/-- The settings that a table holds, by name. -/
def settingsOf (entries : Toml.Entries) : Settings :=
  fun _ name => entries.lookup name

/-- The settings of a section. A table has them by name and an array by place; a date holds none. -/
def settings? : Toml.Value → Option Settings
  | .table _ entries => some (settingsOf entries)
  | .array items => some fun place _ => items[place]?
  | .tables elements => some fun place _ => elements[place]?.map (.table .header)
  | .datetime _ => some fun _ _ => none
  | _ => none

/-- A setting that is a text. -/
def text? : Toml.Value → Option String
  | .string s => some s
  | _ => none

/-- A setting that is a count. -/
def count? : Toml.Value → Option Nat
  | .integer n => if 0 ≤ n then some n.toNat else none
  | _ => none

/-- A setting that is a number. -/
def number? : Toml.Value → Option Float
  | .float x => some x
  | .integer n => some (Decimal.ofInt n)
  | _ => none

/-- Reads a setting, or takes its default where it is missing. -/
def setting {α : Type} (s : Settings) (place : Nat) (name : String) (read : Toml.Value → Option α)
    (fallback : α) : Option α :=
  match s place name with
  | none => some fallback
  | some value => read value

/-- Reads the section about the store. -/
def StoreSection.ofValue? (value : Toml.Value) : Option StoreSection := do
  let s ← settings? value
  let standard : StoreSection := {}
  let path ← setting s 0 "path" text? standard.path
  let bucket ← setting s 1 "bucket" text? standard.bucket
  some { path, bucket }

/-- Reads the section about filters. -/
def FilterSection.ofValue? (value : Toml.Value) : Option FilterSection := do
  let s ← settings? value
  let standard : FilterSection := {}
  let maxKeys ← setting s 0 "max_keys_per_bucket" count? standard.maxKeys
  let rate ← setting s 1 "false_positive_rate" number? standard.rate
  some { maxKeys, rate }

/-- Reads the section about logging. -/
def LoggingSection.ofValue? (value : Toml.Value) : Option LoggingSection := do
  let s ← settings? value
  let standard : LoggingSection := {}
  let level ← setting s 0 "level" text? standard.level
  some { level }

/-- Reads a document's sections. -/
def ofEntries? (entries : Toml.Entries) : Option Config := do
  let s := settingsOf entries
  let store ← setting s 0 "store" StoreSection.ofValue? {}
  let filter ← setting s 1 "filter" FilterSection.ofValue? {}
  let logging ← setting s 2 "logging" LoggingSection.ofValue? {}
  some { store, filter, logging }

/-! ### Checks -/

/-- Why a filter cannot be sized as a section asks. -/
def FilterSection.fault? (sizing : FilterSection) : Option SizingFault :=
  if sizing.maxKeys = 0 then some .noKeys
  else if Filter.leastRate ≤ sizing.rate ∧ sizing.rate < 1 then none
  else some (.badRate sizing.rate)

/-- The shape of the filters that a section asks for. -/
def FilterSection.shape (sizing : FilterSection) : Filter.Shape :=
  .ofRate sizing.maxKeys sizing.rate

/-- What is wrong with a configuration; a bad bucket name is reported first. -/
def fault? (c : Config) : Option ConfigError :=
  match BucketName.ofString c.store.bucket with
  | .error fault => some (.invalidBucketName fault)
  | .ok _ => c.filter.fault?.map .sizing

/-- The configuration, if nothing is wrong with it. -/
def check (c : Config) : Except ConfigError Config :=
  match c.fault? with
  | none => .ok c
  | some e => .error e

/-! ### Reading -/

/-- The configuration that a text gives. -/
def ofToml (text : String) : Except ConfigError Config :=
  match (Toml.Document.ofString? text).bind ofEntries? with
  | none => .error .malformed
  | some c => c.check

/-- The configuration in a file; a path that leads nowhere gives the defaults. -/
def load (v : Volume) (path : String) : Except ConfigError Config :=
  if v.contains path then
    match v.readText path with
    | .error fault => .error (.io fault)
    | .ok text => ofToml text
  else .ok {}

end Config

end BucketStore
