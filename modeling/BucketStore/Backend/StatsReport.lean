import BucketStore.Backend.Basic
import BucketStore.Text.JsonString

/-!
# Statistics as JSON

The statistics of a backend are reported as one JSON object over several lines, with the statistics of
the active bucket's cache as an object inside. Every level is indented by two spaces.
-/

namespace BucketStore

namespace Report

/-- A text as a JSON string. -/
def text (s : String) : String :=
  String.ofList (Text.toJsonString s.toList)

/-- The start of a line at a level. -/
def indent (level : Nat) : String :=
  String.ofList (List.replicate (2 * level) ' ')

/-- A JSON object of fields whose values are written already; its closing brace stands at the given
level. -/
def object (level : Nat) (fields : List (String × String)) : String :=
  let lines := fields.map fun (name, value) => indent (level + 1) ++ text name ++ ": " ++ value
  "\x7b\n" ++ ",\n".intercalate lines ++ "\n" ++ indent level ++ "\x7d"

end Report

/-- The fields of a cache's statistics. -/
def Cache.Stats.fields (s : Cache.Stats) : List (String × Nat) :=
  [("tests", s.tests), ("negatives", s.negatives), ("adds", s.adds), ("removes", s.removes),
    ("resets", s.resets), ("occupied_slots", s.occupied), ("slots", s.slots)]

/-- The statistics of a backend as JSON. -/
def Backend.Stats.toJson (s : Backend.Stats) : String :=
  Report.object 0 [
    ("bucket", Report.text s.bucket),
    ("buckets", toString s.buckets),
    ("keys", toString s.keys),
    ("authoritative_reads", toString s.reads),
    ("cache_short_circuits", toString s.shortCircuits),
    ("cache", Report.object 1 (s.cache.fields.map fun (name, n) => (name, toString n)))]

end BucketStore
