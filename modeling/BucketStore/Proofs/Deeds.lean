import BucketStore.Backend.StatsReport
import BucketStore.Config
import BucketStore.Proofs.CommandLanguage

/-!
# What Deeds Come To

All that a deed can go by is what is held under its path, and this is nothing but a table for every
bucket that was ever provided: the **holdings** (`Holdings`). What a deed shows and what it leaves is
laid down here from the holdings alone (`Holdings.Does`), with no file, no cache and no transaction: the
words that are printed, the exit code, the conditions of writes and deletions, and the arithmetic of
numbers that are kept as texts.

A deed may be done in one way only, and one that fails leaves the holdings as they were.

## Main results

* `Answers.unique`, `Holdings.Does.unique`: what is shown and left hangs on the holdings alone.
* `Holdings.Does.eq_of_fails`: a deed that fails leaves the holdings as they were.
-/

namespace BucketStore

/-- What is **held** under a path: a table for every bucket that was provided. -/
abbrev Holdings := String → Option Table

namespace CommandLine

/-- What a run **shows** whose errors are not looked at: its exit code and its standard output. -/
abbrev Shown := Nat × List UInt8

/-- The bytes of a text. -/
def utf8 (text : String) : List UInt8 :=
  text.toList.flatMap String.utf8EncodeChar

/-- A run that prints a line. -/
def prints (text : String) : Shown :=
  (0, utf8 text ++ [0x0A])

/-- A run that fails. -/
def fails : Shown :=
  (1, [])

/-! ### Numbers -/

/-- The number that a change **starts from**: the one of 64 bits that the stored value spells, or zero
for a missing key that may be created. -/
inductive StartsFrom (table : Table) (key : String) (create : Bool) : Int → Prop
  | created (hcreate : create = true) (hmissing : utf8 key ∉ table) : StartsFrom table key create 0
  | stored {value : Value} {n : Int} (hvalue : table[utf8 key]? = some value)
      (hspells : Tally.Spells value n) (hlow : -2 ^ 63 ≤ n) (hhigh : n < 2 ^ 63) :
      StartsFrom table key create n

/-- A number **raised** by an amount. The result stops at the greatest number of 64 bits, and no amount
counts for more than that. -/
def raised (n : Int) (amount : Nat) : Int :=
  min (2 ^ 63 - 1) (n + min (amount : Int) (2 ^ 63 - 1))

/-- A number **lowered** by an amount, which stops at zero. -/
def lowered (n : Int) (amount : Nat) : Int :=
  max 0 (n - amount)

variable {table table₁ table₂ : Table} {key : String} {create : Bool} {n n₁ n₂ : Int} {c : Config}
  {deed : Deed} {shown₁ shown₂ : Shown}

/-- A key under which something is stored is in the table. -/
theorem mem_of_getElem? {key : Key} {value : Value} (h : table[key]? = some value) : key ∈ table := by
  rw [Std.TreeMap.mem_iff_isSome_getElem?, h]
  rfl

/-- A key under which nothing is stored is not in the table. -/
theorem not_mem_of_getElem? {key : Key} (h : table[key]? = none) : key ∉ table := by
  rw [Std.TreeMap.mem_iff_isSome_getElem?, h]
  exact Bool.false_ne_true

/-- There is one number to start from. -/
theorem StartsFrom.unique (h₁ : StartsFrom table key create n₁) (h₂ : StartsFrom table key create n₂) :
    n₁ = n₂ := by
  cases h₁ with
  | created _ hmissing =>
      cases h₂ with
      | created => rfl
      | stored hvalue => exact absurd (mem_of_getElem? hvalue) hmissing
  | stored hvalue hspells hlow hhigh =>
      cases h₂ with
      | created _ hmissing => exact absurd (mem_of_getElem? hvalue) hmissing
      | stored hvalue' hspells' hlow' hhigh' =>
          obtain rfl := Option.some.inj (hvalue.symm.trans hvalue')
          have h := Tally.ofValue?_eq_some_iff.mpr ⟨hspells, hlow, hhigh⟩
          rw [Tally.ofValue?_eq_some_iff.mpr ⟨hspells', hlow', hhigh'⟩] at h
          exact (Option.some.inj h).symm

/-! ### Deeds on a bucket -/

/-- What a deed **answers** on a bucket with some table, which was opened just now under a configuration:
what it shows, and the table that it leaves. The statistics are those of a cache that has been through
nothing but loading its keys. -/
inductive Answers (c : Config) (table : Table) : Deed → Shown → Table → Prop
  | got {key : String} {value : Value} (h : table[utf8 key]? = some value) :
      Answers c table (.get key) (0, value ++ [0x0A]) table
  | missed {key : String} (h : utf8 key ∉ table) :
      Answers c table (.get key) (prints "(not found)") table
  | set (key value : String) :
      Answers c table (.set key value) (prints "STORED") (table.insert (utf8 key) (utf8 value))
  | added {key : String} (h : utf8 key ∉ table) (value : String) :
      Answers c table (.add key value) (prints "STORED") (table.insert (utf8 key) (utf8 value))
  | notAdded {key : String} (h : utf8 key ∈ table) (value : String) :
      Answers c table (.add key value) (prints "NOT_STORED") table
  | replaced {key : String} (h : utf8 key ∈ table) (value : String) :
      Answers c table (.replace key value) (prints "STORED") (table.insert (utf8 key) (utf8 value))
  | notReplaced {key : String} (h : utf8 key ∉ table) (value : String) :
      Answers c table (.replace key value) (prints "NOT_STORED") table
  | deleted {key : String} {onlyIfExists : Bool} (h : onlyIfExists = true → utf8 key ∈ table) :
      Answers c table (.delete key onlyIfExists) (prints "DELETED") (table.erase (utf8 key))
  | notDeleted {key : String} (h : utf8 key ∉ table) :
      Answers c table (.delete key true) (prints "NOT_FOUND") table
  | raised {key : String} {create : Bool} {n : Int} (h : StartsFrom table key create n) (amount : Nat) :
      Answers c table (.incr key amount create) (prints (toString (raised n amount)))
        (table.insert (utf8 key) (utf8 (toString (raised n amount))))
  | notRaised {key : String} {create : Bool} (h : ∀ n, ¬StartsFrom table key create n) (amount : Nat) :
      Answers c table (.incr key amount create) fails table
  | lowered {key : String} {create : Bool} {n : Int} (h : StartsFrom table key create n) (amount : Nat) :
      Answers c table (.decr key amount create) (prints (toString (lowered n amount)))
        (table.insert (utf8 key) (utf8 (toString (lowered n amount))))
  | notLowered {key : String} {create : Bool} (h : ∀ n, ¬StartsFrom table key create n) (amount : Nat) :
      Answers c table (.decr key amount create) fails table
  | flushed : Answers c table .flush (prints "OK") ∅
  | stats : Answers c table .stats
      (prints (Backend.Stats.toJson {
        bucket := c.store.bucket
        buckets := 1
        keys := table.size
        reads := 0
        shortCircuits := 0
        cache := (Backend.loadKeys table (.empty c.filter.shape)).stats })) table

/-- **A deed is answered in one way.** -/
theorem Answers.unique (h₁ : Answers c table deed shown₁ table₁)
    (h₂ : Answers c table deed shown₂ table₂) : shown₁ = shown₂ ∧ table₁ = table₂ := by
  cases h₁ with
  | got h =>
      cases h₂ with
      | got h' =>
          obtain rfl := Option.some.inj (h.symm.trans h')
          exact ⟨rfl, rfl⟩
      | missed h' => exact absurd (mem_of_getElem? h) h'
  | missed h =>
      cases h₂ with
      | got h' => exact absurd (mem_of_getElem? h') h
      | missed => exact ⟨rfl, rfl⟩
  | set => cases h₂ with | set => exact ⟨rfl, rfl⟩
  | added h =>
      cases h₂ with
      | added => exact ⟨rfl, rfl⟩
      | notAdded h' => exact absurd h' h
  | notAdded h =>
      cases h₂ with
      | added h' => exact absurd h h'
      | notAdded => exact ⟨rfl, rfl⟩
  | replaced h =>
      cases h₂ with
      | replaced => exact ⟨rfl, rfl⟩
      | notReplaced h' => exact absurd h h'
  | notReplaced h =>
      cases h₂ with
      | replaced h' => exact absurd h' h
      | notReplaced => exact ⟨rfl, rfl⟩
  | deleted h =>
      cases h₂ with
      | deleted => exact ⟨rfl, rfl⟩
      | notDeleted h' => exact absurd (h rfl) h'
  | notDeleted h =>
      cases h₂ with
      | deleted h' => exact absurd (h' rfl) h
      | notDeleted => exact ⟨rfl, rfl⟩
  | raised h =>
      cases h₂ with
      | raised h' => rw [h.unique h']; exact ⟨rfl, rfl⟩
      | notRaised h' => exact absurd h (h' _)
  | notRaised h =>
      cases h₂ with
      | raised h' => exact absurd h' (h _)
      | notRaised => exact ⟨rfl, rfl⟩
  | lowered h =>
      cases h₂ with
      | lowered h' => rw [h.unique h']; exact ⟨rfl, rfl⟩
      | notLowered h' => exact absurd h (h' _)
  | notLowered h =>
      cases h₂ with
      | lowered h' => exact absurd h' (h _)
      | notLowered => exact ⟨rfl, rfl⟩
  | flushed => cases h₂ with | flushed => exact ⟨rfl, rfl⟩
  | stats => cases h₂ with | stats => exact ⟨rfl, rfl⟩

/-- A deed that fails leaves the table as it was. -/
theorem Answers.eq_of_fails (h : Answers c table deed shown₁ table₁) (hfails : shown₁.1 = 1) :
    table₁ = table := by
  cases h with
  | got | missed | notAdded | notReplaced | notDeleted | notRaised | notLowered | stats => rfl
  | set | added | replaced | deleted | raised | lowered | flushed => cases hfails

end CommandLine

open CommandLine

/-! ### Deeds on the holdings -/

namespace Holdings

/-- What a deed **does** under a configuration: what it shows, and the holdings that it leaves. A bucket
is provided with the keys that it has, and one that was never provided cannot be opened. -/
inductive Does (m : Holdings) (c : Config) : Deed → Shown → Holdings → Prop
  | init : Does m c .init (prints "OK")
      (Function.update m c.store.bucket (some ((m c.store.bucket).getD ∅)))
  | unknown {deed : Deed} (hdeed : deed ≠ .init) (h : m c.store.bucket = none) :
      Does m c deed fails m
  | answered {deed : Deed} {shown : Shown} {table table' : Table}
      (h : m c.store.bucket = some table) (answers : Answers c table deed shown table') :
      Does m c deed shown (Function.update m c.store.bucket (some table'))

variable {m m₁ m₂ : Holdings} {c : Config} {deed : Deed} {shown₁ shown₂ : Shown}

/-- **A deed is done in one way.** -/
theorem Does.unique (h₁ : m.Does c deed shown₁ m₁) (h₂ : m.Does c deed shown₂ m₂) :
    shown₁ = shown₂ ∧ m₁ = m₂ := by
  cases h₁ with
  | init =>
      cases h₂ with
      | init => exact ⟨rfl, rfl⟩
      | unknown hdeed => exact absurd rfl hdeed
      | answered _ answers => cases answers
  | unknown hdeed h =>
      cases h₂ with
      | init => exact absurd rfl hdeed
      | unknown => exact ⟨rfl, rfl⟩
      | answered h' => cases h.symm.trans h'
  | answered h answers =>
      cases h₂ with
      | init => cases answers
      | unknown _ h' => cases h.symm.trans h'
      | answered h' answers' =>
          obtain rfl := Option.some.inj (h.symm.trans h')
          obtain ⟨rfl, rfl⟩ := answers.unique answers'
          exact ⟨rfl, rfl⟩

/-- **A deed that fails leaves the holdings as they were.** -/
theorem Does.eq_of_fails (h : m.Does c deed shown₁ m₁) (hfails : shown₁.1 = 1) : m₁ = m := by
  cases h with
  | init => cases hfails
  | unknown => rfl
  | answered h answers =>
      rw [answers.eq_of_fails hfails]
      exact Function.update_eq_self_iff.mpr h.symm

end Holdings

end BucketStore
