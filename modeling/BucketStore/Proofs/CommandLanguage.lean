import BucketStore.CommandLine.Command
import BucketStore.Proofs.TallyGrammar
import Mathlib.Data.List.TakeWhile

/-!
# The Language of the Command Line

What a command line asks for is a **deed** (`Deed`) under some options. Which command lines ask for which
deeds is laid down here as a language, from the texts of the arguments alone: how an option and its
value are written (`Written`), what may stand behind a verb (`Tail`), and what a verb means with its
words and flags (`Means`). That exactly the arguments of this language are understood is shown from the
smallest parts up, and these are the forms of an argument and the words that are amounts.

## Main results

* `Asks`: what a command line asks for.
* `Argument.text_ofString`: an argument is written as it is read.
* `amount?_eq_some_iff`: the words that are amounts.
-/

namespace BucketStore.CommandLine

/-! ### Deeds -/

/-- What a command line asks for. -/
inductive Deed where
  /-- Provide the bucket. -/
  | init
  /-- Print a value. -/
  | get (key : String)
  /-- Store a value in any case. -/
  | set (key value : String)
  /-- Store a value if there is none. -/
  | add (key value : String)
  /-- Store a value if there is one. -/
  | replace (key value : String)
  /-- Delete a key, and tell whether it was there if that is asked for. -/
  | delete (key : String) (onlyIfExists : Bool)
  /-- Add to a number, which may be created. -/
  | incr (key : String) (amount : Nat) (create : Bool)
  /-- Take away from a number, which may be created. -/
  | decr (key : String) (amount : Nat) (create : Bool)
  /-- Drop all keys. -/
  | flush
  /-- Print the statistics. -/
  | stats
  deriving DecidableEq, Repr

/-! ### The language -/

/-- An argument is a **word** if it does not start with a hyphen, or is nothing but a hyphen. -/
def IsWord (arg : String) : Prop :=
  ∀ rest, arg.toList = '-' :: rest → rest = []

/-- A decimal digit as it is written. -/
def digit (d : Fin 10) : Char :=
  Nat.digitChar d

/-- A word is an **amount** if it is a row of digits, perhaps after a plus sign, and stands for a number
of at most 64 bits. -/
def IsAmount (word : String) (n : Nat) : Prop :=
  ∃ ds : List (Fin 10), ds ≠ [] ∧
    (word.toList = ds.map digit ∨
      word.toList = '+' :: ds.map digit) ∧
    n = Tally.placeValue ds ∧ n < 2 ^ 64

/-- A flag that is given or not. -/
def optionally (flag : String) : Bool → List String
  | true => [flag]
  | false => []

/-- What a verb **means** with its words and its flags. -/
inductive Means : String → List String → List String → Deed → Prop
  | init : Means "init" [] [] .init
  | get (key : String) : Means "get" [key] [] (.get key)
  | set (key value : String) : Means "set" [key, value] [] (.set key value)
  | add (key value : String) : Means "add" [key, value] [] (.add key value)
  | replace (key value : String) : Means "replace" [key, value] [] (.replace key value)
  | delete (key : String) (given : Bool) :
      Means "delete" [key] (optionally "only-if-exists" given) (.delete key given)
  | incrOne (key : String) (given : Bool) :
      Means "incr" [key] (optionally "create" given) (.incr key 1 given)
  | incr (key : String) {word : String} {n : Nat} (h : IsAmount word n) (given : Bool) :
      Means "incr" [key, word] (optionally "create" given) (.incr key n given)
  | decrOne (key : String) (given : Bool) :
      Means "decr" [key] (optionally "create" given) (.decr key 1 given)
  | decr (key : String) {word : String} {n : Nat} (h : IsAmount word n) (given : Bool) :
      Means "decr" [key, word] (optionally "create" given) (.decr key n given)
  | flush : Means "flush" [] [] .flush
  | stats : Means "stats" [] [] .stats

/-- The **tail** of a command line: the words and the flags that stand behind a verb, in order. Behind
two hyphens everything is a word. -/
inductive Tail : List String → List String → List String → Prop
  | nil : Tail [] [] []
  | word {arg : String} {args words flags : List String} (h : IsWord arg)
      (rest : Tail args words flags) : Tail (arg :: args) (arg :: words) flags
  | flag (name : String) {args words flags : List String} (rest : Tail args words flags) :
      Tail (("--" ++ name) :: args) words (name :: flags)
  | separator (words : List String) : Tail ("--" :: words) words []

/-- The long name of an option. -/
def Setting.name : Setting → String
  | .config => "config"
  | .db => "db"
  | .bucket => "bucket"
  | .level => "log-level"

/-- The short name of an option, if it has one. -/
def Setting.letter? : Setting → Option Char
  | .config => some 'c'
  | .bucket => some 'b'
  | _ => none

/-- How an option is **written** with its value: by its long or its short name, with the value in an
argument of its own or behind the name. -/
inductive Written (setting : Setting) (value : String) : List String → Prop
  | long (h : IsWord value) : Written setting value ["--" ++ setting.name, value]
  | longJoined : Written setting value ["--" ++ setting.name ++ "=" ++ value]
  | short {letter : Char} (hletter : setting.letter? = some letter) (h : IsWord value) :
      Written setting value [String.ofList ['-', letter], value]
  | shortJoined {letter : Char} (hletter : setting.letter? = some letter) :
      Written setting value [String.ofList ('-' :: letter :: '=' :: value.toList)]
  | attached {letter : Char} (hletter : setting.letter? = some letter) (hne : value ≠ "")
      (hequals : value.toList.head? ≠ some '=') :
      Written setting value [String.ofList ('-' :: letter :: value.toList)]

/-- Options and their values, one after the other. -/
inductive Options : List String → List (Setting × String) → Prop
  | nil : Options [] []
  | cons {setting : Setting} {value : String} {args rest : List String}
      {given : List (Setting × String)} (h : Written setting value args)
      (hrest : Options rest given) : Options (args ++ rest) ((setting, value) :: given)

/-- Whether an option names a file. -/
def Setting.IsPath (setting : Setting) : Prop :=
  setting = .config ∨ setting = .db

/-- What is **chosen** for an option: what was given, or for the store file what the environment says. -/
def chosen (given : List (Setting × String)) (environment : Option String) (setting : Setting) :
    Option String :=
  (given.lookup setting).or (if setting = .db then environment else none)

/-- A command line **asks** for a deed under an environment: options, each at most once and no path
empty, then a verb, and behind it what it means. -/
inductive Asks (environment : Option String) :
    List String → (Setting → Option String) → Deed → Prop
  | mk {front back words flags : List String} {given : List (Setting × String)} {verb : String}
      {deed : Deed} (options : Options front given) (once : (given.map Prod.fst).Nodup)
      (paths : ∀ entry ∈ given, entry.1.IsPath → entry.2 ≠ "")
      (fallback : given.lookup .db = none → environment ≠ some "")
      (tail : Tail back words flags) (means : Means verb words flags deed) :
      Asks environment (front ++ verb :: back) (chosen given environment) deed

/-! ### The form of an argument -/

namespace Argument

variable {s name value : String} {letter : Char} {attached : List Char}

/-- An argument as it is written. -/
def text : Argument → String
  | .word text => text
  | .long name none => "--" ++ name
  | .long name (some value) => "--" ++ name ++ "=" ++ value
  | .short letter attached => String.ofList ('-' :: letter :: attached)
  | .separator => "--"

/-- **An argument is written as it is read**, whatever its form. -/
theorem text_ofString (s : String) : (ofString s).text = s := by
  simp only [ofString]
  split
  · rename_i h
    exact String.toList_inj.mp h.symm
  · rename_i rest _ h
    have hparts := List.takeWhile_append_dropWhile (p := (· ≠ '=')) (l := rest)
    split
    · rename_i hdrop
      rw [hdrop, List.append_nil] at hparts
      rw [text, ← String.toList_inj, h, hparts, String.toList_append]
      exact congrArg ('-' :: '-' :: ·) String.toList_ofList
    · rename_i c value hdrop
      have hc : c = '=' := by
        have hhead := List.head?_dropWhile_not (· ≠ '=') rest
        rw [hdrop] at hhead
        simpa using hhead
      rw [hdrop, hc] at hparts
      generalize rest.takeWhile (· ≠ '=') = name at hparts
      rw [text, ← String.toList_inj, h, ← hparts]
      simp
  · rename_i letter attached _ _ h
    rw [text, ← h, String.ofList_toList]
  · rfl

/-- What is read as a word is one. -/
theorem isWord_of_ofString {word : String} (h : ofString s = .word word) : IsWord s := by
  intro rest hs
  simp only [ofString, hs] at h
  split at h
  · cases h
  · split at h <;> cases h
  · cases h
  · rename_i hshort
    cases rest with
    | nil => rfl
    | cons letter attached => exact absurd rfl (hshort letter attached)

/-- The words are read as words. -/
theorem ofString_of_isWord (h : IsWord s) : ofString s = .word s := by
  have htext := text_ofString s
  cases hform : ofString s with
  | word word =>
      rw [hform] at htext
      rw [← htext]
      rfl
  | long name value =>
      rw [hform] at htext
      cases value with
      | none => cases h ('-' :: name.toList) (by rw [← htext, text, String.toList_append]; rfl)
      | some value => cases h ('-' :: (name ++ "=" ++ value).toList) (by rw [← htext, text]; simp)
  | short letter attached =>
      rw [hform] at htext
      cases h (letter :: attached) (by rw [← htext, text, String.toList_ofList])
  | separator =>
      rw [hform] at htext
      cases h ['-'] (by rw [← htext]; rfl)

theorem ofString_long (hne : name ≠ "") (hname : '=' ∉ name.toList) :
    ofString ("--" ++ name) = .long name none := by
  obtain ⟨c, rest, hcs⟩ := List.exists_cons_of_ne_nil (mt String.toList_eq_nil_iff.mp hne)
  have htext : ("--" ++ name).toList = '-' :: '-' :: c :: rest := by
    rw [String.toList_append, hcs]
    rfl
  have hall : ∀ d ∈ c :: rest, decide (d ≠ '=') = true := fun d hd => by
    rw [decide_eq_true_eq]
    rintro rfl
    exact hname (hcs ▸ hd)
  have htake : (c :: rest).takeWhile (· ≠ '=') = c :: rest := List.takeWhile_eq_self_iff.mpr hall
  have hdrop : (c :: rest).dropWhile (· ≠ '=') = [] := List.dropWhile_eq_nil_iff.mpr hall
  simp only [ofString, htext, htake, hdrop]
  rw [← hcs, String.ofList_toList]

theorem ofString_longJoined (hname : '=' ∉ name.toList) :
    ofString ("--" ++ name ++ "=" ++ value) = .long name (some value) := by
  have hall : ∀ c ∈ name.toList, decide (c ≠ '=') = true := fun c hc => by
    rw [decide_eq_true_eq]
    rintro rfl
    exact hname hc
  obtain ⟨c, rest, hcs⟩ : ∃ c rest, name.toList ++ '=' :: value.toList = c :: rest :=
    List.exists_cons_of_ne_nil (by simp)
  have htake : (c :: rest).takeWhile (· ≠ '=') = name.toList := by
    rw [← hcs, List.takeWhile_append_of_pos hall, List.takeWhile_cons_of_neg (by decide),
      List.append_nil]
  have hdrop : (c :: rest).dropWhile (· ≠ '=') = '=' :: value.toList := by
    rw [← hcs, List.dropWhile_append_of_pos hall, List.dropWhile_cons_of_neg (by decide)]
  have htext : ("--" ++ name ++ "=" ++ value).toList = '-' :: '-' :: c :: rest := by
    rw [← hcs, String.toList_append, String.toList_append, String.toList_append, List.append_assoc,
      List.append_assoc]
    rfl
  simp only [ofString, htext, htake, hdrop, String.ofList_toList]

theorem ofString_short (h : letter ≠ '-') :
    ofString (String.ofList ('-' :: letter :: attached)) = .short letter attached := by
  simp only [ofString, String.toList_ofList]
  split <;> simp_all

end Argument

/-! ### Amounts -/

section Amounts

variable {c : Char} {cs : List Char} {k n : Nat} {word : String}

/-- The code of a digit. -/
theorem toNat_digit : ∀ d : Fin 10, (digit d).toNat = 0x30 + d := by decide

/-- The digits of a decimal. -/
theorem digit?_eq_some_iff :
    Text.digit? 10 c = some k ↔ ∃ d : Fin 10, c = digit d ∧ k = d := by
  constructor
  · intro h
    obtain ⟨hhex, hlt⟩ := Option.filter_eq_some_iff.mp h
    rw [decide_eq_true_eq] at hlt
    simp only [Text.hexDigit?, Char.le_def, UInt32.le_iff_toNat_le] at hhex
    have hcode : c.toNat = c.val.toNat := rfl
    split at hhex
    · rename_i hdigit
      obtain ⟨hlow, hhigh⟩ := hdigit
      change 0x30 ≤ c.val.toNat at hlow
      obtain rfl := Option.some.inj hhex
      refine ⟨⟨c.toNat - 0x30, hlt⟩, Char.toNat_inj.mp ?_, rfl⟩
      rw [toNat_digit]
      change c.toNat = 0x30 + (c.toNat - 0x30)
      omega
    · split at hhex
      · rename_i hletter
        have hlow : 0x61 ≤ c.val.toNat := hletter.1
        obtain rfl := Option.some.inj hhex
        omega
      · split at hhex
        · rename_i hletter
          have hlow : 0x41 ≤ c.val.toNat := hletter.1
          obtain rfl := Option.some.inj hhex
          omega
        · cases hhex
  · rintro ⟨d, rfl, rfl⟩
    revert d
    decide

/-- A row of digits that is read after some number. -/
theorem foldlM_digits_eq_some_iff :
    cs.foldlM (fun n c => (Text.digit? 10 c).map (n * 10 + ·)) k = some n ↔
      ∃ ds : List (Fin 10), cs = ds.map digit ∧
        n = ds.foldl (fun n d => n * 10 + d.val) k := by
  induction cs generalizing k with
  | nil =>
      constructor
      · rintro h
        cases h
        exact ⟨[], rfl, rfl⟩
      · rintro ⟨ds, hds, rfl⟩
        rw [eq_comm, List.map_eq_nil_iff] at hds
        rw [hds]
        rfl
  | cons c rest ih =>
      rw [List.foldlM_cons, Option.bind_eq_bind, Option.bind_eq_some_iff]
      constructor
      · rintro ⟨k', hk', hrest⟩
        obtain ⟨d', hd', rfl⟩ := Option.map_eq_some_iff.mp hk'
        obtain ⟨d, rfl, rfl⟩ := digit?_eq_some_iff.mp hd'
        obtain ⟨ds, rfl, rfl⟩ := ih.mp hrest
        exact ⟨d :: ds, rfl, rfl⟩
      · rintro ⟨ds, hds, rfl⟩
        obtain ⟨d, ds', rfl, rfl, rfl⟩ := List.map_eq_cons_iff.mp hds.symm
        exact ⟨k * 10 + d, by rw [digit?_eq_some_iff.mpr ⟨d, rfl, rfl⟩]; rfl, ih.mpr ⟨ds', rfl, rfl⟩⟩

/-- Reading digits one after the other comes to what they stand for. -/
theorem foldl_digits (ds : List (Fin 10)) :
    ds.foldl (fun n d => n * 10 + d.val) 0 = Tally.placeValue ds := by
  rw [← Tally.ofDigits_map_digitByte, Tally.ofDigits, List.foldl_map]
  simp only [Tally.toNat_digitByte, Nat.add_sub_cancel_left]

/-- The rows of digits that stand for a number. -/
theorem numeral?_eq_some_iff :
    Text.numeral? 10 cs = some n ↔ ∃ ds : List (Fin 10), ds ≠ [] ∧
      cs = ds.map digit ∧ n = Tally.placeValue ds := by
  rw [Text.numeral?, Option.ite_none_left_eq_some, foldlM_digits_eq_some_iff]
  constructor
  · rintro ⟨hne, ds, rfl, rfl⟩
    exact ⟨ds, mt List.map_eq_nil_iff.mpr hne, rfl, foldl_digits ds⟩
  · rintro ⟨ds, hne, rfl, rfl⟩
    exact ⟨mt List.map_eq_nil_iff.mp hne, ds, rfl, (foldl_digits ds).symm⟩

/-- A row of digits does not start with a plus sign. -/
theorem ne_plus_of_digits {ds : List (Fin 10)} :
    ds.map digit ≠ '+' :: cs := by
  intro h
  obtain ⟨d, _, -, hd, -⟩ := List.map_eq_cons_iff.mp h
  have hcode := toNat_digit d
  rw [show digit d = '+' from hd] at hcode
  change 0x2B = 0x30 + d.val at hcode
  omega

/-- **The words that are amounts.** -/
theorem amount?_eq_some_iff : amount? word = some n ↔ IsAmount word n := by
  simp only [amount?, IsAmount, Option.filter_eq_some_iff, decide_eq_true_eq]
  rw [numeral?_eq_some_iff]
  split
  · rename_i cs h
    constructor
    · rintro ⟨⟨ds, hne, rfl, rfl⟩, hle⟩
      exact ⟨ds, hne, .inr h, rfl, Nat.lt_succ_of_le hle⟩
    · rintro ⟨ds, hne, hword | hword, rfl, hlt⟩
      · exact absurd (hword.symm.trans h) ne_plus_of_digits
      · exact ⟨⟨ds, hne, (List.cons.inj (h.symm.trans hword)).2, rfl⟩, Nat.le_of_lt_succ hlt⟩
  · rename_i cs hplus
    constructor
    · rintro ⟨⟨ds, hne, hword, rfl⟩, hle⟩
      exact ⟨ds, hne, .inl hword, rfl, Nat.lt_succ_of_le hle⟩
    · rintro ⟨ds, hne, hword | hword, rfl, hlt⟩
      · exact ⟨⟨ds, hne, hword, rfl⟩, Nat.le_of_lt_succ hlt⟩
      · exact absurd hword (hplus _)

end Amounts

end BucketStore.CommandLine
