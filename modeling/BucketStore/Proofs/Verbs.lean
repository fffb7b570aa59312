import BucketStore.Proofs.CommandLanguage
import BucketStore.Proofs.Decoding

/-!
# Verbs and What They Mean

A verb is followed by words, and by a flag that may stand anywhere among them. What is understood
behind a verb is a tail of words and flags with which the verb means something, and the command that it
comes to is the one of this deed.

## Main results

* `Deed.command_injective`: deeds are told apart by the commands that are run for them.
* `Verb.means_of_command?`, `Verb.command?_of_means`: which commands a verb, its words and its flags come
  to.
* `Verb.arguments_eq_ok_iff`: what is understood behind a verb.
-/

namespace BucketStore.CommandLine

/-- The command that is run for a deed. -/
def Deed.command : Deed → Command
  | .init => .init
  | .get key => .request (.get (bytes key))
  | .set key value => .request (.put .always (bytes key) (bytes value))
  | .add key value => .request (.put .ifAbsent (bytes key) (bytes value))
  | .replace key value => .request (.put .ifPresent (bytes key) (bytes value))
  | .delete key onlyIfExists => .request (.delete (bytes key) onlyIfExists)
  | .incr key amount create => .request (.adjust (.up amount) create (bytes key))
  | .decr key amount create => .request (.adjust (.down amount) create (bytes key))
  | .flush => .request .flush
  | .stats => .request .stats

/-- Words are told apart by their bytes. -/
theorem bytes_injective : Function.Injective bytes := by
  intro word word' h
  rw [← String.toList_inj, ← Text.decodeLossy_encode word.toList,
    ← Text.decodeLossy_encode word'.toList]
  exact congrArg Text.decodeLossy h

/-- Deeds are told apart by their commands. -/
theorem Deed.command_injective : Function.Injective Deed.command := by
  intro deed deed' h
  cases deed <;> cases deed'
  all_goals simp_all [Deed.command, bytes_injective.eq_iff]

namespace Verb

variable {v : Verb} {verb word : String} {before words flags args : List String}
  {given flagged : Bool} {command : Command}

/-- A verb as it is written. -/
def name : Verb → String
  | .init => "init"
  | .get => "get"
  | .set => "set"
  | .add => "add"
  | .replace => "replace"
  | .delete => "delete"
  | .incr => "incr"
  | .decr => "decr"
  | .flush => "flush"
  | .stats => "stats"

theorem ofString?_eq_some_iff : ofString? verb = some v ↔ verb = v.name := by
  constructor
  · intro h
    unfold ofString? at h
    split at h
    all_goals cases h
    all_goals rfl
  · rintro rfl
    cases v <;> rfl

/-- How the flags behind a verb change whether its flag was given: they are none, or the flag of the
verb for the first time. -/
def Flags (v : Verb) (flagged : Bool) (flags : List String) (given : Bool) : Prop :=
  flags = [] ∧ given = flagged ∨
    flagged = false ∧ given = true ∧ ∃ name, v.flag? = some name ∧ flags = [name]

/-- The flags of a verb that has none. -/
theorem Flags.of_none (h : v.Flags false flags given) (hv : v.flag? = none) :
    flags = [] ∧ given = false := by
  obtain h | ⟨-, -, _, hflag, -⟩ := h
  · exact h
  · rw [hv] at hflag
    cases hflag

/-- The flags of a verb that has one. -/
theorem flags_iff_of_some {flag : String} (hv : v.flag? = some flag) :
    v.Flags false flags given ↔ flags = optionally flag given := by
  constructor
  · rintro (⟨rfl, rfl⟩ | ⟨-, rfl, _, hflag, rfl⟩)
    · rfl
    · rw [hv] at hflag
      cases hflag
      rfl
  · rintro rfl
    cases given with
    | false => exact .inl ⟨rfl, rfl⟩
    | true => exact .inr ⟨rfl, rfl, flag, hv, rfl⟩

/-- A verb with its words and its flag comes to a command only if they mean a deed. -/
theorem means_of_command? (hflags : v.Flags false flags given)
    (h : v.command? given words = some command) :
    ∃ deed, Means v.name words flags deed ∧ command = deed.command := by
  cases v with
  | init =>
      obtain ⟨rfl, rfl⟩ := hflags.of_none rfl
      match words, h with
      | [], rfl => exact ⟨_, .init, rfl⟩
  | get =>
      obtain ⟨rfl, rfl⟩ := hflags.of_none rfl
      match words, h with
      | [key], rfl => exact ⟨_, .get key, rfl⟩
  | set =>
      obtain ⟨rfl, rfl⟩ := hflags.of_none rfl
      match words, h with
      | [key, value], rfl => exact ⟨_, .set key value, rfl⟩
  | add =>
      obtain ⟨rfl, rfl⟩ := hflags.of_none rfl
      match words, h with
      | [key, value], rfl => exact ⟨_, .add key value, rfl⟩
  | replace =>
      obtain ⟨rfl, rfl⟩ := hflags.of_none rfl
      match words, h with
      | [key, value], rfl => exact ⟨_, .replace key value, rfl⟩
  | delete =>
      obtain rfl := (flags_iff_of_some rfl).mp hflags
      match words, h with
      | [key], rfl => exact ⟨_, .delete key given, rfl⟩
  | incr =>
      obtain rfl := (flags_iff_of_some rfl).mp hflags
      match words, h with
      | [key], rfl => exact ⟨_, .incrOne key given, rfl⟩
      | [key, word], h =>
          obtain ⟨n, hn, rfl⟩ := Option.map_eq_some_iff.mp h
          exact ⟨_, .incr key (amount?_eq_some_iff.mp hn) given, rfl⟩
  | decr =>
      obtain rfl := (flags_iff_of_some rfl).mp hflags
      match words, h with
      | [key], rfl => exact ⟨_, .decrOne key given, rfl⟩
      | [key, word], h =>
          obtain ⟨n, hn, rfl⟩ := Option.map_eq_some_iff.mp h
          exact ⟨_, .decr key (amount?_eq_some_iff.mp hn) given, rfl⟩
  | flush =>
      obtain ⟨rfl, rfl⟩ := hflags.of_none rfl
      match words, h with
      | [], rfl => exact ⟨_, .flush, rfl⟩
  | stats =>
      obtain ⟨rfl, rfl⟩ := hflags.of_none rfl
      match words, h with
      | [], rfl => exact ⟨_, .stats, rfl⟩

/-- What a verb means with its words and its flags is the command that they come to. -/
theorem command?_of_means {deed : Deed} (h : Means verb words flags deed) :
    ∃ (v : Verb) (given : Bool), verb = v.name ∧ v.Flags false flags given ∧
      v.command? given words = some deed.command := by
  cases h with
  | init => exact ⟨.init, false, rfl, .inl ⟨rfl, rfl⟩, rfl⟩
  | get key => exact ⟨.get, false, rfl, .inl ⟨rfl, rfl⟩, rfl⟩
  | set key value => exact ⟨.set, false, rfl, .inl ⟨rfl, rfl⟩, rfl⟩
  | add key value => exact ⟨.add, false, rfl, .inl ⟨rfl, rfl⟩, rfl⟩
  | replace key value => exact ⟨.replace, false, rfl, .inl ⟨rfl, rfl⟩, rfl⟩
  | delete key given => exact ⟨.delete, given, rfl, (flags_iff_of_some rfl).mpr rfl, rfl⟩
  | incrOne key given => exact ⟨.incr, given, rfl, (flags_iff_of_some rfl).mpr rfl, rfl⟩
  | incr key h given =>
      refine ⟨.incr, given, rfl, (flags_iff_of_some rfl).mpr rfl, ?_⟩
      rw [command?, amount?_eq_some_iff.mpr h]
      rfl
  | decrOne key given => exact ⟨.decr, given, rfl, (flags_iff_of_some rfl).mpr rfl, rfl⟩
  | decr key h given =>
      refine ⟨.decr, given, rfl, (flags_iff_of_some rfl).mpr rfl, ?_⟩
      rw [command?, amount?_eq_some_iff.mpr h]
      rfl
  | flush => exact ⟨.flush, false, rfl, .inl ⟨rfl, rfl⟩, rfl⟩
  | stats => exact ⟨.stats, false, rfl, .inl ⟨rfl, rfl⟩, rfl⟩

/-! ### Behind a verb -/

/-- A word that belongs to a command is taken. -/
theorem takes_of_command? (h : v.command? given (before ++ word :: words) = some command) :
    v.takes before word = true := by
  rcases before with _ | ⟨key, _ | ⟨value, before⟩⟩
  · cases v with
    | init | flush | stats => cases h
    | _ => rfl
  · cases v with
    | init | get | delete | flush | stats => cases h
    | set | add | replace => rfl
    | incr | decr =>
        cases words with
        | nil =>
            obtain ⟨n, hn, -⟩ := Option.map_eq_some_iff.mp h
            simp only [takes, hn]
            rfl
        | cons => cases h
  · cases before <;> cases v <;> cases h

/-- Behind the separator everything is a word. -/
theorem arguments_separated_iff :
    v.arguments before flagged true args = .ok command ↔
      v.command? flagged (before ++ args) = some command := by
  induction args generalizing before with
  | nil =>
      simp only [arguments, List.append_nil]
      cases v.command? flagged before <;> simp
  | cons word rest ih =>
      rw [List.append_cons, ← ih]
      simp only [arguments, if_true]
      split
      · rfl
      · rename_i htakes
        rw [ih, ← List.append_cons]
        constructor
        · rintro ⟨⟩
        · exact fun h => absurd (takes_of_command? h) htakes

/-- What is understood behind a verb is a tail. -/
theorem tail_of_arguments (h : v.arguments before flagged false args = .ok command) :
    ∃ words flags given, Tail args words flags ∧ v.Flags flagged flags given ∧
      v.command? given (before ++ words) = some command := by
  induction args generalizing before flagged with
  | nil =>
      simp only [arguments] at h
      cases hc : v.command? flagged before with
      | none => simp [hc] at h
      | some command' =>
          obtain rfl : command' = command := by simpa [hc] using h
          exact ⟨[], [], flagged, .nil, .inl ⟨rfl, rfl⟩, by rw [List.append_nil, hc]⟩
  | cons arg rest ih =>
      simp only [arguments, Bool.false_eq_true, if_false] at h
      have htext := Argument.text_ofString arg
      split at h
      · rename_i word hform
        split at h
        · obtain ⟨words, flags, given, htail, hflags, hc⟩ := ih h
          obtain rfl : word = arg := by rwa [hform] at htext
          exact ⟨word :: words, flags, given, .word (Argument.isWord_of_ofString hform) htail, hflags,
            by rwa [List.append_cons]⟩
        · cases h
      · rename_i hform
        obtain rfl : "--" = arg := by rwa [hform] at htext
        exact ⟨rest, [], flagged, .separator rest, .inl ⟨rfl, rfl⟩, arguments_separated_iff.mp h⟩
      · cases h
      · cases h
      · rename_i name hne hform
        split at h
        · rename_i hflag
          obtain ⟨hflag, rfl⟩ := hflag
          obtain rfl : "--" ++ name = arg := by rwa [hform] at htext
          obtain ⟨words, flags, given, htail, hflags, hc⟩ := ih h
          obtain ⟨rfl, rfl⟩ | ⟨hfirst, -⟩ := hflags
          · exact ⟨words, [name], true, .flag name htail,
              .inr ⟨rfl, rfl, name, hflag, rfl⟩, hc⟩
          · cases hfirst
        · cases h
      · cases h

/-- A tail is understood, if it comes to a command. -/
theorem arguments_of_tail (h : Tail args words flags) (hflags : v.Flags flagged flags given)
    (hc : v.command? given (before ++ words) = some command) :
    v.arguments before flagged false args = .ok command := by
  induction h generalizing before flagged with
  | nil =>
      obtain ⟨-, rfl⟩ | ⟨-, -, _, -, hcons⟩ := hflags
      · rw [List.append_nil] at hc
        simp only [arguments, hc]
      · cases hcons
  | word h _ ih =>
      have htakes := takes_of_command? hc
      rw [List.append_cons] at hc
      simp only [arguments, Bool.false_eq_true, if_false, Argument.ofString_of_isWord h, htakes, if_true]
      exact ih hflags hc
  | flag name _ ih =>
      obtain ⟨hnil, -⟩ | ⟨rfl, rfl, name', hname, hcons⟩ := hflags
      · cases hnil
      · obtain ⟨rfl, rfl⟩ := List.cons.inj hcons
        have hform : Argument.ofString ("--" ++ name) = .long name none := by
          cases v <;> cases hname
          all_goals exact Argument.ofString_long (by decide) (by decide)
        have hne : name ≠ "help" := by
          cases v <;> cases hname
          all_goals decide
        simp only [arguments, Bool.false_eq_true, if_false, hform]
        split
        · exact ih (.inl ⟨rfl, rfl⟩) hc
        · rename_i hrefused
          exact absurd ⟨hname, trivial⟩ hrefused
  | separator words =>
      obtain ⟨-, rfl⟩ | ⟨-, -, _, -, hcons⟩ := hflags
      · have hform : Argument.ofString "--" = .separator := rfl
        simp only [arguments, Bool.false_eq_true, if_false, hform]
        exact arguments_separated_iff.mpr hc
      · cases hcons

/-- **What is understood behind a verb**: words and flags with which it means a deed, whose command it
comes to. -/
theorem arguments_eq_ok_iff :
    (∃ v : Verb, verb = v.name ∧ v.arguments [] false false args = .ok command) ↔
      ∃ words flags deed, Tail args words flags ∧ Means verb words flags deed ∧
        command = deed.command := by
  constructor
  · rintro ⟨v, rfl, h⟩
    obtain ⟨words, flags, given, htail, hflags, hc⟩ := tail_of_arguments h
    obtain ⟨deed, hmeans, hcommand⟩ := means_of_command? hflags hc
    exact ⟨words, flags, deed, htail, hmeans, hcommand⟩
  · rintro ⟨words, flags, deed, htail, hmeans, rfl⟩
    obtain ⟨v, given, rfl, hflags, hc⟩ := command?_of_means hmeans
    exact ⟨v, rfl, arguments_of_tail htail hflags hc⟩

end Verb

end BucketStore.CommandLine
