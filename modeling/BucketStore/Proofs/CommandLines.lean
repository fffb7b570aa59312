import BucketStore.CommandLine.Invocation
import BucketStore.Proofs.Verbs

/-!
# Which Command Lines Are Understood

The arguments before the verb are options with their values, and the environment may stand in for one
of them. A command line is understood exactly if it is one of the language (`ofArguments_eq_ok_iff`),
and what it comes to is what it asks for: the options are the chosen ones, and the command is the one
of the deed.

## Main results

* `Settings.setAll_eq_ok_iff`: options are given their values, each at most once.
* `Invocation.arguments_eq_ok_iff`: what is understood of all arguments.
* `ofArguments_eq_ok_iff`: the same under an environment.
* `Asks.unique`: a command line asks for one deed.
-/

namespace BucketStore.CommandLine

/-! ### Options -/

instance (setting : Setting) : Decidable setting.IsPath :=
  inferInstanceAs (Decidable (_ ∨ _))

namespace Settings

variable {s s' : Settings} {setting : Setting} {value : String} {given : List (Setting × String)}

/-- The value of an option. -/
def get (s : Settings) : Setting → Option String
  | .config => s.config
  | .db => s.db
  | .bucket => s.bucket
  | .level => s.level

/-- Settings with the same options are the same. -/
theorem get_injective : Function.Injective get := by
  intro s s' h
  obtain ⟨config, db, bucket, level⟩ := s
  obtain rfl : config = s'.config := congrFun h .config
  obtain rfl : db = s'.db := congrFun h .db
  obtain rfl : bucket = s'.bucket := congrFun h .bucket
  obtain rfl : level = s'.level := congrFun h .level
  rfl

/-- Any choice of options makes settings. -/
theorem get_surjective : Function.Surjective get := by
  intro choice
  refine ⟨⟨choice .config, choice .db, choice .bucket, choice .level⟩, ?_⟩
  funext setting
  cases setting <;> rfl

/-- An option is given its value, unless it has one or is a path and the value is empty. -/
theorem exists_set (s : Settings) (setting : Setting) (value : String) :
    ∃ s' : Settings, s'.get = Function.update s.get setting (some value) ∧
      s.set setting value =
        if (s.get setting).isSome ∨ setting.IsPath ∧ value = "" then .error .misuse else .ok s' := by
  cases setting with
  | config =>
      refine ⟨{ s with config := value }, ?_, by simp [set, get, Setting.IsPath]⟩
      funext other
      cases other <;> rfl
  | db =>
      refine ⟨{ s with db := value }, ?_, by simp [set, get, Setting.IsPath]⟩
      funext other
      cases other <;> rfl
  | bucket =>
      refine ⟨{ s with bucket := value }, ?_, by simp [set, get, Setting.IsPath]⟩
      funext other
      cases other <;> rfl
  | level =>
      refine ⟨{ s with level := value }, ?_, by simp [set, get, Setting.IsPath]⟩
      funext other
      cases other <;> rfl

/-- An option is given a value once, and no path is empty. -/
theorem set_eq_ok_iff :
    s.set setting value = .ok s' ↔
      s.get setting = none ∧ (setting.IsPath → value ≠ "") ∧
        s'.get = Function.update s.get setting (some value) := by
  obtain ⟨s₁, hget, hset⟩ := s.exists_set setting value
  rw [hset, ← hget, get_injective.eq_iff]
  split
  · rename_i hrefused
    constructor
    · rintro ⟨⟩
    · rintro ⟨hnone, hpath, -⟩
      obtain hsome | ⟨his, hempty⟩ := hrefused
      · simp [hnone] at hsome
      · exact absurd hempty (hpath his)
  · rename_i hfree
    rw [not_or, Option.not_isSome_iff_eq_none, not_and] at hfree
    constructor
    · rintro ⟨⟩
      exact ⟨hfree.1, hfree.2, rfl⟩
    · rintro ⟨-, -, rfl⟩
      rfl

/-- Gives options their values, one after the other. -/
def setAll (s : Settings) : List (Setting × String) → Except Stop Settings
  | [] => .ok s
  | (setting, value) :: rest => do setAll (← s.set setting value) rest

/-- The first option is given its value before the others. -/
theorem setAll_cons_eq_ok_iff :
    s.setAll ((setting, value) :: given) = .ok s' ↔
      ∃ s₁, s.set setting value = .ok s₁ ∧ s₁.setAll given = .ok s' := by
  rw [setAll]
  cases hset : s.set setting value with
  | error stop => exact ⟨nofun, fun ⟨_, hs₁, _⟩ => nomatch hs₁⟩
  | ok s₁ =>
      constructor
      · exact fun h => ⟨s₁, rfl, h⟩
      · rintro ⟨_, ⟨⟩, h⟩
        exact h

/-- What is given first stands behind what is given later, and no option is given twice. -/
theorem lookup_cons_or (hnew : setting ∉ given.map Prod.fst) (before : Setting → Option String) :
    (fun other => (((setting, value) :: given).lookup other).or (before other)) =
      fun other => (given.lookup other).or (Function.update before setting (some value) other) := by
  funext other
  by_cases hother : other = setting
  · subst hother
    have hnone : given.lookup other = none := by
      rw [List.lookup_eq_none_iff]
      intro entry hentry
      rw [bne_iff_ne]
      rintro rfl
      exact hnew (List.mem_map_of_mem hentry)
    rw [List.lookup_cons_self, hnone, Option.none_or, Function.update_self]
    rfl
  · rw [List.lookup_cons, beq_false_of_ne hother, Function.update_of_ne hother]

/-- **Options are given their values** if none of them gets two and no path is empty. -/
theorem setAll_eq_ok_iff :
    s.setAll given = .ok s' ↔
      (∀ entry ∈ given, s.get entry.1 = none ∧ (entry.1.IsPath → entry.2 ≠ "")) ∧
        (given.map Prod.fst).Nodup ∧
        s'.get = fun setting => (given.lookup setting).or (s.get setting) := by
  induction given generalizing s with
  | nil =>
      constructor
      · rintro ⟨⟩
        exact ⟨fun _ h => absurd h List.not_mem_nil, List.nodup_nil, rfl⟩
      · rintro ⟨-, -, hget⟩
        rw [get_injective hget]
        rfl
  | cons entry rest ih =>
      obtain ⟨setting, value⟩ := entry
      rw [setAll_cons_eq_ok_iff, List.forall_mem_cons, List.map_cons, List.nodup_cons]
      constructor
      · rintro ⟨s₁, hset, hrest⟩
        obtain ⟨hnone, hpath, hget⟩ := set_eq_ok_iff.mp hset
        obtain ⟨hfree, honce, hget'⟩ := ih.mp hrest
        rw [hget] at hfree hget'
        have hother : ∀ entry ∈ rest, entry.1 ≠ setting := by
          rintro entry hentry rfl
          simpa using (hfree entry hentry).1
        have hnew : setting ∉ rest.map Prod.fst := fun hmem =>
          have ⟨entry, hentry, heq⟩ := List.mem_map.mp hmem
          hother entry hentry heq
        refine ⟨⟨⟨hnone, hpath⟩, fun entry hentry => ?_⟩, ⟨hnew, honce⟩, ?_⟩
        · rw [← Function.update_of_ne (hother entry hentry) (some value) s.get]
          exact hfree entry hentry
        · rw [hget', lookup_cons_or hnew]
      · rintro ⟨⟨⟨hnone, hpath⟩, hfree⟩, ⟨hnew, honce⟩, hget⟩
        obtain ⟨s₁, hs₁, -⟩ := s.exists_set setting value
        refine ⟨s₁, set_eq_ok_iff.mpr ⟨hnone, hpath, hs₁⟩, ih.mpr ⟨fun entry hentry => ?_, honce, ?_⟩⟩
        · have hother : entry.1 ≠ setting := by
            rintro rfl
            exact hnew (List.mem_map.mpr ⟨entry, hentry, rfl⟩)
          rw [hs₁, Function.update_of_ne hother]
          exact hfree entry hentry
        · rw [hget, hs₁, lookup_cons_or hnew]

/-- Options are given their values from none at first. -/
theorem setAll_empty_eq_ok_iff :
    ({} : Settings).setAll given = .ok s ↔
      (∀ entry ∈ given, entry.1.IsPath → entry.2 ≠ "") ∧ (given.map Prod.fst).Nodup ∧
        s.get = fun setting => given.lookup setting := by
  have hempty : ({} : Settings).get = fun _ => none := by
    funext setting
    cases setting <;> rfl
  simp only [setAll_eq_ok_iff, hempty, Option.or_none, true_and]

end Settings

/-! ### All arguments -/

namespace Setting

variable {setting : Setting} {name : String} {letter : Char}

theorem ofLong?_eq_some_iff : ofLong? name = some setting ↔ name = setting.name := by
  constructor
  · intro h
    unfold ofLong? at h
    split at h
    all_goals cases h
    all_goals rfl
  · rintro rfl
    cases setting <;> rfl

theorem ofShort?_eq_some_iff : ofShort? letter = some setting ↔ setting.letter? = some letter := by
  constructor
  · intro h
    unfold ofShort? at h
    split at h
    all_goals cases h
    all_goals rfl
  · intro h
    cases setting <;> cases h
    all_goals rfl

end Setting

namespace Invocation

variable {s : Settings} {setting : Setting} {value verb : String} {args front back rest : List String}
  {given : List (Setting × String)} {inv : Invocation}

/-- Goes on behind the name of an option, to which a value may be joined. -/
def named (s : Settings) (setting : Setting) (rest : List String) :
    Option String → Except Stop Invocation
  | none => arguments s (some setting) rest
  | some value => do arguments (← s.set setting value) none rest

/-- The value that is joined to a short name. -/
def joined? : List Char → Option String
  | [] => none
  | c :: value => some (String.ofList (if c = '=' then value else c :: value))

/-- An option that is due gets the next word. -/
theorem named_word (h : IsWord value) :
    named s setting (value :: rest) none = named s setting rest (some value) := by
  simp only [named, arguments, Argument.ofString_of_isWord h]

/-- An option by its long name. -/
theorem arguments_long {arg : String} {joined : Option String}
    (h : Argument.ofString arg = .long setting.name joined) :
    arguments s none (arg :: rest) = named s setting rest joined := by
  simp only [arguments, h]
  cases setting <;> cases joined <;> rfl

/-- An option by its short name. -/
theorem arguments_short {arg : String} {letter : Char} {attached : List Char}
    (hletter : setting.letter? = some letter) (h : Argument.ofString arg = .short letter attached) :
    arguments s none (arg :: rest) = named s setting rest (joined? attached) := by
  simp only [arguments, h]
  rcases attached with _ | ⟨c, value⟩
  · cases setting <;> cases hletter <;> rfl
  · by_cases hc : c = '='
    · subst hc
      cases setting <;> cases hletter <;> rfl
    · rw [joined?, if_neg hc]
      cases setting <;> cases hletter
      all_goals
        simp only [Char.reduceEq, imp_self, Setting.ofShort?, List.cons.injEq, hc, false_and,
          implies_true]
        rfl

/-- An option that is written with its value is given it. -/
theorem arguments_written (h : Written setting value front) (rest : List String) :
    arguments s none (front ++ rest) = named s setting rest (some value) := by
  have hletter : ∀ letter, setting.letter? = some letter → letter ≠ '-' := by
    rintro letter hletter rfl
    cases setting <;> cases hletter
  cases h with
  | long h =>
      have hform : Argument.ofString ("--" ++ setting.name) = .long setting.name none := by
        cases setting
        all_goals exact Argument.ofString_long (by decide) (by decide)
      exact (arguments_long hform).trans (named_word h)
  | longJoined =>
      have hform : Argument.ofString ("--" ++ setting.name ++ "=" ++ value) =
          .long setting.name (some value) := by
        cases setting
        all_goals exact Argument.ofString_longJoined (by decide)
      exact arguments_long hform
  | short hshort h =>
      exact (arguments_short hshort (Argument.ofString_short (hletter _ hshort))).trans (named_word h)
  | shortJoined hshort =>
      have hjoined : joined? ('=' :: value.toList) = some value := by
        rw [joined?, if_pos rfl, String.ofList_toList]
      rw [← hjoined]
      exact arguments_short hshort (Argument.ofString_short (hletter _ hshort))
  | attached hshort hne hequals =>
      have hjoined : joined? value.toList = some value := by
        obtain ⟨c, cs, hcs⟩ := List.exists_cons_of_ne_nil (mt String.toList_eq_nil_iff.mp hne)
        have hc : c ≠ '=' := by
          rintro rfl
          exact hequals (by rw [hcs, List.head?_cons])
        rw [hcs, joined?, if_neg hc, ← hcs, String.ofList_toList]
      rw [← hjoined]
      exact arguments_short hshort (Argument.ofString_short (hletter _ hshort))

/-- An option without its value is followed by it. -/
theorem word_of_named (h : named s setting args none = .ok inv) :
    ∃ value rest, args = value :: rest ∧ IsWord value ∧ named s setting rest (some value) = .ok inv := by
  cases args with
  | nil => cases h
  | cons value rest =>
      simp only [named, arguments] at h
      split at h
      · rename_i value' hdue hform
        have htext := Argument.text_ofString value
        rw [hform] at htext
        obtain rfl : value' = value := htext
        cases hdue
        exact ⟨value', rest, rfl, Argument.isWord_of_ofString hform, h⟩
      all_goals first | cases h | contradiction

/-- A verb ends the options. -/
theorem arguments_verb (s : Settings) (v : Verb) (back : List String) :
    arguments s none (v.name :: back) =
      (v.arguments [] false false back).map fun command => ⟨s, command⟩ := by
  have hword : IsWord v.name := by
    cases v
    all_goals
      intro rest h
      simp [Verb.name] at h
  simp only [arguments, Argument.ofString_of_isWord hword]
  cases v <;> rfl

/-- What is understood behind the name of an option starts with its value. -/
theorem written_of_named {arg : String} {joined : Option String}
    (h : named s setting args joined = .ok inv)
    (hnext : ∀ value, joined = none → IsWord value → Written setting value [arg, value])
    (hjoined : ∀ value, joined = some value → Written setting value [arg]) :
    ∃ value front rest, Written setting value front ∧ arg :: args = front ++ rest ∧
      named s setting rest (some value) = .ok inv := by
  cases joined with
  | none =>
      obtain ⟨value, rest, rfl, hword, h⟩ := word_of_named h
      exact ⟨value, [arg, value], rest, hnext value rfl hword, rfl, h⟩
  | some value => exact ⟨value, [arg], args, hjoined value rfl, rfl, h⟩

/-- What is understood behind a long name. -/
theorem written_of_long {joined : Option String} (h : named s setting args joined = .ok inv) :
    ∃ value front rest, Written setting value front ∧
      (Argument.long setting.name joined).text :: args = front ++ rest ∧
      named s setting rest (some value) = .ok inv := by
  refine written_of_named h ?_ ?_
  · rintro value rfl hword
    exact .long hword
  · rintro value rfl
    exact .longJoined

/-- What is understood behind a short name. -/
theorem written_of_short {letter : Char} {attached : List Char}
    (hletter : setting.letter? = some letter)
    (h : named s setting args (joined? attached) = .ok inv) :
    ∃ value front rest, Written setting value front ∧
      (Argument.short letter attached).text :: args = front ++ rest ∧
      named s setting rest (some value) = .ok inv := by
  rcases attached with _ | ⟨c, cs⟩
  · exact written_of_named h (fun _ _ hword => .short hletter hword) nofun
  · refine written_of_named h nofun fun value hvalue => ?_
    cases hvalue
    by_cases hc : c = '='
    · subst hc
      have hwritten : Written setting (String.ofList cs) _ := .shortJoined hletter
      rwa [String.toList_ofList] at hwritten
    · rw [if_neg hc]
      have hwritten : Written setting (String.ofList (c :: cs)) _ := .attached hletter
        (mt String.toList_eq_nil_iff.mpr (by simp)) (by simpa using hc)
      rwa [String.toList_ofList] at hwritten

/-- What is understood starts with a verb or with an option and its value. -/
theorem verb_or_option_of_arguments (h : arguments s none args = .ok inv) :
    (∃ v back, args = Verb.name v :: back) ∨
      ∃ setting value front rest, Written setting value front ∧ args = front ++ rest ∧
        named s setting rest (some value) = .ok inv := by
  cases args with
  | nil => cases h
  | cons arg rest =>
      have htext := Argument.text_ofString arg
      have hwhole := h
      -- Of the forms of an argument only verbs and the names of options are gone on behind.
      simp only [arguments] at h
      split at h
      · contradiction
      · contradiction
      · cases h
      · rename_i word _ _ hform
        rw [hform] at htext
        obtain rfl : word = arg := htext
        split at h
        · cases h
        · rename_i v hverb
          exact .inl ⟨v, rest, by rw [Verb.ofString?_eq_some_iff.mp hverb]⟩
      · cases h
      · cases h
      · cases h
      · cases h
      · cases h
      · rename_i name joined _ _ _ hform
        cases hsetting : Setting.ofLong? name with
        | none =>
            rw [hsetting] at h
            cases h
        | some setting =>
            obtain rfl := Setting.ofLong?_eq_some_iff.mp hsetting
            rw [arguments_long hform] at hwhole
            rw [hform] at htext
            exact .inr ⟨setting, htext ▸ written_of_long hwhole⟩
      · rename_i letter attached _ _ _ hform
        cases hsetting : Setting.ofShort? letter with
        | none =>
            rw [hsetting] at h
            cases h
        | some setting =>
            have hletter := Setting.ofShort?_eq_some_iff.mp hsetting
            rw [arguments_short hletter hform] at hwhole
            rw [hform] at htext
            exact .inr ⟨setting, htext ▸ written_of_short hletter hwhole⟩

/-- What is understood of all arguments: options with their values, a verb, and what is understood
behind it. -/
theorem arguments_eq_ok_iff :
    arguments s none args = .ok inv ↔
      ∃ front given v back, Options front given ∧ args = front ++ Verb.name v :: back ∧
        s.setAll given = .ok inv.settings ∧ v.arguments [] false false back = .ok inv.command := by
  constructor
  · intro h
    induction hlen : args.length using Nat.strong_induction_on generalizing s args with
    | _ n ih =>
        obtain ⟨v, back, rfl⟩ | ⟨setting, value, front, rest, hwritten, rfl, hnamed⟩ :=
          verb_or_option_of_arguments h
        · rw [arguments_verb] at h
          cases hc : v.arguments [] false false back with
          | error stop =>
              rw [hc] at h
              cases h
          | ok command =>
              rw [hc] at h
              cases h
              exact ⟨[], [], v, back, .nil, rfl, rfl, hc⟩
        · have hshorter : rest.length < n := by
            rw [← hlen, List.length_append]
            cases hwritten <;> simp
          rw [named] at hnamed
          cases hset : s.set setting value with
          | error stop =>
              rw [hset] at hnamed
              cases hnamed
          | ok s₁ =>
              rw [hset] at hnamed
              obtain ⟨front', given, v, back, hoptions, rfl, hall, hc⟩ := ih _ hshorter hnamed rfl
              exact ⟨front ++ front', (setting, value) :: given, v, back, .cons hwritten hoptions,
                (List.append_assoc ..).symm, Settings.setAll_cons_eq_ok_iff.mpr ⟨s₁, hset, hall⟩, hc⟩
  · rintro ⟨front, given, v, back, hoptions, rfl, hall, hc⟩
    induction hoptions generalizing s with
    | nil =>
        rw [List.nil_append, arguments_verb, hc]
        cases hall
        rfl
    | cons hwritten _ ih =>
        obtain ⟨s₁, hset, hrest⟩ := Settings.setAll_cons_eq_ok_iff.mp hall
        rw [List.append_assoc, arguments_written hwritten, named, hset]
        exact ih hrest

/-- What stands in for one option changes only that one. -/
theorem or_fallback (choice : Setting → Option String) (environment : Option String) :
    (fun setting => (choice setting).or (if setting = .db then environment else none)) =
      Function.update choice .db ((choice .db).or environment) := by
  funext setting
  by_cases hsetting : setting = .db
  · rw [hsetting, if_pos rfl, Function.update_self]
  · rw [if_neg hsetting, Function.update_of_ne hsetting, Option.or_none]

/-- The environment names the store file where no option does, and not by an empty path. -/
theorem withEnvironment_eq_ok_iff {inv' : Invocation} {environment : Option String} :
    inv.withEnvironment environment = .ok inv' ↔
      (inv.settings.get .db = none → environment ≠ some "") ∧
        (inv'.settings.get = fun setting =>
          (inv.settings.get setting).or (if setting = .db then environment else none)) ∧
        inv'.command = inv.command := by
  obtain ⟨settings', command'⟩ := inv'
  rw [or_fallback]
  unfold withEnvironment
  split
  · rename_i path hdb
    have hnone : inv.settings.get .db = none := hdb
    rw [hnone, Option.none_or]
    constructor
    · intro h
      cases hset : inv.settings.set .db path with
      | error stop =>
          rw [hset] at h
          cases h
      | ok s =>
          rw [hset] at h
          cases h
          obtain ⟨-, hpath, hget⟩ := Settings.set_eq_ok_iff.mp hset
          exact ⟨fun _ => mt Option.some.inj (hpath (.inr rfl)), hget, rfl⟩
    · rintro ⟨hpath, hget, rfl⟩
      have hset : inv.settings.set .db path = .ok settings' :=
        Settings.set_eq_ok_iff.mpr ⟨hnone, fun _ => mt (congrArg some) (hpath rfl), hget⟩
      rw [hset]
      rfl
  · rename_i environment _ _ hother
    have hnone : inv.settings.get .db = none → environment = none := fun hdb =>
      Option.eq_none_iff_forall_not_mem.mpr fun path hpath => hother path hdb hpath
    have hsame : (inv.settings.get .db).or environment = inv.settings.get .db := by
      cases hdb : inv.settings.get .db with
      | none => rw [hnone hdb, Option.none_or]
      | some path => rw [Option.some_or]
    rw [hsame, Function.update_eq_self]
    constructor
    · rintro ⟨⟩
      exact ⟨fun hdb => by rw [hnone hdb]; exact nofun, rfl, rfl⟩
    · rintro ⟨-, hget, rfl⟩
      cases Settings.get_injective hget
      rfl

end Invocation

/-- **The language of the command line.** Arguments are understood under an environment if they ask for
a deed. The options are then the chosen ones, and the command is the one of the deed. -/
theorem ofArguments_eq_ok_iff {environment : Option String} {args : List String} {inv : Invocation} :
    Invocation.ofArguments environment args = .ok inv ↔
      ∃ deed, Asks environment args inv.settings.get deed ∧ inv.command = deed.command := by
  constructor
  · intro h
    rw [Invocation.ofArguments] at h
    cases hargs : Invocation.arguments {} none args with
    | error stop =>
        rw [hargs] at h
        cases h
    | ok inv₀ =>
        rw [hargs] at h
        obtain ⟨front, given, v, back, hoptions, rfl, hall, hc⟩ :=
          Invocation.arguments_eq_ok_iff.mp hargs
        obtain ⟨hfallback, hget, hcommand⟩ := Invocation.withEnvironment_eq_ok_iff.mp h
        obtain ⟨hpaths, honce, hget₀⟩ := Settings.setAll_empty_eq_ok_iff.mp hall
        obtain ⟨words, flags, deed, htail, hmeans, hdeed⟩ := Verb.arguments_eq_ok_iff.mp ⟨v, rfl, hc⟩
        rw [hget₀] at hfallback hget
        rw [hget]
        exact ⟨deed, .mk hoptions honce hpaths hfallback htail hmeans, hcommand.trans hdeed⟩
  · rintro ⟨deed, hasks, hcommand⟩
    generalize hchosen : inv.settings.get = chosen at hasks
    obtain ⟨hoptions, honce, hpaths, hfallback, htail, hmeans⟩ := hasks
    rename_i front back words flags given verb
    obtain ⟨s, hs⟩ := Settings.get_surjective fun setting => given.lookup setting
    obtain ⟨v, rfl, hc⟩ := Verb.arguments_eq_ok_iff.mpr ⟨words, flags, deed, htail, hmeans, rfl⟩
    have hall : ({} : Settings).setAll given = .ok s :=
      Settings.setAll_empty_eq_ok_iff.mpr ⟨hpaths, honce, hs⟩
    have hargs : Invocation.arguments {} none (front ++ v.name :: back) = .ok ⟨s, deed.command⟩ :=
      Invocation.arguments_eq_ok_iff.mpr ⟨front, given, v, back, hoptions, rfl, hall, hc⟩
    rw [Invocation.ofArguments, hargs]
    refine Invocation.withEnvironment_eq_ok_iff.mpr ⟨?_, ?_, hcommand⟩
    · rwa [hs]
    · rw [hchosen, hs]
      rfl

/-- **A command line asks for one deed.** -/
theorem Asks.unique {environment : Option String} {args : List String}
    {choice₁ choice₂ : Setting → Option String} {deed₁ deed₂ : Deed}
    (h₁ : Asks environment args choice₁ deed₁) (h₂ : Asks environment args choice₂ deed₂) :
    choice₁ = choice₂ ∧ deed₁ = deed₂ := by
  obtain ⟨settings₁, rfl⟩ := Settings.get_surjective choice₁
  obtain ⟨settings₂, rfl⟩ := Settings.get_surjective choice₂
  have hinv₁ : Invocation.ofArguments environment args = .ok ⟨settings₁, deed₁.command⟩ :=
    ofArguments_eq_ok_iff.mpr ⟨deed₁, h₁, rfl⟩
  have hinv₂ : Invocation.ofArguments environment args = .ok ⟨settings₂, deed₂.command⟩ :=
    ofArguments_eq_ok_iff.mpr ⟨deed₂, h₂, rfl⟩
  obtain ⟨rfl, hcommand⟩ := Invocation.mk.inj (Except.ok.inj (hinv₁.symm.trans hinv₂))
  exact ⟨rfl, Deed.command_injective hcommand⟩

end BucketStore.CommandLine
