import BucketStore.Proofs.Holdings

/-!
# Transcripts of the Command Line

Every call of the program opens the store, makes one request and closes the store again, perhaps
with another configuration than the call before. Still a row of calls on one path behaves like one
store that is never closed: what the calls show and what they leave is what their deeds do with the
holdings, one after the other, from no bucket at first (`Holdings.Runs`).

A call comes with what it asks for (`Call`). Under which configuration its deed is to be done hangs on
the configuration file that it finds (`Call.order?`). The file may come and go with the directories
that earlier calls have made, so a row of calls is read along the volumes that it goes through
(`orders?`).

## Main results

* `Call.run_of_order`: a call that comes to an order performs the command of its deed.
* `Keeps.run`, `Keeps.runAll`: one call, and a row of calls, do their deeds.
* `Holdings.Runs.unique`: the holdings say what is shown and left.
* `transcript_runs`: transcripts of calls on a path where no store is at first.
-/

namespace BucketStore

namespace CommandLine

/-! ### Calls -/

/-- One **call** of the program, and what it asks for. -/
structure Call where
  /-- The store file that the environment names. -/
  environment : Option String
  /-- The arguments. -/
  args : List String
  /-- The options that are chosen. -/
  choice : Setting → Option String
  /-- The deed that is asked for. -/
  deed : Deed
  /-- The arguments ask for it. -/
  asks : Asks environment args choice deed

/-- What a call comes to: a deed, to be done under a configuration. -/
structure Order where
  /-- The configuration. -/
  config : Config
  /-- The deed. -/
  deed : Deed

namespace Call

/-- Runs the program. -/
def run (call : Call) (v : Volume) : Outcome × Volume :=
  CommandLine.run v call.environment call.args

/-- The configuration that a call finds, with the chosen options put over it. -/
def config? (call : Call) (v : Volume) : Option Config :=
  match Config.load v ((call.choice .config).getD "bloomkv.toml") with
  | .error _ => none
  | .ok c => some { c with
    store := {
      path := (call.choice .db).getD c.store.path
      bucket := (call.choice .bucket).getD c.store.bucket }
    logging := { level := (call.choice .level).getD c.logging.level } }

/-- The **order** that a call comes to: its configuration is found and nothing is wrong with it, and the
store is the one of the path. -/
def order? (call : Call) (v : Volume) (path : String) : Option Order :=
  match call.config? v with
  | none => none
  | some c => if c.fault?.isNone ∧ c.store.path = path then some ⟨c, call.deed⟩ else none

end Call

/-- What shows of an outcome whose errors are not looked at. -/
def Outcome.shown (o : Outcome) : Shown :=
  (o.exit, o.output)

/-- The outcomes of a row of calls. -/
def outcomes (v : Volume) : List Call → List Outcome
  | [] => []
  | call :: rest => (call.run v).1 :: outcomes (call.run v).2 rest

/-- The volume after a row of calls. -/
def volumeAfter (v : Volume) : List Call → Volume
  | [] => v
  | call :: rest => volumeAfter (call.run v).2 rest

/-- The orders that a row of calls comes to, if each of them comes to one on the path. -/
def orders? (path : String) (v : Volume) : List Call → Option (List Order)
  | [] => some []
  | call :: rest => do
    let order ← call.order? v path
    let orders ← orders? path (call.run v).2 rest
    some (order :: orders)

/-- Where nothing is wrong with a configuration, its bucket has a proper name. -/
theorem name_of_sound {c : Config} (h : c.fault? = none) :
    ∃ n, BucketName.ofString c.store.bucket = .ok n := by
  rw [Config.fault?] at h
  cases hn : BucketName.ofString c.store.bucket with
  | error fault => simp [hn] at h
  | ok n => exact ⟨n, rfl⟩

/-- **A call that comes to an order performs the command of its deed**, on a bucket with a proper name of
the path's store. -/
theorem Call.run_of_order {call : Call} {v : Volume} {path : String} {o : Order}
    (h : call.order? v path = some o) :
    (call.run v).1.shown = shown (o.deed.command.perform o.config v).1 ∧
      (call.run v).2 = (o.deed.command.perform o.config v).2 ∧
      o.config.store.path = path ∧ ∃ n, BucketName.ofString o.config.store.bucket = .ok n := by
  obtain ⟨environment, args, choice, deed, asks⟩ := call
  obtain ⟨settings, rfl⟩ := Settings.get_surjective choice
  have hinv : Invocation.ofArguments environment args = .ok ⟨settings, deed.command⟩ :=
    ofArguments_eq_ok_iff.mpr ⟨deed, asks, rfl⟩
  simp only [Call.order?, Call.config?] at h
  cases hc : Config.load v ((settings.get .config).getD "bloomkv.toml") with
  | error e => simp [hc] at h
  | ok c =>
      simp only [hc, Option.isNone_iff_eq_none, Option.ite_none_right_eq_some, Option.some.injEq] at h
      obtain ⟨⟨hfault, hpath⟩, ho⟩ := h
      -- The chosen options are those of the invocation, and are put over the same configuration.
      have hconfig : (Invocation.mk settings deed.command).override c = o.config := by
        rw [← ho]
        rfl
      have hperform : (Invocation.mk settings deed.command).perform v =
          deed.command.perform o.config v := by
        have hload : Config.load v (Invocation.mk settings deed.command).configPath = .ok c := hc
        have hsound : o.config.fault? = none := by
          rw [← ho]
          exact hfault
        simp only [Invocation.perform, hload, hconfig, hsound]
      subst ho
      simp only [Call.run, CommandLine.run, hinv, hperform]
      refine ⟨?_, ?_, hpath, name_of_sound hfault⟩
      all_goals
        generalize deed.command.perform _ v = performed
        rcases performed with ⟨failure | output, v'⟩
        · rfl
        · rfl

end CommandLine

open CommandLine

/-! ### Rows of deeds -/

/-- What a row of deeds shows and leaves, **run** one after the other. -/
inductive Holdings.Runs : Holdings → List Order → List Shown → Holdings → Prop
  | nil (m : Holdings) : Runs m [] [] m
  | cons {m m₁ m₂ : Holdings} {o : Order} {orders : List Order} {shown : Shown}
      {shows : List Shown} (first : m.Does o.config o.deed shown m₁)
      (rest : Runs m₁ orders shows m₂) : Runs m (o :: orders) (shown :: shows) m₂

/-- **A row of deeds runs in one way.** -/
theorem Holdings.Runs.unique {m m₁ m₂ : Holdings} {orders : List Order} {shows₁ shows₂ : List Shown}
    (h₁ : m.Runs orders shows₁ m₁) (h₂ : m.Runs orders shows₂ m₂) : shows₁ = shows₂ ∧ m₁ = m₂ := by
  induction h₁ generalizing shows₂ with
  | nil =>
      cases h₂
      exact ⟨rfl, rfl⟩
  | cons first _ ih =>
      cases h₂ with
      | cons first' rest' =>
          obtain ⟨rfl, rfl⟩ := first.unique first'
          obtain ⟨rfl, rfl⟩ := ih rest'
          exact ⟨rfl, rfl⟩

/-! ### Rows of calls -/

namespace Volume

variable {v : Volume} {path : String} {m : Holdings}

/-- What is held under a path: the tables of the store that can be leased there, if there is one. -/
def holdingsAt (v : Volume) (path : String) : Holdings :=
  match v.lease path with
  | .ok (_, s, _) => fun name => (s.bucket? name).toOption.join
  | .error _ => fun _ => none

/-- A path is **vacant** if no store is there with a table in it, and one can be made: once the
directories above it are there, an empty store can be leased. -/
def Vacant (v : Volume) (path : String) : Prop :=
  ∃ made place leased, v.makeParents (Path.ofString path) = (.ok (), made) ∧
    made.lease path = .ok (place, ∅, leased)

/-- A path is vacant if there is no file, but a place for one once the directories above it are
made. -/
theorem vacant_of_missing {made : Volume} {place : Location}
    (hmake : v.makeParents (Path.ofString path) = (.ok (), made)) (hrefuse : refuse path = .ok ())
    (htarget : made.target (Path.ofString path).names = .ok (.named place))
    (hslashed : (Path.ofString path).slashed = false) (hmissing : made.at? place = none) :
    v.Vacant path := by
  have hopen : made.openFile path = .ok (place, .bytes []) :=
    openFile_eq_ok_iff.mpr ⟨hrefuse, htarget, hslashed, .inl ⟨hmissing, rfl⟩⟩
  exact ⟨made, place, _, hmake, by simp only [lease, hopen]; rfl⟩

/-- Under a vacant path nothing is held. -/
theorem Vacant.keeps (h : v.Vacant path) : Keeps path v fun _ => none := by
  obtain ⟨made, place, leased, hmake, hlease⟩ := h
  cases hv : v.lease path with
  | error fault => exact .vacant hv hmake hlease
  | ok opened =>
      -- A file that can be leased has its directories, so it is the empty one already.
      obtain ⟨place', s, leased'⟩ := opened
      obtain ⟨_, hopen, -⟩ := lease_eq_ok hv
      rw [makeParents_of_openFile hopen] at hmake
      cases hmake
      exact .file hlease fun _ => rfl

namespace Keeps

/-- The holdings that a volume keeps are those that can be found there. -/
theorem holdingsAt_eq (h : Keeps path v m) : v.holdingsAt path = m := by
  funext name
  cases h with
  | file lease holds =>
      simp only [holdingsAt, lease, holds.bucket?]
      rfl
  | vacant missing _ _ => simp only [holdingsAt, missing]

/-- **A call does its deed** on the holdings. -/
theorem run (h : Keeps path v m) {call : Call} {o : Order} (ho : call.order? v path = some o) :
    ∃ m', m.Does o.config o.deed (call.run v).1.shown m' ∧ Keeps path (call.run v).2 m' := by
  obtain ⟨hshown, hvolume, rfl, n, hn⟩ := Call.run_of_order ho
  rw [hshown, hvolume]
  exact h.perform hn o.deed

/-- A row of calls does its deeds on the holdings. -/
theorem runAll (h : Keeps path v m) {calls : List Call} {orders : List Order}
    (horders : orders? path v calls = some orders) :
    ∃ m', m.Runs orders ((outcomes v calls).map Outcome.shown) m' ∧
      Keeps path (volumeAfter v calls) m' := by
  induction calls generalizing v m orders with
  | nil =>
      cases horders
      exact ⟨m, .nil m, h⟩
  | cons call rest ih =>
      simp only [orders?, Option.bind_eq_bind, Option.bind_eq_some_iff, Option.some.injEq]
        at horders
      obtain ⟨o, ho, others, hothers, rfl⟩ := horders
      obtain ⟨m₁, hdoes, hnext⟩ := h.run ho
      obtain ⟨m₂, hruns, hafter⟩ := ih hnext hothers
      exact ⟨m₂, .cons hdoes hruns, hafter⟩

end Keeps

end Volume

namespace CommandLine

/-- **A row of calls behaves like one store.** Take any calls on one path under which there is no
store at first, each with its own bucket and its own sizes of filters. What they show is what their
deeds show, run on the holdings from none at first, and what can be found under the path afterwards is
what the deeds leave; and there is only one way in which they run. Any further call does its deed on
what can be found there, and if it exits with one, it leaves that as it was. -/
theorem transcript_runs {v : Volume} {path : String} (hvacant : v.Vacant path)
    {calls : List Call} {orders : List Order} (horders : orders? path v calls = some orders) :
    Holdings.Runs (fun _ => none) orders ((outcomes v calls).map Outcome.shown)
        ((volumeAfter v calls).holdingsAt path) ∧
      (∀ (shows : List Shown) (m : Holdings), Holdings.Runs (fun _ => none) orders shows m →
        (outcomes v calls).map Outcome.shown = shows ∧ (volumeAfter v calls).holdingsAt path = m) ∧
      ∀ (call : Call) (o : Order), call.order? (volumeAfter v calls) path = some o →
        Holdings.Does ((volumeAfter v calls).holdingsAt path) o.config o.deed
            (call.run (volumeAfter v calls)).1.shown
            ((call.run (volumeAfter v calls)).2.holdingsAt path) ∧
          ((call.run (volumeAfter v calls)).1.exit = 1 →
            (call.run (volumeAfter v calls)).2.holdingsAt path =
              (volumeAfter v calls).holdingsAt path) := by
  obtain ⟨m, hruns, hkeeps⟩ := hvacant.keeps.runAll horders
  rw [hkeeps.holdingsAt_eq]
  refine ⟨hruns, fun _ _ => hruns.unique, fun call o ho => ?_⟩
  obtain ⟨m', hdoes, hnext⟩ := hkeeps.run ho
  rw [hnext.holdingsAt_eq]
  exact ⟨hdoes, hdoes.eq_of_fails⟩

/-- A call on a bucket of the store that the environment names, with a configuration file. -/
def callOn (config bucket : String) (hconfig : config ≠ "") {verb : String}
    {back words flags : List String} {deed : Deed} (tail : Tail back words flags)
    (means : Means verb words flags deed) : Call where
  environment := some "data/kv"
  args := ["--" ++ Setting.config.name ++ "=" ++ config, "--" ++ Setting.bucket.name ++ "=" ++ bucket] ++
    verb :: back
  choice := chosen [(.config, config), (.bucket, bucket)] (some "data/kv")
  deed := deed
  asks := .mk (.cons .longJoined (.cons .longJoined .nil)) (by simp)
    (by simp [Setting.IsPath, hconfig]) (fun _ => by decide) tail means

/-- A volume with a configuration file for filters of few keys, and without any store. -/
def sizedVolume : Volume :=
  Volume.empty.put ["few.toml"] (.file (.bytes (bytes "[filter]\nmax_keys_per_bucket = 7\n")))

/-- Calls on two buckets, with filters of two sizes. -/
def twoBuckets : List Call :=
  have few : "few.toml" ≠ "" := by decide
  have missing : "none" ≠ "" := by decide
  [callOn "few.toml" "b" few (.separator ["k"]) (.get "k"),
    callOn "few.toml" "b" few .nil .init,
    callOn "none" "c" missing (.separator ["k"]) (.get "k"),
    callOn "none" "c" missing .nil .init,
    callOn "few.toml" "c" few (.separator ["k", "7"]) (.set "k" "7"),
    callOn "none" "b" missing .nil .init,
    callOn "none" "b" missing (.separator ["x", "y"]) (.set "x" "y"),
    callOn "few.toml" "b" few (.separator ["x"]) (.delete "x" false),
    callOn "none" "b" missing .nil .flush]

/-- A call that adds five to a number, which may be created. -/
def addingFive : Call :=
  have five : IsAmount "5" 5 := ⟨[5], by decide, .inl (by decide), by decide, by decide⟩
  callOn "none" "c" (by decide) (.flag "create" (.separator ["k", "5"])) (.incr "k" five true)

/-- The store is in a directory that the first `init` makes. The last call finds the seven that was
stored in one bucket while the other was filled and flushed. -/
theorem runs_of_two_buckets :
    (∃ orders, orders? "data/kv" sizedVolume twoBuckets = some orders ∧
      Holdings.Runs (fun _ => none) orders
        [fails, prints "OK", fails, prints "OK", prints "STORED", prints "OK", prints "STORED",
          prints "DELETED", prints "OK"]
        ((volumeAfter sizedVolume twoBuckets).holdingsAt "data/kv")) ∧
      (addingFive.run (volumeAfter sizedVolume twoBuckets)).1.shown = prints "12" := by
  have hsome : (orders? "data/kv" sizedVolume twoBuckets).isSome = true := by decide +kernel
  obtain ⟨orders, horders⟩ := Option.isSome_iff_exists.mp hsome
  have hmake : (sizedVolume.makeParents (Path.ofString "data/kv")).1 = .ok () := by decide +kernel
  have hmissing : ((sizedVolume.makeParents (Path.ofString "data/kv")).2.at?
      ["data", "kv"]).isNone = true := by decide +kernel
  have hvacant : sizedVolume.Vacant "data/kv" :=
    Volume.vacant_of_missing (Prod.ext hmake rfl) (by decide +kernel)
      (by decide +kernel) (by decide +kernel) (Option.isNone_iff_eq_none.mp hmissing)
  have hshown : (outcomes sizedVolume twoBuckets).map Outcome.shown =
      [fails, prints "OK", fails, prints "OK", prints "STORED", prints "OK", prints "STORED",
        prints "DELETED", prints "OK"] := by
    decide +kernel
  obtain ⟨hruns, -, hnext⟩ := transcript_runs hvacant horders
  refine ⟨⟨orders, horders, hshown ▸ hruns⟩, ?_⟩
  -- What the last call prints hangs on the cache in the program, and only on the table in its deed.
  have hbucket : (addingFive.order? (volumeAfter sizedVolume twoBuckets) "data/kv").map
      (fun o => (o.config.store.bucket, o.deed)) = some ("c", .incr "k" 5 true) := by decide +kernel
  obtain ⟨o, ho, hparts⟩ := Option.map_eq_some_iff.mp hbucket
  obtain ⟨hc, hdeed⟩ := Prod.mk.inj hparts
  have hfound : ((volumeAfter sizedVolume twoBuckets).holdingsAt "data/kv" "c").bind
      (fun table => table[utf8 "k"]?) = some [0x37] := by decide +kernel
  obtain ⟨table, htable, hvalue⟩ := Option.bind_eq_some_iff.mp hfound
  have hspells : Tally.Spells [0x37] 7 := ⟨.absent, [7], by decide, rfl, by decide⟩
  have hstarts : StartsFrom table "k" true 7 := .stored hvalue hspells (by decide) (by decide)
  have hdoes := (hnext addingFive o ho).1
  rw [hdeed] at hdoes
  exact (hdoes.unique (.answered (hc ▸ htable) (.raised hstarts 5))).1

end CommandLine

end BucketStore
