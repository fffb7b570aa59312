import BucketStore.CommandLine.Run
import BucketStore.Proofs.CommandLines
import BucketStore.Proofs.Deeds
import BucketStore.Proofs.FailedRequests
import BucketStore.Proofs.Isolation
import BucketStore.Proofs.Parents
import BucketStore.Proofs.PlainStore
import BucketStore.Proofs.Reopening
import BucketStore.Proofs.TallyTexts

/-!
# Commands Do Their Deeds

A command opens the store, makes one request, and closes the store again. What it shows and what it
leaves is what its deed does with the holdings (`Keeps.perform`): a volume that keeps some holdings
under a path goes on to keep those that are left.

A volume keeps holdings in one of two ways (`Volume.Keeps`). There is a file, which can be leased,
with just these tables; or nothing is held, the path does not even lead to a place for a file, and
only making the directories above it helps.

Only the statistics need more than the tables, and there it is the sizes that filters are configured
with: a cache that was opened just now has been through nothing but loading its keys.

## Main results

* `store_serve`: the tables that a request leaves are those of the plain store.
* `answers_serve`: a request just after opening answers as its deed does.
* `Keeps.perform`: a command does its deed.
-/

namespace BucketStore

/-! ### Holdings of a store -/

/-- A store **holds** exactly some tables: those, as bucket's tables, and no others. -/
def Store.Holds (s : Store) (m : Holdings) : Prop :=
  ∀ name : String, s[name]? = (m name).map .bucket

namespace Store.Holds

variable {s s' : Store} {m : Holdings} {name : String}

/-- What is seen of a bucket is what is held of it. -/
theorem bucket? (h : s.Holds m) (name : String) : s.bucket? name = .ok (m name) := by
  rw [Store.bucket?, h name]
  cases m name <;> rfl

/-- No table is foreign. -/
theorem onlyBuckets (h : s.Holds m) : s.OnlyBuckets := by
  intro name hforeign
  rw [h name] at hforeign
  cases hm : m name with
  | none => simp [hm] at hforeign
  | some table => simp [hm] at hforeign

/-- A store in which one bucket was given another table holds this one in its place. -/
theorem update {table : Table} (h : s.Holds m) (hname : s'[name]? = some (.bucket table))
    (helsewhere : ∀ other, other ≠ name → s'[other]? = s[other]?) :
    s'.Holds (Function.update m name (some table)) := by
  intro other
  by_cases hother : other = name
  · rw [hother, hname, Function.update_self]
    rfl
  · rw [helsewhere other hother, Function.update_of_ne hother, h other]

/-- A bucket that was given a table holds it. -/
theorem setBucket (h : s.Holds m) (name : String) (table : Table) :
    (s.setBucket name table).Holds (Function.update m name (some table)) :=
  h.update Std.TreeMap.getElem?_insert_self
    fun _ hother => Store.getElem?_setBucket_of_ne hother table

end Store.Holds

open CommandLine

/-! ### Requests -/

namespace Backend

variable {b : Backend} {p : Plain} {m : Holdings} {table : Table} {a a' : Answer}
  {result : Except StoreError Answer}

/-- Answers that look the same to a client are the same, if they are no statistics. -/
theorem eq_of_reply (h : a.reply = a'.reply) (ha : ∀ s, a' ≠ .stats s) : a = a' := by
  cases a <;> cases a' <;> simp_all [Answer.reply]

/-- The answer behind a reply that is no statistics. -/
theorem eq_ok_of_reply (h : result.map Answer.reply = .ok a.reply) (ha : ∀ s, a ≠ .stats s) :
    result = .ok a := by
  obtain ⟨a', rfl, hreply⟩ := StoreError.ok_of_map h
  rw [eq_of_reply hreply ha]

/-- The tables that a request leaves are those of the plain store, if its bucket has a table. -/
theorem store_serve (h : Refines b p) (hs : b.store.Holds m) (hm : m p.active = some table)
    (r : Request) :
    (b.serve r).2.store.Holds
      (Function.update m p.active (some ((p.serve r).2.tables p.active))) := by
  have hhas : b.store.HasBucket p.active := ⟨table, by rw [hs, hm]; rfl⟩
  have htables := (h.serve r).2.tables p.active
  rcases r.switch_or with hr | ⟨name, rfl⟩
  · obtain ⟨table', htable'⟩ := (b.persists_serve r).hasBucket hhas
    refine hs.update ?_ fun other hother => (serve_elsewhere hr (h.active ▸ hother)).1
    rw [Store.bucketD_eq, htable'] at htables
    rw [htable', Except.ok.inj htables]
  · have hstore : (b.serve (.switch name)).2.store = b.store := switch_store b name
    rw [hstore] at htables ⊢
    rw [Store.bucketD_eq, hs, hm] at htables
    rw [← Except.ok.inj htables, Function.update_eq_self_iff.mpr hm.symm]
    exact hs

end Backend

namespace CommandLine

/-- What is shown of a result. -/
def shown : Except Failure (List UInt8) → Shown
  | .ok output => (0, output)
  | .error _ => fails

/-- What a request shows of its result. -/
def shownResult (r : Request) (result : Except StoreError Answer) : Shown :=
  shown ((printResult r result).mapError .operation)

/-- What a request **gives**: what it shows of its result, and the table that it leaves in the plain
store. -/
def gives (b : Backend) (p : Plain) (r : Request) : Shown × Table :=
  (shownResult r (b.serve r).1, (p.serve r).2.tables p.active)

variable {b : Backend} {p : Plain} {table : Table} {c : Config} {change : Adjustment}
  {create : Bool} {word bucket : String} {n : Int}

/-! ### Writes and deletions -/

/-- A write stores its value or leaves the table, as its condition says. -/
theorem put_cases (h : Backend.Refines b p) (mode : WriteMode) (key value : String) :
    (mode.admits (decide (utf8 key ∈ p.table)) = true ∧
      gives b p (.put mode (bytes key) (bytes value)) =
        (prints "STORED", p.table.insert (utf8 key) (utf8 value))) ∨
    (mode.admits (decide (utf8 key ∈ p.table)) = false ∧
      gives b p (.put mode (bytes key) (bytes value)) = (prints "NOT_STORED", p.table)) := by
  have hcontains : decide (utf8 key ∈ p.table) = p.table.contains (bytes key) :=
    Bool.decide_coe _
  have hreply := (h.serve (.put mode (bytes key) (bytes value))).1
  rw [hcontains]
  cases hm : mode.admits (p.table.contains (bytes key)) with
  | true =>
      refine .inl ⟨rfl, ?_⟩
      simp only [gives, Plain.serve, Plain.put_of_admits hm] at hreply ⊢
      rw [Backend.eq_ok_of_reply (a := .done) hreply (by simp), Plain.tables_write_self]
      rfl
  | false =>
      refine .inr ⟨rfl, ?_⟩
      simp only [gives, Plain.serve, Plain.put_of_not_admits hm] at hreply ⊢
      rw [StoreError.error_of_map hreply]
      cases mode <;> rfl

/-- A deletion erases its key, or leaves the table if it was to delete only what is there. -/
theorem delete_cases (h : Backend.Refines b p) (key : String) (onlyIfExists : Bool) :
    ((onlyIfExists = true → utf8 key ∈ p.table) ∧
      gives b p (.delete (bytes key) onlyIfExists) =
        (prints "DELETED", p.table.erase (utf8 key))) ∨
    (onlyIfExists = true ∧ utf8 key ∉ p.table ∧
      gives b p (.delete (bytes key) onlyIfExists) = (prints "NOT_FOUND", p.table)) := by
  have hcontains : utf8 key ∈ p.table ↔ p.table.contains (bytes key) = true :=
    Std.TreeMap.mem_iff_contains
  have hreply := (h.serve (.delete (bytes key) onlyIfExists)).1
  simp only [gives, Plain.serve, Plain.delete] at hreply ⊢
  rw [hcontains]
  split
  · rename_i hnone
    rw [if_pos hnone] at hreply
    rw [Bool.and_eq_true, Bool.not_eq_true', Bool.eq_false_iff] at hnone
    rw [Backend.eq_ok_of_reply (a := .deleted false) hreply (by simp)]
    exact .inr ⟨hnone.1, hnone.2, rfl⟩
  · rename_i hsome
    rw [if_neg hsome] at hreply
    rw [Bool.and_eq_true, Bool.not_eq_true', Bool.eq_false_iff, not_and_not_right] at hsome
    rw [Backend.eq_ok_of_reply (a := .deleted true) hreply (by simp), Plain.tables_write_self]
    exact .inl ⟨hsome, rfl⟩

/-! ### Numbers -/

/-- Adding is raising. -/
theorem apply_up (n : Int) (amount : Nat) : (Adjustment.up amount).apply n = raised n amount :=
  rfl

/-- Taking away from a number of 64 bits is lowering. -/
theorem apply_down (hn : n < 2 ^ 63) (amount : Nat) :
    (Adjustment.down amount).apply n = lowered n amount := by
  simp only [Adjustment.apply, lowered, Tally.greatest]
  omega

/-- A number that is started from has 64 bits. -/
theorem StartsFrom.lt (h : StartsFrom table word create n) : n < 2 ^ 63 := by
  cases h with
  | created => decide
  | stored _ _ _ hhigh => exact hhigh

/-- A change succeeds on the number that it starts from. -/
theorem startsFrom_of_outcome
    (h : change.outcome create bucket (bytes word) table[bytes word]? = .ok n) :
    ∃ n₀, StartsFrom table word create n₀ ∧ n = change.apply n₀ := by
  cases hstored : table[bytes word]? with
  | none =>
      rw [hstored] at h
      cases create with
      | false => cases h
      | true => exact ⟨0, .created rfl (not_mem_of_getElem? hstored), (Except.ok.inj h).symm⟩
  | some value =>
      simp only [hstored, Adjustment.outcome] at h
      cases hn : Tally.ofValue? value with
      | none => simp [hn] at h
      | some n₀ =>
          obtain ⟨hspells, hlow, hhigh⟩ := Tally.ofValue?_eq_some_iff.mp hn
          simp only [hn] at h
          exact ⟨n₀, .stored hstored hspells hlow hhigh, (Except.ok.inj h).symm⟩

/-- A change fails only if there is no number to start from. -/
theorem not_startsFrom_of_outcome {e : StoreError}
    (h : change.outcome create bucket (bytes word) table[bytes word]? = .error e) (n : Int) :
    ¬StartsFrom table word create n := by
  rintro (⟨rfl, hmissing⟩ | ⟨hvalue, hspells, hlow, hhigh⟩)
  · have hstored : table[bytes word]? = none := Std.TreeMap.getElem?_eq_none hmissing
    rw [hstored] at h
    cases h
  · have hstored : table[bytes word]? = some _ := hvalue
    simp only [hstored, Adjustment.outcome, Tally.ofValue?_eq_some_iff.mpr ⟨hspells, hlow, hhigh⟩] at h
    cases h

/-- A change of a number prints and stores the new one, or fails without a number to start from. -/
theorem adjust_cases (h : Backend.Refines b p) (change : Adjustment) (create : Bool) (key : String) :
    (∃ n, StartsFrom p.table key create n ∧
      gives b p (.adjust change create (bytes key)) =
        (prints (toString (change.apply n)),
          p.table.insert (utf8 key) (utf8 (toString (change.apply n))))) ∨
    ((∀ n, ¬StartsFrom p.table key create n) ∧
      gives b p (.adjust change create (bytes key)) = (fails, p.table)) := by
  have hreply := (h.serve (.adjust change create (bytes key))).1
  simp only [gives, Plain.serve, Plain.adjust_eq] at hreply ⊢
  cases ho : change.outcome create p.active (bytes key) p.table[bytes key]? with
  | error e =>
      simp only [ho] at hreply ⊢
      right
      rw [StoreError.error_of_map hreply]
      exact ⟨not_startsFrom_of_outcome ho, rfl⟩
  | ok n =>
      obtain ⟨n₀, hstarts, rfl⟩ := startsFrom_of_outcome ho
      simp only [ho] at hreply ⊢
      left
      rw [Backend.eq_ok_of_reply (a := .tally (change.apply n₀)) hreply (by simp),
        Plain.tables_write_self, ← Tally.bytes_toString]
      exact ⟨n₀, hstarts, rfl⟩

/-! ### Statistics -/

/-- What a backend that was opened just now tells of itself. -/
theorem stats_of_openWith {shape : Filter.Shape} {v : Volume} {path bucket : String}
    (hopen : (Backend.openWith shape v path bucket).1 = .ok b)
    (htable : b.store.bucket? bucket = .ok (some table)) :
    b.stats = .ok {
      bucket := bucket
      buckets := 1
      keys := table.size
      reads := 0
      shortCircuits := 0
      cache := (Backend.loadKeys table (.empty shape)).stats } := by
  obtain ⟨place, s, leased, registry, -, hens, rfl⟩ := Backend.openWith_eq_ok hopen
  obtain ⟨hknown, -⟩ | ⟨cache, -, hcache, rfl⟩ := Registry.ensure_eq_ok hens
  · simp [Registry.contains_eq_isSome_find?] at hknown
  · obtain ⟨table', htable', rfl⟩ := Backend.existing_eq_ok hcache
    obtain rfl : table' = table := by simpa using htable'.symm.trans htable
    simp only [Backend.stats_working, Store.bucketD_of_bucket? htable, Backend.cache, Registry.cacheOf,
      Registry.find?_insert, if_true, Option.getD_some]
    rfl

/-- **A request just after opening answers as its deed does**, and leaves the table that the deed
leaves. -/
theorem answers_serve {v : Volume} {path : String}
    (hopen : (Backend.openWith c.filter.shape v path c.store.bucket).1 = .ok b)
    (htable : b.store.bucket? c.store.bucket = .ok (some p.table)) (h : Backend.Refines b p)
    {deed : Deed} {r : Request} (hr : deed.command = .request r) :
    Answers c p.table deed (gives b p r).1 (gives b p r).2 := by
  cases deed with
  | init => cases hr
  | get key =>
      cases hr
      have hreply := (h.serve (.get (bytes key))).1
      simp only [gives]
      rw [Backend.eq_ok_of_reply (a := .value p.table[bytes key]?) hreply (by simp)]
      cases hvalue : p.table[bytes key]? with
      | none => exact .missed (not_mem_of_getElem? hvalue)
      | some value => exact .got hvalue
  | set key value =>
      cases hr
      obtain ⟨-, hgives⟩ | ⟨hm, -⟩ := put_cases h .always key value
      · rw [hgives]
        exact .set key value
      · cases hm
  | add key value =>
      cases hr
      obtain ⟨hm, hgives⟩ | ⟨hm, hgives⟩ := put_cases h .ifAbsent key value
      · rw [hgives]
        exact .added (by simpa [WriteMode.admits] using hm) value
      · rw [hgives]
        exact .notAdded (by simpa [WriteMode.admits] using hm) value
  | replace key value =>
      cases hr
      obtain ⟨hm, hgives⟩ | ⟨hm, hgives⟩ := put_cases h .ifPresent key value
      · rw [hgives]
        exact .replaced (by simpa [WriteMode.admits] using hm) value
      · rw [hgives]
        exact .notReplaced (by simpa [WriteMode.admits] using hm) value
  | delete key onlyIfExists =>
      cases hr
      obtain ⟨hcondition, hgives⟩ | ⟨rfl, hmissing, hgives⟩ := delete_cases h key onlyIfExists
      · rw [hgives]
        exact .deleted hcondition
      · rw [hgives]
        exact .notDeleted hmissing
  | incr key amount create =>
      cases hr
      obtain ⟨n, hstarts, hgives⟩ | ⟨hnone, hgives⟩ := adjust_cases h (.up amount) create key
      · rw [hgives, apply_up]
        exact .raised hstarts amount
      · rw [hgives]
        exact .notRaised hnone amount
  | decr key amount create =>
      cases hr
      obtain ⟨n, hstarts, hgives⟩ | ⟨hnone, hgives⟩ := adjust_cases h (.down amount) create key
      · rw [hgives, apply_down hstarts.lt]
        exact .lowered hstarts amount
      · rw [hgives]
        exact .notLowered hnone amount
  | flush =>
      cases hr
      have hreply := (h.serve .flush).1
      simp only [gives]
      rw [Backend.eq_ok_of_reply (a := .done) hreply (by simp), Plain.serve, Plain.tables_write_self]
      exact .flushed
  | stats =>
      cases hr
      simp only [gives, Backend.serve, stats_of_openWith hopen htable]
      exact .stats

end CommandLine

/-! ### Volumes that keep holdings -/

/-- A volume **keeps** holdings under a path: in a file that can be leased, or, where nothing is
held, in no file as yet, since the directories above it have to be made first. -/
inductive Volume.Keeps (path : String) : Volume → Holdings → Prop
  /-- The file can be leased, and its store holds the tables. -/
  | file {v leased : Volume} {place : Location} {s : Store} {m : Holdings}
      (lease : v.lease path = .ok (place, s, leased)) (holds : s.Holds m) : Keeps path v m
  /-- The file cannot be leased before its directories are made, and then its store is empty. -/
  | vacant {v made leased : Volume} {place : Location} {fault : OpenFault}
      (missing : v.lease path = .error fault)
      (make : v.makeParents (Path.ofString path) = (.ok (), made))
      (lease : made.lease path = .ok (place, ∅, leased)) : Keeps path v fun _ => none

namespace Volume.Keeps

variable {v made leased : Volume} {path : String} {place : Location} {s s' : Store}
  {m m' : Holdings} {c : Config} {n : BucketName}

/-- A file that was leased keeps what the store holds that is given back to it. -/
theorem release (hlease : v.lease path = .ok (place, s, leased)) (hs : s'.Holds m') :
    Keeps path (leased.release place s') m' := by
  obtain ⟨_, hagain⟩ := Volume.lease_release hlease s'
  exact .file hagain hs

/-- A bucket is provided in a store that can be leased once the directories are made. -/
theorem createBucket_of_lease (hn : BucketName.ofString c.store.bucket = .ok n)
    (hmake : v.makeParents (Path.ofString path) = (.ok (), made))
    (hlease : made.lease path = .ok (place, s, leased)) (hs : s.Holds m) :
    (Backend.createBucket v path c.store.bucket).1 = .ok () ∧
      Keeps path (Backend.createBucket v path c.store.bucket).2
        (Function.update m c.store.bucket (some ((m c.store.bucket).getD ∅))) := by
  have hprovide : Backend.provide s c.store.bucket Disk.working =
      .ok (s.setBucket c.store.bucket ((m c.store.bucket).getD ∅)) := by
    rw [Backend.provide_working, Store.provide, Store.bucketD, hs.bucket?]
    rfl
  simp only [Backend.createBucket, hn, hmake, hlease, BucketName.text_of_ofString hn, hprovide]
  exact ⟨trivial, release hlease (hs.setBucket _ _)⟩

/-- Providing a bucket creates it, or keeps its keys. -/
theorem init (h : Keeps path v m) (hn : BucketName.ofString c.store.bucket = .ok n) :
    (Backend.createBucket v path c.store.bucket).1 = .ok () ∧
      Keeps path (Backend.createBucket v path c.store.bucket).2
        (Function.update m c.store.bucket (some ((m c.store.bucket).getD ∅))) := by
  cases h with
  | file lease holds =>
      obtain ⟨_, hopen, -⟩ := Volume.lease_eq_ok lease
      exact createBucket_of_lease hn (Volume.makeParents_of_openFile hopen) lease holds
  | vacant missing make lease => exact createBucket_of_lease hn make lease fun _ => rfl

/-- A bucket that is not held cannot be opened, and all stays as it is held. -/
theorem open_of_none (h : Keeps path v m) (hn : BucketName.ofString c.store.bucket = .ok n)
    (hm : m c.store.bucket = none) (shape : Filter.Shape) :
    (∃ e, (Backend.openWith shape v path c.store.bucket).1 = .error e) ∧
      Keeps path (Backend.openWith shape v path c.store.bucket).2 m := by
  cases h with
  | @file leased place s _ lease holds =>
      have hmissing : ∀ cache, Backend.existing s c.store.bucket path cache =
          .error (.initialization (.noBucket c.store.bucket path)) := fun cache => by
        rw [Backend.existing_working, holds.bucket?, hm]
      have hens : (Registry.empty shape).ensure c.store.bucket
          (Backend.existing s c.store.bucket path) =
            .error (.initialization (.noBucket c.store.bucket path)) := by
        rw [Registry.ensure, Registry.contains_eq_isSome_find?, Registry.find?_empty, hmissing]
        rfl
      simp only [Backend.openWith, hn, lease, BucketName.text_of_ofString hn, hens]
      exact ⟨⟨_, rfl⟩, release lease holds⟩
  | vacant missing make lease =>
      simp only [Backend.openWith, hn, missing]
      exact ⟨⟨_, rfl⟩, .vacant missing make lease⟩

/-- A bucket that is held is opened, and a request on it answers as its deed does and leaves the table
that the deed leaves. -/
theorem serve_of_some (h : Keeps path v m) (hn : BucketName.ofString c.store.bucket = .ok n)
    {table : Table} (hm : m c.store.bucket = some table) {deed : CommandLine.Deed} {r : Request}
    (hr : deed.command = .request r) :
    ∃ b table', (Backend.openWith c.filter.shape v path c.store.bucket).1 = .ok b ∧
      CommandLine.Answers c table deed (CommandLine.shownResult r (b.serve r).1) table' ∧
      Keeps path ((b.serve r).2.close (Backend.openWith c.filter.shape v path c.store.bucket).2)
        (Function.update m c.store.bucket (some table')) := by
  cases h with
  | vacant missing make lease => cases hm
  | @file leased place s _ lease holds =>
      have hhas : s.HasBucket c.store.bucket := ⟨table, by rw [holds, hm]; rfl⟩
      obtain ⟨b, hopen, rfl, hactive⟩ :=
        Backend.openWith_of_hasBucket hn lease hhas c.filter.shape
      have hrefines := Backend.refines_of_openWith lease holds.onlyBuckets hopen
      obtain rfl : (Plain.ofStore c.store.bucket b.store).table = table := by
        simp only [Plain.table, Plain.ofStore, holds c.store.bucket, hm, Option.map_some]
      have hseen := holds.bucket? c.store.bucket
      rw [hm] at hseen
      refine ⟨b, _, hopen, CommandLine.answers_serve hopen hseen hrefines hr, ?_⟩
      obtain ⟨-, -, hlease⟩ := Backend.parts_of_openWith hopen
      rw [Backend.close, Backend.place_serve]
      exact release hlease (Backend.store_serve hrefines holds hm r)

/-- **A command does its deed.** It shows what the deed shows and leaves what the deed leaves. -/
theorem perform (h : Keeps c.store.path v m) (hn : BucketName.ofString c.store.bucket = .ok n)
    (deed : CommandLine.Deed) :
    ∃ m', m.Does c deed (CommandLine.shown (deed.command.perform c v).1) m' ∧
      Keeps c.store.path (deed.command.perform c v).2 m' := by
  cases hcommand : deed.command with
  | init =>
      obtain rfl : deed = .init := by cases deed <;> first | rfl | cases hcommand
      obtain ⟨hok, hkeeps⟩ := h.init hn
      have hpair := Prod.ext (y := (Except.ok (), _)) hok rfl
      rw [CommandLine.Command.perform, hpair]
      exact ⟨_, .init, hkeeps⟩
  | request r =>
      have hdeed : deed ≠ .init := by
        rintro rfl
        cases hcommand
      simp only [CommandLine.Command.perform, Backend.openConfigured]
      cases hm : m c.store.bucket with
      | none =>
          obtain ⟨⟨e, herror⟩, hkeeps⟩ := h.open_of_none hn hm c.filter.shape
          have hpair := Prod.ext (y := (Except.error e, _)) herror rfl
          rw [hpair]
          exact ⟨m, .unknown hdeed hm, hkeeps⟩
      | some table =>
          obtain ⟨b, table', hopen, hanswers, hkeeps⟩ := h.serve_of_some hn hm hcommand
          have hpair := Prod.ext (y := (Except.ok b, _)) hopen rfl
          rw [hpair]
          exact ⟨_, .answered hm hanswers, hkeeps⟩

end Volume.Keeps

end BucketStore
