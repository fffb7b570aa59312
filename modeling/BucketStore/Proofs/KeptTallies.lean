import BucketStore.Proofs.FailedRequests
import BucketStore.Proofs.Isolation
import BucketStore.Proofs.SameTables
import BucketStore.Proofs.TallyTexts

/-!
# Tallies Are Kept

As long as nothing but changes of a tally touches a key, no change is ever lost. Whatever else is
asked meanwhile, of other keys or in other buckets, and whatever fails, the next change starts from
the number that the last successful one gave, and a read shows the text of that number. A change
fails only where there is no number to start from and none may be made.

A lost change would come from a cache that denies the key: the change would start anew from zero. Of
this nothing is said here beyond `Intact.serve_adjust`, where soundness of the cache is used; what
has to be carried through a run is only what the bucket holds under the key (`Store.valueOf`), and
that what is held there can be read back (`Tally.ofValue?_toValue`).

The arithmetic is compared with that of whole numbers, of which only the result is cut off
(`Adjustment.exact`); for numbers that are not negative it makes no difference that amounts are cut
off as well.

## Main results

* `outcome_eq_expected`: a change of a stored number comes to the arithmetic of whole numbers.
* `valueOf_serve`: what leaves the value under a key alone.
* `Intact.serve_adjust`: what a change answers, and what it leaves under its key.
* `Intact.valueOf_after`: a run leaves the number of its last successful change.
* `tally_after_run`: the answers of changes and reads after any run that only changes the tally.
-/

namespace BucketStore

/-! ### Arithmetic -/

namespace Adjustment

/-- The tally after a change, by the arithmetic of whole numbers: only the result is cut off. -/
def exact : Adjustment → Int → Int
  | .up amount, n => min Tally.greatest (n + amount)
  | .down amount, n => max 0 (n - amount)

variable {change : Adjustment} {n : Int}

/-- Between zero and the greatest tally it makes no difference that amounts are cut off. -/
theorem apply_eq_exact (hlow : 0 ≤ n) (hhigh : n ≤ Tally.greatest) :
    change.apply n = change.exact n := by
  cases change with
  | up amount =>
      simp only [apply, exact]
      omega
  | down amount =>
      simp only [apply, exact]
      omega

/-- A change stays between zero and the greatest tally. -/
theorem exact_bounds (hlow : 0 ≤ n) (hhigh : n ≤ Tally.greatest) :
    0 ≤ change.exact n ∧ change.exact n ≤ Tally.greatest := by
  have hgreatest : 0 ≤ Tally.greatest := by decide
  cases change with
  | up amount =>
      simp only [exact]
      omega
  | down amount =>
      simp only [exact]
      omega

/-- What a change is **expected** to give, from the number that is known of a key, if any is. -/
def expected (change : Adjustment) (create : Bool) (bucket : String) (key : Key) :
    Option Int → Except StoreError Int
  | none => if create then .ok (change.exact 0) else .error (.keyNotFound bucket key)
  | some n => .ok (change.exact n)

end Adjustment

/-- What is stored under a key is a **count** if it is nothing, or a number that is not negative. -/
def Tally.IsCount (stored : Option Value) : Prop :=
  ∀ value ∈ stored, ∃ n, Tally.ofValue? value = some n ∧ 0 ≤ n

namespace Tally

/-- A count that is there is read as a number between zero and the greatest tally. -/
theorem IsCount.bounds {stored : Option Value} (h : IsCount stored) {n : Int}
    (hn : stored.bind ofValue? = some n) : 0 ≤ n ∧ n ≤ greatest := by
  obtain ⟨value, hvalue, hread⟩ := Option.bind_eq_some_iff.mp hn
  obtain ⟨n', hread', hlow⟩ := h value hvalue
  obtain rfl : n = n' := Option.some.inj (hread.symm.trans hread')
  exact ⟨hlow, (bounds_of_ofValue? hread).2⟩

/-- A number that was written is a count. -/
theorem isCount_toValue {n : Int} (h : 0 ≤ n ∧ n ≤ greatest) : IsCount (some (toValue n)) := by
  intro value hvalue
  obtain rfl : toValue n = value := Option.some.inj hvalue
  have hleast : least ≤ 0 := by decide
  exact ⟨n, ofValue?_toValue (hleast.trans h.1) h.2, h.1⟩

/-- A count is absent exactly if no number is read. -/
theorem IsCount.bind_eq_none_iff {stored : Option Value} (h : IsCount stored) :
    stored.bind ofValue? = none ↔ stored = none := by
  cases stored with
  | none => simp
  | some value =>
      obtain ⟨n, hread, -⟩ := h value rfl
      simp [hread]

/-- A number that was written and is a count is read back. -/
theorem ofValue?_toValue_of_isCount {n : Int} (h : IsCount (some (toValue n))) :
    ofValue? (toValue n) = some n := by
  obtain ⟨n', hread, -⟩ := h _ rfl
  obtain ⟨hnumber, -⟩ := Option.filter_eq_some_iff.mp hread
  rw [integer?_toValue] at hnumber
  rw [hread, hnumber]

end Tally

namespace Adjustment

variable {change : Adjustment} {create : Bool} {bucket : String} {key : Key} {stored : Option Value}

/-- **A change of a count comes to the arithmetic of whole numbers.** -/
theorem outcome_eq_expected (h : Tally.IsCount stored) :
    change.outcome create bucket key stored =
      change.expected create bucket key (stored.bind Tally.ofValue?) := by
  cases stored with
  | none => simp only [outcome, expected, Option.bind_none, apply_eq_exact le_rfl (by decide)]
  | some value =>
      obtain ⟨n, hread, hlow⟩ := h value rfl
      have hhigh := (Tally.bounds_of_ofValue? hread).2
      simp only [outcome, expected, Option.bind_some, hread, apply_eq_exact hlow hhigh]

/-- A change that is expected to succeed gives a number between zero and the greatest tally. -/
theorem bounds_of_expected {known : Option Int}
    (h : ∀ n ∈ known, 0 ≤ n ∧ n ≤ Tally.greatest) {n : Int}
    (hn : change.expected create bucket key known = .ok n) : 0 ≤ n ∧ n ≤ Tally.greatest := by
  cases known with
  | none =>
      simp only [expected] at hn
      split at hn
      · exact Except.ok.inj hn ▸ exact_bounds le_rfl (by decide)
      · cases hn
  | some n' =>
      obtain ⟨hlow, hhigh⟩ := h n' rfl
      exact Except.ok.inj hn ▸ exact_bounds hlow hhigh

end Adjustment

/-! ### The value under a key -/

/-- What a store holds for a bucket under a key. -/
def Store.valueOf (s : Store) (name : String) (key : Key) : Option Value :=
  (s.bucketD name).toOption.bind (·[key]?)

namespace Table

variable {key other : Key}

/-- A table with another key written holds the same under the key. -/
theorem getElem?_insert_of_ne (table : Table) (value : Value) (h : other ≠ key) :
    (table.insert other value)[key]? = table[key]? := by
  rw [Std.TreeMap.getElem?_insert, if_neg]
  simpa using h

/-- A table with another key erased holds the same under the key. -/
theorem getElem?_erase_of_ne (table : Table) (h : other ≠ key) :
    (table.erase other)[key]? = table[key]? := by
  rw [Std.TreeMap.getElem?_erase, if_neg]
  simpa using h

end Table

namespace Store

variable {s s' : Store} {name : String} {key : Key} {table : Table}

/-- A bucket that can be read holds what its table holds. -/
theorem valueOf_of_bucketD (h : s.bucketD name = .ok table) : s.valueOf name key = table[key]? := by
  rw [valueOf, h]
  rfl

/-- What is held for a bucket hangs on what stands under its name. -/
theorem valueOf_congr (h : s'[name]? = s[name]?) : s'.valueOf name key = s.valueOf name key := by
  rw [valueOf, valueOf, bucketD_congr h]

end Store

namespace Txn

variable {key other : Key}

/-- A body **spares** a key if its bucket holds the same under the key whenever it succeeds. -/
def Spares {α : Type} (key : Key) (body : TxnM α) : Prop :=
  ∀ {t a t' table}, t.store.bucketD t.bucket = .ok table → body.run t = .ok a t' →
    t'.store.valueOf t.bucket key = table[key]?

/-- A write spares the other keys. -/
theorem spares_put (mode : WriteMode) (value : Value) (h : other ≠ key) :
    Spares key (put mode other value) := by
  intro t a t' table ht hrun
  cases hm : mode.admits (table.contains other) with
  | true =>
      rw [run_put_of_admits mode other value ht hm] at hrun
      cases hrun
      rw [Store.valueOf_of_bucketD (bucketD_registered_withTable _ _ _ (by simp) _)]
      exact Table.getElem?_insert_of_ne table value h
  | false =>
      rw [run_put_of_not_admits mode other value ht hm] at hrun
      cases hrun

/-- A deletion spares the other keys. -/
theorem spares_delete (h : other ≠ key) : Spares key (delete other) := by
  intro t a t' table ht hrun
  rw [run_delete other ht] at hrun
  have hend : t'.store.bucketD t.bucket = .ok (table.erase other) := by
    cases hrun
    split
    · exact Store.bucketD_setBucket_self _
    · exact Store.bucketD_setBucket_self _
  rw [Store.valueOf_of_bucketD hend]
  exact Table.getElem?_erase_of_ne table h

/-- A change of a tally spares the other keys. -/
theorem spares_adjust (change : Adjustment) (create : Bool) (h : other ≠ key) :
    Spares key (adjust change create other) := by
  intro t a t' table ht hrun
  rw [run_adjust change create other ht] at hrun
  cases ho : change.outcome create t.bucket other (t.seen table other) with
  | error e =>
      simp only [ho] at hrun
      cases hrun
  | ok n =>
      simp only [ho] at hrun
      cases hrun
      rw [Store.valueOf_of_bucketD (bucketD_registered_withTable _ _ _ (by simp) _)]
      exact Table.getElem?_insert_of_ne table _ h

end Txn

/-! ### What touches a key -/

/-- Whether a request **touches** a key: it may write or remove it. -/
def Request.touches (key : Key) : Request → Bool
  | .put _ other _ => other == key
  | .delete other _ => other == key
  | .adjust _ _ other => other == key
  | .flush => true
  | _ => false

/-- Whether a request changes a tally. -/
def Request.isAdjust : Request → Bool
  | .adjust .. => true
  | _ => false

namespace Backend

/-- Whether an entry of a record **touched** a key of a bucket: a request of the bucket's own that
touches the key has succeeded. -/
def Entry.touched (name : String) (key : Key) (e : Entry) : Bool :=
  e.isOwn name && e.request.touches key && e.answer.isOk

/-- The tally that an entry of a record gave for a key of a bucket, if it touched the key. -/
def Entry.tally? (name : String) (key : Key) (e : Entry) : Option Int :=
  if e.touched name key then
    match e.answer with
    | .ok (.tally n) => some n
    | _ => none
  else none

/-- The tally that the last change of a key has given that succeeded in a run. -/
def lastTally (b : Backend) (name : String) (key : Key) (requests : List Request) : Option Int :=
  ((b.log requests).filterMap (·.tally? name key)).getLast?

/-- In a run a key is **only adjusted** if nothing but changes of a tally has touched it. -/
def OnlyAdjusted (b : Backend) (name : String) (key : Key) (requests : List Request) : Prop :=
  ∀ e ∈ b.log requests, e.touched name key = true → e.request.isAdjust = true

variable {b : Backend} {name : String} {key : Key} {table : Table} {request : Request}

/-- An update leaves what is held under a key that its body spares. -/
theorem valueOf_update {α : Type} {body : TxnM α} (hbody : Txn.Spares key body)
    (ht : b.store.bucketD b.active = .ok table) :
    (b.update body).2.store.valueOf b.active key = b.store.valueOf b.active key := by
  cases hrun : body.run b.transaction with
  | ok a t =>
      rw [update_of_ok hrun, Store.valueOf_of_bucketD ht]
      exact hbody ht hrun
  | error e t =>
      rw [update_of_error hrun]
      rfl

/-- A deletion leaves what is held under the other keys. -/
theorem valueOf_delete (ht : b.store.bucketD b.active = .ok table) {other : Key} (h : other ≠ key)
    (onlyIfExists : Bool) :
    (b.delete other onlyIfExists).2.store.valueOf b.active key =
      b.store.valueOf b.active key := by
  cases onlyIfExists with
  | false => exact valueOf_update (Txn.spares_delete h) ht
  | true =>
      rw [delete_ifExists_eq]
      rcases b.found other with e | _ | value
      · rw [looked_store]
      · rw [looked_store]
      · have hlooked : (b.looked other).store.bucketD (b.looked other).active = .ok table := by
          rw [looked_store, looked_active, ht]
        have hupdate := valueOf_update (b := b.looked other) (Txn.spares_delete h) hlooked
        rwa [looked_active, looked_store] at hupdate

/-- A request that does not touch a key leaves what the active bucket holds under it. -/
theorem valueOf_serve_of_not_touches (ht : b.store.bucketD b.active = .ok table)
    (h : request.touches key = false) :
    (b.serve request).2.store.valueOf b.active key = b.store.valueOf b.active key := by
  cases request with
  | put mode other value =>
      exact valueOf_update (Txn.spares_put mode value (beq_eq_false_iff_ne.mp h)) ht
  | get other => simp only [serve, get_eq, Prod.map_snd, id, looked_store]
  | delete other onlyIfExists => exact valueOf_delete ht (beq_eq_false_iff_ne.mp h) onlyIfExists
  | adjust change create other =>
      exact valueOf_update (Txn.spares_adjust change create (beq_eq_false_iff_ne.mp h)) ht
  | flush => cases h
  | switch new => simp only [serve, Prod.map_snd, id, switch_store]
  | stats => rfl

/-- **What has not touched a key leaves its value alone**: requests in other buckets, requests of
other keys, switches, and whatever fails. -/
theorem Intact.valueOf_serve (hb : b.Intact)
    (h : Entry.touched name key ⟨b.active, request, (b.serve request).1⟩ = false) :
    (b.serve request).2.store.valueOf name key = b.store.valueOf name key := by
  cases hanswer : (b.serve request).1 with
  | error e => rw [(onlyRead_of_error hanswer).store]
  | ok answer =>
      rcases request.switch_or with hrequest | ⟨new, rfl⟩
      · by_cases hactive : b.active = name
        · subst hactive
          obtain ⟨table, ht⟩ := hb.bucketD_active
          refine valueOf_serve_of_not_touches ht ?_
          simpa [Entry.touched, Entry.isOwn, hrequest, hanswer, Except.isOk, Except.toBool] using h
        · exact Store.valueOf_congr (serve_elsewhere hrequest (Ne.symm hactive)).1
      · simp only [Backend.serve, Prod.map_snd, id, switch_store]

/-! ### Changes of the tally -/

/-- **A change of a tally** starts from what is stored under its key, whether or not the cache saves
the read, and leaves the text of the number that it gives. -/
theorem Intact.serve_adjust (hb : b.Intact) (change : Adjustment) (create : Bool) (key : Key) :
    (b.serve (.adjust change create key)).1 =
        (change.outcome create b.active key (b.store.valueOf b.active key)).map .tally ∧
      ∀ n, change.outcome create b.active key (b.store.valueOf b.active key) = .ok n →
        (b.serve (.adjust change create key)).2.store.valueOf b.active key =
          some (Tally.toValue n) := by
  obtain ⟨table, ht⟩ := hb.bucketD_active
  have hrun := Txn.run_adjust (t := b.transaction) change create key ht
  rw [hb.sound.seen_eq ht, transaction_bucket, ← Store.valueOf_of_bucketD ht] at hrun
  cases ho : change.outcome create b.active key (b.store.valueOf b.active key) with
  | error e =>
      simp only [ho] at hrun
      refine ⟨?_, fun n hn => by cases hn⟩
      simp only [Backend.serve, Backend.adjust, update_of_error hrun]
      rfl
  | ok n =>
      simp only [ho] at hrun
      have hstored := Txn.bucketD_registered_withTable _ key (table.insert key (Tally.toValue n))
        (Txn.consulted_bucket (b.transaction.withTable table) key true) (table.contains key)
      simp only [Backend.serve, Backend.adjust, update_of_ok hrun]
      refine ⟨rfl, fun n' hn' => ?_⟩
      obtain rfl := Except.ok.inj hn'
      refine (Store.valueOf_of_bucketD hstored).trans ?_
      exact Std.TreeMap.getElem?_insert_self

/-- A read finds what is stored. -/
theorem Intact.serve_get (hb : b.Intact) (key : Key) :
    (b.serve (.get key)).1 = .ok (.value (b.store.valueOf b.active key)) := by
  obtain ⟨table, ht⟩ := hb.bucketD_active
  simp only [Backend.serve, get_eq, Prod.map_fst, hb.sound.found_eq ht,
    Store.valueOf_of_bucketD ht]
  rfl

/-- A request that has touched a key and was a change of a tally was one of this key, made while the
bucket was active, and succeeded. -/
theorem Entry.adjust_of_touched {answer : Except StoreError Answer}
    (h : Entry.touched name key ⟨b.active, request, answer⟩ = true)
    (hadjust : request.isAdjust = true) :
    b.active = name ∧ answer.isOk = true ∧
      ∃ change create, request = .adjust change create key := by
  simp only [Entry.touched, Entry.isOwn, Bool.and_eq_true, beq_iff_eq] at h
  obtain ⟨⟨⟨-, hactive⟩, htouches⟩, hok⟩ := h
  refine ⟨hactive, hok, ?_⟩
  cases request with
  | adjust change create other =>
      obtain rfl : other = key := by simpa [Request.touches] using htouches
      exact ⟨change, create, rfl⟩
  | _ => cases hadjust

/-! ### Runs -/

/-- One request of a run that only adjusts a key leaves the number that it gives under the key, if
it touched the key, and else what was there. What is there is a count again. -/
theorem Intact.valueOf_step (hb : b.Intact) (hcount : Tally.IsCount (b.store.valueOf name key))
    (hstep : Entry.touched name key ⟨b.active, request, (b.serve request).1⟩ = true →
      request.isAdjust = true) :
    (b.serve request).2.store.valueOf name key =
        ((Entry.tally? name key ⟨b.active, request, (b.serve request).1⟩).map Tally.toValue).or
          (b.store.valueOf name key) ∧
      Tally.IsCount ((b.serve request).2.store.valueOf name key) := by
  cases htouched : Entry.touched name key ⟨b.active, request, (b.serve request).1⟩ with
  | false =>
      rw [hb.valueOf_serve htouched]
      simp only [Entry.tally?, htouched, Bool.false_eq_true, if_false, Option.map_none,
        Option.none_or]
      exact ⟨trivial, hcount⟩
  | true =>
      obtain ⟨rfl, hok, change, create, rfl⟩ := Entry.adjust_of_touched htouched (hstep htouched)
      obtain ⟨hanswer, hleft⟩ := hb.serve_adjust change create key
      cases ho : change.outcome create b.active key (b.store.valueOf b.active key) with
      | error e =>
          rw [hanswer, ho] at hok
          cases hok
      | ok n =>
          have hbounds : 0 ≤ n ∧ n ≤ Tally.greatest := by
            rw [Adjustment.outcome_eq_expected hcount] at ho
            exact Adjustment.bounds_of_expected (fun m hm => hcount.bounds hm) ho
          have htally : Entry.tally? b.active key ⟨b.active, .adjust change create key,
              (b.serve (.adjust change create key)).1⟩ = some n := by
            rw [Entry.tally?, if_pos htouched]
            simp only [hanswer, ho, Except.map]
          rw [hleft n ho, htally]
          exact ⟨rfl, Tally.isCount_toValue hbounds⟩

/-- The last tally of a run that starts with one more request. -/
theorem lastTally_cons (request : Request) (rest : List Request) :
    b.lastTally name key (request :: rest) =
      ((b.serve request).2.lastTally name key rest).or
        (Entry.tally? name key ⟨b.active, request, (b.serve request).1⟩) := by
  simp only [lastTally, log_cons, List.filterMap_cons]
  cases Entry.tally? name key ⟨b.active, request, (b.serve request).1⟩ with
  | none => rw [Option.or_none]
  | some n =>
      rw [List.getLast?_cons]
      cases (((b.serve request).2.log rest).filterMap (·.tally? name key)).getLast? <;> rfl

/-- **A run that only adjusts a key leaves the number of its last successful change** under the key,
or what was there before if no change has succeeded. -/
theorem Intact.valueOf_after (hb : b.Intact) (hcount : Tally.IsCount (b.store.valueOf name key))
    {requests : List Request} (hrun : b.OnlyAdjusted name key requests) :
    (b.after requests).store.valueOf name key =
        ((b.lastTally name key requests).map Tally.toValue).or (b.store.valueOf name key) ∧
      Tally.IsCount ((b.after requests).store.valueOf name key) := by
  -- A run is recorded from its first request on, so the count is carried forward and the induction
  -- is for every backend that the rest may start from.
  induction requests generalizing b with
  | nil => exact ⟨rfl, hcount⟩
  | cons request rest ih =>
      obtain ⟨hvalue, hcount'⟩ := hb.valueOf_step hcount
        (hrun _ List.mem_cons_self)
      obtain ⟨hafter, hend⟩ := ih (hb.serve request) hcount'
        fun e he => hrun e (List.mem_cons_of_mem _ he)
      refine ⟨?_, hend⟩
      rw [Backend.after, hafter, hvalue, lastTally_cons, Option.map_or, Option.or_assoc]

/-- **Tallies are kept.** Take any reachable backend, any bucket, and any key under which the bucket
holds nothing or a number that is not negative. After any run in which nothing but changes of the
tally touched the key, a change gives what the arithmetic of whole numbers makes of the number that
the last successful change gave, or of the stored number if there was none. It fails only if nothing
is stored and nothing may be created, as a missing key. A read gives the text of the last number. -/
theorem tally_after_run {shape : Filter.Shape} {v : Volume} {path bucket : String}
    (hopen : (openWith shape v path bucket).1 = .ok b) (earlier requests : List Request)
    (hcount : Tally.IsCount ((b.after earlier).store.valueOf name key))
    (hrun : (b.after earlier).OnlyAdjusted name key requests)
    (hactive : ((b.after earlier).after requests).active = name) :
    let last := (b.after earlier).lastTally name key requests
    let known := last.or (((b.after earlier).store.valueOf name key).bind Tally.ofValue?)
    let b' := (b.after earlier).after requests
    (known = none ↔ b'.store.valueOf name key = none) ∧
      (∀ change create, (b'.serve (.adjust change create key)).1 =
        (change.expected create name key known).map .tally) ∧
      ∀ n, last = some n → (b'.serve (.get key)).1 = .ok (.value (some (Tally.toValue n))) := by
  intro last known b'
  have hb := (intact_of_openWith hopen).after earlier
  have hb' : b'.Intact := hb.after requests
  obtain ⟨hvalue, hcount'⟩ := hb.valueOf_after hcount hrun
  have hread : (b'.store.valueOf name key).bind Tally.ofValue? = known := by
    rcases hlast : last with _ | n
    · simp only [b', known, hvalue, hlast, last, Option.map_none, Option.none_or]
    · have hstored : b'.store.valueOf name key = some (Tally.toValue n) := by
        simp only [b', hvalue, hlast, last, Option.map_some, Option.some_or]
      simp only [known, hlast, hstored, Option.bind_some, Option.some_or]
      exact Tally.ofValue?_toValue_of_isCount (hstored ▸ hcount')
  refine ⟨?_, fun change create => ?_, fun n hn => ?_⟩
  · rw [← hread]
    exact hcount'.bind_eq_none_iff
  · rw [(hb'.serve_adjust change create key).1, hactive, Adjustment.outcome_eq_expected hcount',
      hread]
  · rw [hb'.serve_get, hactive, hvalue]
    simp only [last] at hn
    rw [hn]
    rfl

/-- A counter among keys that share its slots, with a switch away and a flush there. The key `[7]`
is never denied, though the deletion of `[8]` takes away from the counters of its slots. -/
theorem tally_after_collisions :
    ∃ b, (openWith .byLength (.holding .single) "kv" "b").1 = .ok b ∧
      let requests : List Request := [.adjust (.down 2) true [7], .put .always [8] [0x39],
        .adjust (.up 5) false [7], .delete [8] true, .put .ifAbsent [7] [0x31], .switch "c",
        .put .always [7] [0x32], .flush, .switch "b", .adjust (.up 1) false [9]]
      let b' := (b.after [.delete [1] false]).after requests
      (b'.serve (.adjust (.down 7) false [7])).1 = .ok (.tally 0) ∧
        (b'.serve (.adjust (.up (2 ^ 64 - 1)) false [7])).1 = .ok (.tally Tally.greatest) ∧
        (b'.serve (.get [7])).1 = .ok (.value (some [0x35])) := by
  let earlier : List Request := [.delete [1] false]
  let requests : List Request := [.adjust (.down 2) true [7], .put .always [8] [0x39],
    .adjust (.up 5) false [7], .delete [8] true, .put .ifAbsent [7] [0x31], .switch "c",
    .put .always [7] [0x32], .flush, .switch "b", .adjust (.up 1) false [9]]
  have hrun : ((openWith .byLength (.holding .single) "kv" "b").1.toOption.map fun b =>
      ((b.after earlier).store.valueOf "b" [7], (b.after earlier).lastTally "b" [7] requests,
        ((b.after earlier).after requests).active,
        ((b.after earlier).log requests).all fun e =>
          !e.touched "b" [7] || e.request.isAdjust)) =
      some (none, some 5, "b", true) := by
    decide +kernel
  obtain ⟨b, hb, hfacts⟩ := Option.map_eq_some_iff.mp hrun
  simp only [Prod.mk.injEq] at hfacts
  obtain ⟨habsent, hlast, hactive, hall⟩ := hfacts
  have honly : (b.after earlier).OnlyAdjusted "b" [7] requests := fun e he htouched => by
    simpa [htouched] using List.all_eq_true.mp hall e he
  have hcount : Tally.IsCount ((b.after earlier).store.valueOf "b" [7]) := by
    rw [habsent]
    intro value hvalue
    cases hvalue
  obtain ⟨-, hadjust, hget⟩ :=
    tally_after_run (StoreError.eq_ok_of_toOption hb) earlier requests hcount honly hactive
  refine ⟨b, StoreError.eq_ok_of_toOption hb, ?_, ?_, hget 5 hlast⟩
  · refine (hadjust (.down 7) false).trans ?_
    rw [hlast]
    rfl
  · refine (hadjust (.up (2 ^ 64 - 1)) false).trans ?_
    rw [hlast]
    rfl

end Backend

end BucketStore
