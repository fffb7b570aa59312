import BucketStore.Proofs.Soundness
import BucketStore.Proofs.TallyTexts
import Mathlib.Logic.Function.Basic

/-!
# The Plain Store

What a client has to know of a backend is only which bucket is active and what the buckets hold. A
**plain store** keeps just this, without caches, transactions or files, and decides every condition
by looking into its table (`Plain.serve`). A backend that was opened on a store of bucket tables
answers every row of requests as the plain store does: the cache saves reads, and nobody can tell
from the answers.

The answers are compared without the statistics of the caches (`Answer.reply`), which a plain store
does not have. Errors are compared as they are.

The backend is tied to the plain store by `Backend.Refines`: it is sound, and its tables are those
of the plain store. Soundness is what lets the cache stand in for a read (`Sound.seen_eq`,
`Sound.getElem?_of_denied`); in each body only the table that is left is of interest beside it.

## Main results

* `Refines.serve`: one request is answered alike, and the backend goes on refining the plain store.
* `Refines.answers`, `Refines.after`: the same for a row of requests.
* `answers_eq_plain`: a backend answers like the plain store of the file that it was opened on.
-/

namespace BucketStore

/-! ### Plain stores -/

/-- What a client sees of an answer. -/
inductive Reply where
  /-- The operation has no result. -/
  | done
  /-- The value of a key, if it is stored. -/
  | value (value : Option Value)
  /-- Whether a key was deleted. -/
  | deleted (removed : Bool)
  /-- The new value of a tally. -/
  | tally (n : Int)
  /-- The active bucket and the number of its keys. -/
  | stats (bucket : String) (keys : Nat)
  deriving DecidableEq, Repr

/-- An answer without the statistics of the caches. -/
def Answer.reply : Answer → Reply
  | .done => .done
  | .value v => .value v
  | .deleted removed => .deleted removed
  | .tally n => .tally n
  | .stats s => .stats s.bucket s.keys

/-- A **plain store**: the active bucket, and a table for every bucket. A bucket without a table is
an empty one. -/
structure Plain where
  /-- The active bucket. -/
  active : String
  /-- The tables by bucket. -/
  tables : String → Table

namespace Plain

/-- The table of the active bucket. -/
def table (m : Plain) : Table :=
  m.tables m.active

/-- Gives the active bucket another table. -/
def write (m : Plain) (table : Table) : Plain :=
  { m with tables := Function.update m.tables m.active table }

/-- Writes a key if the condition holds of the table. -/
def put (m : Plain) (mode : WriteMode) (key : Key) (value : Value) :
    Except StoreError Reply × Plain :=
  match mode, m.table.contains key with
  | .ifAbsent, true => (.error (.keyExists m.active key), m)
  | .ifPresent, false => (.error (.keyNotFound m.active key), m)
  | _, _ => (.ok .done, m.write (m.table.insert key value))

/-- Deletes a key, or does nothing if only a stored key is to be deleted and this one is not. -/
def delete (m : Plain) (key : Key) (onlyIfExists : Bool) : Except StoreError Reply × Plain :=
  if onlyIfExists && !m.table.contains key then (.ok (.deleted false), m)
  else (.ok (.deleted true), m.write (m.table.erase key))

/-- Changes a tally, and stores the text of the new number. A missing key counts as zero if it may be
created. -/
def adjust (m : Plain) (change : Adjustment) (create : Bool) (key : Key) :
    Except StoreError Reply × Plain :=
  let old : Except StoreError Int :=
    match m.table[key]? with
    | none => if create then .ok 0 else .error (.keyNotFound m.active key)
    | some value =>
      match Tally.ofValue? value with
      | none => .error (.notANumber m.active key value)
      | some n => .ok n
  match old with
  | .error e => (.error e, m)
  | .ok n =>
    let next := change.apply n
    (.ok (.tally next), m.write (m.table.insert key (CommandLine.bytes (toString next))))

/-- Makes another bucket active, if the text is a name. -/
def switch (m : Plain) (name : String) : Except StoreError Reply × Plain :=
  match BucketName.ofString name with
  | .error fault => (.error (.invalidBucketName fault), m)
  | .ok name => (.ok .done, { m with active := name.text })

/-- Answers one request. -/
def serve (m : Plain) : Request → Except StoreError Reply × Plain
  | .put mode key value => m.put mode key value
  | .get key => (.ok (.value m.table[key]?), m)
  | .delete key onlyIfExists => m.delete key onlyIfExists
  | .adjust change create key => m.adjust change create key
  | .flush => (.ok .done, m.write ∅)
  | .switch name => m.switch name
  | .stats => (.ok (.stats m.active m.table.size), m)

/-- The answers to a row of requests. -/
def answers (m : Plain) : List Request → List (Except StoreError Reply)
  | [] => []
  | request :: rest => (m.serve request).1 :: answers (m.serve request).2 rest

/-- The plain store after a row of requests. -/
def after (m : Plain) : List Request → Plain
  | [] => m
  | request :: rest => after (m.serve request).2 rest

/-- The plain store of a store, with one bucket active. -/
def ofStore (active : String) (s : Store) : Plain where
  active := active
  tables name :=
    match s[name]? with
    | some (.bucket table) => table
    | _ => ∅

/-- A write whose condition holds. -/
theorem put_of_admits {m : Plain} {mode : WriteMode} {key : Key}
    (h : mode.admits (m.table.contains key) = true) (value : Value) :
    m.put mode key value = (.ok .done, m.write (m.table.insert key value)) := by
  simp only [put]
  cases mode <;> cases hc : m.table.contains key <;> simp_all [WriteMode.admits]

/-- A write whose condition does not hold. -/
theorem put_of_not_admits {m : Plain} {mode : WriteMode} {key : Key}
    (h : mode.admits (m.table.contains key) = false) (value : Value) :
    m.put mode key value = (.error (mode.refusal m.active key), m) := by
  simp only [put]
  cases mode <;> cases hc : m.table.contains key <;> simp_all [WriteMode.admits, WriteMode.refusal]

/-- A change of a tally hangs on what is stored under the key. -/
theorem adjust_eq (m : Plain) (change : Adjustment) (create : Bool) (key : Key) :
    m.adjust change create key =
      match change.outcome create m.active key m.table[key]? with
      | .error e => (.error e, m)
      | .ok n => (.ok (.tally n), m.write (m.table.insert key (Tally.toValue n))) := by
  simp only [adjust, Tally.bytes_toString]
  cases m.table[key]? with
  | none => cases create <;> rfl
  | some value =>
      simp only [Adjustment.outcome]
      cases Tally.ofValue? value <;> rfl

/-- The active bucket has the table that it was given. -/
theorem tables_write_self (m : Plain) (table : Table) :
    (m.write table).tables m.active = table :=
  Function.update_self ..

/-- The other buckets keep their tables. -/
theorem tables_write_of_ne {m : Plain} {name : String} (h : name ≠ m.active) (table : Table) :
    (m.write table).tables name = m.tables name :=
  Function.update_of_ne h ..

end Plain

/-! ### Refinement -/

namespace Backend

variable {b b' : Backend} {m : Plain} {table : Table} {key : Key}

/-- A backend **refines** a plain store if it is sound and has the same active bucket and the same
tables. In particular none of its tables is a foreign one. -/
structure Refines (b : Backend) (m : Plain) : Prop where
  /-- The caches count the tables. -/
  sound : b.Sound
  /-- The same bucket is active. -/
  active : b.active = m.active
  /-- Every bucket has the same table. -/
  tables : ∀ name, b.store.bucketD name = .ok (m.tables name)

/-- A key that the cache denies is not stored. -/
theorem Sound.getElem?_of_denied (hb : b.Sound) (ht : b.store.bucketD b.active = .ok table)
    (h : b.cache.mayContain key = false) : table[key]? = none := by
  refine Std.TreeMap.getElem?_eq_none fun hmem => ?_
  have hknown := hb.mayContain_of_stored ht (Std.TreeMap.contains_iff_mem.mpr hmem)
  rw [h] at hknown
  cases hknown

/-- A transaction sees what the table holds: where the cache stands in for a read, the key is not
there. -/
theorem Sound.seen_eq (hb : b.Sound) (ht : b.store.bucketD b.active = .ok table) (key : Key) :
    b.transaction.seen table key = table[key]? := by
  simp only [Txn.seen]
  split
  · rfl
  · rename_i hdenied
    exact (hb.getElem?_of_denied ht (Bool.not_eq_true _ ▸ hdenied)).symm

/-- A read finds what the table holds, whether or not the cache saves it. -/
theorem Sound.found_eq (hb : b.Sound) (ht : b.store.bucketD b.active = .ok table) (key : Key) :
    b.found key = .ok table[key]? := by
  simp only [found]
  cases hk : b.cache.mayContain key with
  | false =>
      rw [hb.getElem?_of_denied ht hk]
      rfl
  | true =>
      simp only [ht]
      rfl

namespace Refines

/-- The table of the active bucket. -/
theorem table_eq (h : Refines b m) : b.store.bucketD b.active = .ok m.table := by
  rw [h.tables, h.active, Plain.table]

/-- A backend whose store is as it was refines the same plain store. -/
theorem of_same (h : Refines b m) (hsound : b'.Sound) (hactive : b'.active = b.active)
    (hstore : b'.store = b.store) : Refines b' m :=
  ⟨hsound, hactive.trans h.active, fun name => hstore ▸ h.tables name⟩

/-- A backend in which only the active bucket was given another table refines the plain store with
that table. -/
theorem of_write (h : Refines b m) (hsound : b'.Sound) (hactive : b'.active = b.active)
    (helsewhere : ∀ name, name ≠ b.active → b'.store[name]? = b.store[name]?)
    (htable : b'.store.bucketD b.active = .ok table) : Refines b' (m.write table) where
  sound := hsound
  active := hactive.trans h.active
  tables := by
    intro name
    by_cases hname : name = b.active
    · rw [hname, htable, h.active, Plain.tables_write_self]
    · rw [Store.bucketD_congr (helsewhere name hname), h.tables,
        Plain.tables_write_of_ne (h.active ▸ hname)]

/-! ### Updates -/

section Updates

variable {α : Type} {body : TxnM α} {t : Txn}

/-- An update that succeeds gives the active bucket the table that its body left. -/
theorem update_ok (h : Refines b m) {a : α} (hrun : body.run b.transaction = .ok a t)
    (hsound : (b.update body).2.Sound)
    (hframe : Txn.Frame b.transaction (Txn.ending body b.transaction))
    (htable : t.store.bucketD b.active = .ok table) :
    (b.update body).1 = .ok a ∧ Refines (b.update body).2 (m.write table) := by
  rw [Txn.ending_of_ok hrun] at hframe
  rw [update_of_ok hrun] at hsound ⊢
  exact ⟨rfl, h.of_write hsound rfl hframe.elsewhere htable⟩

/-- An update that fails leaves the tables as they were. -/
theorem update_error (h : Refines b m) {e : StoreError}
    (hrun : body.run b.transaction = .error e t) (hsound : (b.update body).2.Sound) :
    (b.update body).1 = .error e ∧ Refines (b.update body).2 m := by
  rw [update_of_error hrun] at hsound ⊢
  exact ⟨rfl, h.of_same hsound rfl rfl⟩

end Updates

/-! ### Requests -/

/-- Two results **agree**: a client sees the same in both, and the backend of the first one refines the
plain store of the second. -/
def Agree (result : Except StoreError Answer × Backend)
    (expected : Except StoreError Reply × Plain) : Prop :=
  result.1.map Answer.reply = expected.1 ∧ Refines result.2 expected.2

/-- Writes agree. The cache decides whether the table is read, and the table whether the write is
refused. -/
theorem put (h : Refines b m) (mode : WriteMode) (key : Key) (value : Value) :
    Agree (b.serve (.put mode key value)) (m.put mode key value) := by
  have hkeeps := Txn.keepsBalance_put mode key value
  have hsound := h.sound.update hkeeps
  cases hm : mode.admits (m.table.contains key) with
  | true =>
      have hrun := Txn.run_put_of_admits (t := b.transaction) mode key value h.table_eq hm
      have htable := Txn.bucketD_registered_withTable _ key (m.table.insert key value)
        (Txn.settled_bucket (b.transaction.withTable m.table) key mode) (m.table.contains key)
      obtain ⟨hresult, hnext⟩ := h.update_ok hrun hsound (hkeeps.frame _) htable
      rw [Plain.put_of_admits hm]
      refine ⟨?_, hnext⟩
      simp only [serve, Backend.put, Prod.map_fst, hresult]
      rfl
  | false =>
      have hrun := Txn.run_put_of_not_admits (t := b.transaction) mode key value h.table_eq hm
      obtain ⟨hresult, hnext⟩ := h.update_error hrun hsound
      rw [Plain.put_of_not_admits hm]
      refine ⟨?_, hnext⟩
      simp only [serve, Backend.put, Prod.map_fst, hresult, ← h.active]
      rfl

/-- Changes of tallies agree: what the transaction sees of the key is what is stored. -/
theorem adjust (h : Refines b m) (change : Adjustment) (create : Bool) (key : Key) :
    Agree (b.serve (.adjust change create key)) (m.adjust change create key) := by
  have hkeeps := Txn.keepsBalance_adjust change create key
  have hsound := h.sound.update hkeeps
  have hrun := Txn.run_adjust (t := b.transaction) change create key h.table_eq
  rw [h.sound.seen_eq h.table_eq, transaction_bucket] at hrun
  rw [Plain.adjust_eq, ← h.active]
  cases ho : change.outcome create b.active key m.table[key]? with
  | error e =>
      simp only [ho] at hrun
      obtain ⟨hresult, hnext⟩ := h.update_error hrun hsound
      refine ⟨?_, hnext⟩
      simp only [serve, Backend.adjust, Prod.map_fst, hresult]
      rfl
  | ok n =>
      simp only [ho] at hrun
      have htable := Txn.bucketD_registered_withTable _ key (m.table.insert key (Tally.toValue n))
        (Txn.consulted_bucket (b.transaction.withTable m.table) key true) (m.table.contains key)
      obtain ⟨hresult, hnext⟩ := h.update_ok hrun hsound (hkeeps.frame _) htable
      refine ⟨?_, hnext⟩
      simp only [serve, Backend.adjust, Prod.map_fst, hresult]
      rfl

/-- Flushes agree. -/
theorem flush (h : Refines b m) : Agree (b.serve .flush) (m.serve .flush) := by
  have htable : b.transaction.emptied.store.bucketD b.active = .ok ∅ :=
    Store.bucketD_setBucket_self ∅
  obtain ⟨hresult, hnext⟩ := h.update_ok (Txn.run_flush _) h.sound.flush (Txn.frame_flush _) htable
  refine ⟨?_, hnext⟩
  simp only [serve, Backend.flush, Prod.map_fst, hresult]
  rfl

/-- A read finds what is stored. -/
theorem found_eq (h : Refines b m) (key : Key) : b.found key = .ok m.table[key]? :=
  h.sound.found_eq h.table_eq key

/-- Looking a key up leaves the store as it was. -/
theorem looked (h : Refines b m) (key : Key) : Refines (b.looked key) m :=
  h.of_same (h.sound.looked key) (b.looked_active key) (b.looked_store key)

/-- Reads agree. -/
theorem get (h : Refines b m) (key : Key) : Agree (b.serve (.get key)) (m.serve (.get key)) := by
  simp only [serve, get_eq, h.found_eq]
  exact ⟨rfl, h.looked key⟩

/-- A deletion removes the key and says whether it was stored. -/
theorem update_delete (h : Refines b m) (key : Key) :
    (b.update (Txn.delete key)).1 = .ok (m.table.contains key) ∧
      Refines (b.update (Txn.delete key)).2 (m.write (m.table.erase key)) := by
  have hkeeps := Txn.keepsBalance_delete key
  have hrun := Txn.run_delete (t := b.transaction) key h.table_eq
  refine h.update_ok hrun (h.sound.update hkeeps) (hkeeps.frame _) ?_
  split <;> exact Store.bucketD_setBucket_self _

/-- Deletions agree. -/
theorem delete (h : Refines b m) (key : Key) (onlyIfExists : Bool) :
    Agree (b.serve (.delete key onlyIfExists)) (m.delete key onlyIfExists) := by
  cases onlyIfExists with
  | false =>
      obtain ⟨hresult, hnext⟩ := h.update_delete key
      simp only [serve, Backend.delete, Bool.false_eq_true, if_false, Plain.delete, Bool.false_and]
      exact ⟨by simp only [Prod.map_fst, hresult]; rfl, hnext⟩
  | true =>
      simp only [serve, delete_ifExists_eq, h.found_eq, Plain.delete, Bool.true_and]
      rw [Std.TreeMap.contains_eq_isSome_getElem?]
      cases hv : m.table[key]? with
      | none => exact ⟨rfl, h.looked key⟩
      | some value =>
          obtain ⟨hresult, hnext⟩ := (h.looked key).update_delete key
          rw [Std.TreeMap.contains_eq_isSome_getElem?, hv] at hresult
          exact ⟨by simp only [Prod.map_fst, hresult]; rfl, hnext⟩

/-- Switches agree: every table can be read, so that a new cache can always be filled. -/
theorem switch (h : Refines b m) (name : String) :
    Agree (b.serve (.switch name)) (m.switch name) := by
  have hsound := h.sound.switch name
  simp only [serve, Backend.switch, Plain.switch] at hsound ⊢
  cases hn : BucketName.ofString name with
  | error fault => exact ⟨rfl, h⟩
  | ok name =>
      obtain ⟨registry, hens⟩ : ∃ registry,
          b.registry.ensure name.text (fill b.store name.text) = .ok registry := by
        have hfill : ∀ c, fill b.store name.text c = .ok (loadKeys (m.tables name.text) c) := by
          intro c
          simp only [fill_working, h.tables]
        simp only [Registry.ensure]
        split
        · exact ⟨_, rfl⟩
        · rw [hfill]
          exact ⟨_, rfl⟩
      simp only [hn, hens] at hsound ⊢
      exact ⟨rfl, hsound, rfl, h.tables⟩

/-- Statistics agree. -/
theorem stats (h : Refines b m) : Agree (b.serve .stats) (m.serve .stats) := by
  have htable := h.table_eq
  rw [h.active] at htable
  refine ⟨?_, h⟩
  simp only [serve, stats_working, h.active, htable]
  rfl

/-- **Every request is answered alike**, and the backend goes on refining the plain store. -/
theorem serve (h : Refines b m) (request : Request) :
    Agree (b.serve request) (m.serve request) := by
  cases request with
  | put mode key value => exact h.put mode key value
  | get key => exact h.get key
  | delete key onlyIfExists => exact h.delete key onlyIfExists
  | adjust change create key => exact h.adjust change create key
  | flush => exact h.flush
  | switch name => exact h.switch name
  | stats => exact h.stats

/-- A row of requests is answered alike. -/
theorem answers (h : Refines b m) (requests : List Request) :
    (b.answers requests).map (·.map Answer.reply) = m.answers requests := by
  induction requests generalizing b m with
  | nil => rfl
  | cons request rest ih =>
      obtain ⟨hanswer, hnext⟩ := h.serve request
      simp only [Backend.answers, Plain.answers, List.map_cons, hanswer, ih hnext]

/-- After a row of requests the backend refines the plain store after them. -/
theorem after (h : Refines b m) (requests : List Request) :
    Refines (b.after requests) (m.after requests) := by
  induction requests generalizing b m with
  | nil => exact h
  | cons request rest ih => exact ih (h.serve request).2

end Refines

/-! ### Opening -/

section Opening

variable {shape : Filter.Shape} {v leased : Volume} {path bucket : String} {place : Location}
  {s : Store}

/-- A backend refines the plain store of the file that it was opened on, if the file holds no foreign
tables. -/
theorem refines_of_openWith (hlease : v.lease path = .ok (place, s, leased))
    (hs : s.OnlyBuckets) (h : (openWith shape v path bucket).1 = .ok b) :
    Refines b (.ofStore bucket s) := by
  have hsound := (sound_of_openWith h).1
  obtain ⟨place', s', leased', registry, hlease', -, rfl⟩ := openWith_eq_ok h
  rw [hlease] at hlease'
  cases hlease'
  refine ⟨hsound, rfl, fun name => ?_⟩
  have hname := hs name
  rw [Store.bucketD_eq]
  simp only [Plain.ofStore]
  rcases hstored : s[name]? with _ | table | _
  · rfl
  · rfl
  · exact absurd hstored hname

/-- **A backend answers like the plain store of its file.** Whatever the shape of its filters, and so
whatever keys collide and whatever counters are stuck, every request of every row gives the same
result or fails with the same error as a store that has no cache and decides all by looking. -/
theorem answers_eq_plain (hlease : v.lease path = .ok (place, s, leased))
    (hs : s.OnlyBuckets) (h : (openWith shape v path bucket).1 = .ok b)
    (requests : List Request) :
    (b.answers requests).map (·.map Answer.reply) = (Plain.ofStore bucket s).answers requests :=
  (refines_of_openWith hlease hs h).answers requests

end Opening

/-- Answers where the cache is misled: the keys `[1]`, `[7]` and `[8]` share their slots. -/
theorem answers_of_colliding_keys :
    ∃ b, (openWith .byLength (.holding .single) "kv" "b").1 = .ok b ∧
      (b.answers [.put .ifAbsent [7] [0x35], .put .ifAbsent [1] [3], .delete [8] true,
        .adjust (.up 2) false [7], .put .ifPresent [8] [], .get [8], .stats, .switch "c",
        .get [7]]).map (·.map Answer.reply) =
      [.ok .done, .error (.keyExists "b" [1]), .ok (.deleted false), .ok (.tally 7),
        .error (.keyNotFound "b" [8]), .ok (.value none), .ok (.stats "b" 2), .ok .done,
        .ok (.value none)] := by
  obtain ⟨b, hopen⟩ := openWith_single
  have hs : Store.single.OnlyBuckets := by
    intro name
    rw [Store.single, Store.setBucket, Std.TreeMap.getElem?_insert]
    split
    · simp
    · simp
  have hlease : (Volume.holding .single).lease "kv" =
      .ok (["kv"], .single, (Volume.holding .single).put ["kv"] (.file .leased)) := rfl
  refine ⟨b, hopen, ?_⟩
  rw [answers_eq_plain hlease hs hopen]
  decide +kernel

end Backend

end BucketStore
