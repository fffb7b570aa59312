import BucketStore.Proofs.Locality
import BucketStore.Proofs.Persistence
import BucketStore.Proofs.PlainStore

/-!
# Only Tables Matter

What a client sees of a backend hangs on its tables and on the bucket that is active. Two backends
that have these in common (`Backend.SameTables`) give the same replies to every row of requests and
have the same tables ever after, even if one has been in use for long and the other was opened just
now: they need not know the same buckets, nor have caches of the same shape, and the counters of
their caches may have come from different histories.

All that is asked of both is that they are **intact**: their caches count their tables, so that the
cache can stand in for a read, and the buckets that they know can be read, so that a switch to a
bucket succeeds in one of them exactly if it does in the other. Other tables may be foreign.

## Main results

* `Intact.after`, `intact_of_openWith`: every reachable backend is intact.
* `Intact.switch_result`: whether a switch succeeds hangs on the store.
* `SameTables.serve`, `SameTables.run`: the same replies, and the same tables.
-/

namespace BucketStore

/-! ### Transactions on the same store -/

namespace Txn

/-- Two transactions are on the **same store** if they work on the same bucket of the same tables. -/
structure SameStore (t t' : Txn) : Prop where
  /-- They work on the same bucket. -/
  bucket : t'.bucket = t.bucket
  /-- They have the same tables. -/
  store : t'.store = t.store

/-- Two runs **come to the same** if both succeed with the same value and the same tables, or both
fail with the same error; what a failed run has left is thrown away. -/
abbrev ComeToTheSame {α : Type} :
    EStateM.Result StoreError Txn α → EStateM.Result StoreError Txn α → Prop :=
  Matches SameStore fun _ _ => True

namespace SameStore

variable {t t' : Txn} {table : Table}

theorem bucketD_eq (h : SameStore t t') : t'.store.bucketD t'.bucket = t.store.bucketD t.bucket := by
  rw [h.bucket, h.store]

theorem withTable (h : SameStore t t') (table : Table) :
    SameStore (t.withTable table) (t'.withTable table) where
  bucket := h.bucket
  store := by simp only [Txn.withTable, h.bucket, h.store]

theorem consulted (h : SameStore t t') (key : Key) (doubtful : Bool) :
    SameStore (t.consulted key doubtful) (t'.consulted key doubtful) where
  bucket := by rw [consulted_bucket, consulted_bucket, h.bucket]
  store := by rw [consulted_store, consulted_store, h.store]

theorem settled (h : SameStore t t') (mode : WriteMode) (key : Key) :
    SameStore (t.settled mode key) (t'.settled mode key) where
  bucket := by rw [settled_bucket, settled_bucket, h.bucket]
  store := by rw [settled_store, settled_store, h.store]

theorem registered (h : SameStore t t') (existed : Bool) (key : Key) :
    SameStore (t.registered existed key) (t'.registered existed key) where
  bucket := by rw [registered_bucket, registered_bucket, h.bucket]
  store := by rw [registered_store, registered_store, h.store]

/-- Writes come to the same, whatever the caches say. -/
theorem put (h : SameStore t t') (ht : t.store.bucketD t.bucket = .ok table) (mode : WriteMode)
    (key : Key) (value : Value) :
    ComeToTheSame ((Txn.put mode key value).run t) ((Txn.put mode key value).run t') := by
  have ht' := h.bucketD_eq.trans ht
  cases hm : mode.admits (table.contains key) with
  | true =>
      rw [run_put_of_admits mode key value ht hm, run_put_of_admits mode key value ht' hm]
      exact ⟨rfl, (((h.withTable table).settled mode key).withTable _).registered _ key⟩
  | false =>
      rw [run_put_of_not_admits mode key value ht hm, run_put_of_not_admits mode key value ht' hm,
        h.bucket]
      exact ⟨rfl, trivial⟩

/-- Deletions come to the same, whatever the caches say. -/
theorem delete (h : SameStore t t') (ht : t.store.bucketD t.bucket = .ok table) (key : Key) :
    ComeToTheSame ((Txn.delete key).run t) ((Txn.delete key).run t') := by
  have hnext := (h.withTable table).withTable (table.erase key)
  rw [run_delete key ht, run_delete key (h.bucketD_eq.trans ht)]
  refine ⟨rfl, ?_⟩
  cases table.contains key with
  | true => exact ⟨hnext.bucket, hnext.store⟩
  | false => exact hnext

/-- Changes of tallies come to the same if both transactions see the same under the key. -/
theorem adjust (h : SameStore t t') (ht : t.store.bucketD t.bucket = .ok table)
    (change : Adjustment) (create : Bool) {key : Key}
    (hseen : t'.seen table key = t.seen table key) :
    ComeToTheSame ((Txn.adjust change create key).run t)
      ((Txn.adjust change create key).run t') := by
  rw [run_adjust change create key ht, run_adjust change create key (h.bucketD_eq.trans ht), hseen,
    h.bucket]
  cases change.outcome create t.bucket key (t.seen table key) with
  | error e => exact ⟨rfl, trivial⟩
  | ok n =>
      exact ⟨rfl, (((h.withTable table).consulted key true).withTable _).registered _ key⟩

/-- Flushes come to the same. -/
theorem flush (h : SameStore t t') : ComeToTheSame (Txn.flush.run t) (Txn.flush.run t') := by
  rw [run_flush, run_flush]
  exact ⟨rfl, h.bucket, by simp only [emptied, h.bucket, h.store]⟩

end SameStore

end Txn

namespace Backend

variable {b b' : Backend} {name : String} {table : Table}

/-! ### Intact backends -/

/-- A backend is **intact** if its caches count its tables and the buckets that it knows can be read. -/
structure Intact (b : Backend) : Prop where
  /-- The caches count the tables. -/
  sound : b.Sound
  /-- Known buckets can be read. -/
  readable : b.Readable

/-- Whether a store lets a bucket become active: the text has to be a name, and no foreign table may
stand under it. -/
def switchable (s : Store) (name : String) : Except StoreError Unit :=
  match BucketName.ofString name with
  | .error fault => .error (.invalidBucketName fault)
  | .ok name =>
    match s.bucketD name.text with
    | .error fault => .error (.table fault)
    | .ok _ => .ok ()

namespace Intact

/-- The active bucket can be read. -/
theorem bucketD_active (hb : b.Intact) : ∃ table, b.store.bucketD b.active = .ok table := by
  refine hb.readable b.active ?_
  rw [Registry.contains_eq_isSome_find?, hb.sound.find?_active, Option.isSome_some]

/-- Every request keeps the backend intact. -/
theorem serve (hb : b.Intact) (request : Request) : (b.serve request).2.Intact :=
  ⟨hb.sound.serve request, hb.readable.serve request⟩

/-- A row of requests keeps the backend intact. -/
theorem after (hb : b.Intact) (requests : List Request) : (b.after requests).Intact :=
  ⟨hb.sound.after requests, hb.readable.after requests⟩

/-- **Whether a switch succeeds hangs on the store**, and not on which buckets are known. -/
theorem switch_result (hb : b.Intact) (name : String) :
    (b.switch name).1 = switchable b.store name := by
  simp only [switch, switchable]
  cases BucketName.ofString name with
  | error fault => rfl
  | ok n =>
      simp only [Registry.ensure]
      cases hknown : b.registry.contains n.text with
      | true =>
          obtain ⟨table, htable⟩ := hb.readable n.text hknown
          simp only [htable, if_true]
      | false =>
          simp only [fill_working, Bool.false_eq_true, if_false]
          cases b.store.bucketD n.text with
          | error fault => rfl
          | ok table => rfl

end Intact

/-- A backend is intact when it was opened. -/
theorem intact_of_openWith {shape : Filter.Shape} {v : Volume} {path bucket : String}
    (h : (openWith shape v path bucket).1 = .ok b) : b.Intact :=
  ⟨(sound_of_openWith h).1, readable_of_openWith h⟩

/-- A switch that succeeds makes its bucket active, and one that fails leaves the active bucket. -/
theorem switch_active (b : Backend) (name : String) :
    (b.switch name).2.active = if (b.switch name).1.isOk then name else b.active := by
  obtain ⟨_, -, h⟩ | ⟨_, _, -, -, h⟩ | ⟨n, _, hn, -, h⟩ := b.switch_cases name
  · rw [h]
    rfl
  · rw [h]
    rfl
  · rw [h]
    exact BucketName.text_of_ofString hn

/-! ### Backends with the same tables -/

/-- Two backends have the **same tables** if both are intact, and they have the same tables and the
same active bucket. -/
structure SameTables (b b' : Backend) : Prop where
  /-- The first one is intact. -/
  left : b.Intact
  /-- The second one is intact. -/
  right : b'.Intact
  /-- The same bucket is active. -/
  active : b'.active = b.active
  /-- The tables are the same. -/
  store : b'.store = b.store

/-- Two results **look alike** if a client sees the same in both, and the same tables are left. -/
structure LookAlike (result result' : Except StoreError Answer × Backend) : Prop where
  /-- The replies are the same. -/
  reply : result'.1.map Answer.reply = result.1.map Answer.reply
  /-- The tables are the same. -/
  store : result'.2.store = result.2.store

/-- Two updates whose bodies come to the same give the same result and leave the same tables. -/
theorem update_of_same {α : Type} {body : TxnM α} (hstore : b'.store = b.store)
    (hbody : Txn.ComeToTheSame (body.run b.transaction) (body.run b'.transaction)) :
    (b'.update body).1 = (b.update body).1 ∧
      (b'.update body).2.store = (b.update body).2.store := by
  obtain ⟨a, t, t', hsame, -, hb, hb'⟩ | ⟨e, t, t', -, -, hb, hb'⟩ := update_cases_of_matches hbody
  · rw [hb, hb']
    exact ⟨rfl, hsame.store⟩
  · rw [hb, hb']
    exact ⟨rfl, hstore⟩

namespace SameTables

/-- The transactions that start from the backends are on the same store. -/
theorem transaction (h : SameTables b b') : Txn.SameStore b.transaction b'.transaction :=
  ⟨h.active, h.store⟩

section Requests

variable (h : SameTables b b') (ht : b.store.bucketD b.active = .ok table)

include h ht

/-- The active bucket shows the same table in the second backend. -/
theorem bucketD_active : b'.store.bucketD b'.active = .ok table := by
  rw [h.active, h.store, ht]

/-- Writes look alike. -/
theorem put (mode : WriteMode) (key : Key) (value : Value) :
    LookAlike (b.serve (.put mode key value)) (b'.serve (.put mode key value)) := by
  obtain ⟨hresult, hstore⟩ := update_of_same h.store (h.transaction.put ht mode key value)
  exact ⟨by simp only [Backend.serve, Backend.put, Prod.map_fst, hresult], hstore⟩

/-- The same is found under a key in both backends, though only one of the caches may know it. -/
theorem found_eq (key : Key) : b'.found key = b.found key := by
  rw [h.left.sound.found_eq ht, h.right.sound.found_eq (h.bucketD_active ht)]

/-- Reads look alike. -/
theorem get (key : Key) : LookAlike (b.serve (.get key)) (b'.serve (.get key)) := by
  simp only [Backend.serve, get_eq, h.found_eq ht]
  refine ⟨rfl, ?_⟩
  simp only [Prod.map_snd, id, looked_store, h.store]

/-- Deletions look alike, with a read before them or without. -/
theorem delete (key : Key) (onlyIfExists : Bool) :
    LookAlike (b.serve (.delete key onlyIfExists)) (b'.serve (.delete key onlyIfExists)) := by
  cases onlyIfExists with
  | false =>
      obtain ⟨hresult, hstore⟩ := update_of_same h.store (h.transaction.delete ht key)
      refine ⟨?_, hstore⟩
      simp only [Backend.serve, Backend.delete, Bool.false_eq_true, if_false, Prod.map_fst, hresult]
  | true =>
      have hlooked : (b'.looked key).store = (b.looked key).store := by
        rw [looked_store, looked_store, h.store]
      have hsame : Txn.SameStore (b.looked key).transaction (b'.looked key).transaction :=
        ⟨by simp only [transaction_bucket, looked_active, h.active], hlooked⟩
      have htable : (b.looked key).store.bucketD (b.looked key).active = .ok table := by
        rw [looked_store, looked_active, ht]
      simp only [Backend.serve, delete_ifExists_eq, h.found_eq ht]
      rcases b.found key with e | _ | value
      · exact ⟨rfl, hlooked⟩
      · exact ⟨rfl, hlooked⟩
      · obtain ⟨hresult, hstore⟩ := update_of_same hlooked (hsame.delete htable key)
        exact ⟨by simp only [Prod.map_fst, hresult], hstore⟩

/-- Changes of tallies look alike: both transactions see what the table holds. -/
theorem adjust (change : Adjustment) (create : Bool) (key : Key) :
    LookAlike (b.serve (.adjust change create key)) (b'.serve (.adjust change create key)) := by
  have hseen : b'.transaction.seen table key = b.transaction.seen table key := by
    rw [h.left.sound.seen_eq ht, h.right.sound.seen_eq (h.bucketD_active ht)]
  obtain ⟨hresult, hstore⟩ :=
    update_of_same h.store (h.transaction.adjust ht change create hseen)
  exact ⟨by simp only [Backend.serve, Backend.adjust, Prod.map_fst, hresult], hstore⟩

/-- Statistics look alike: the totals and what is told of the caches is no part of a reply. -/
theorem stats : LookAlike (b.serve .stats) (b'.serve .stats) := by
  refine ⟨?_, h.store⟩
  simp only [Backend.serve, stats_working, h.active, h.store, ht, Except.map, Answer.reply]

end Requests

variable (h : SameTables b b')

include h

/-- Flushes look alike. -/
theorem flush : LookAlike (b.serve .flush) (b'.serve .flush) := by
  obtain ⟨hresult, hstore⟩ := update_of_same h.store h.transaction.flush
  exact ⟨by simp only [Backend.serve, Backend.flush, Prod.map_fst, hresult], hstore⟩

/-- A switch succeeds in both backends or in none. -/
theorem switch_result (name : String) : (b'.switch name).1 = (b.switch name).1 := by
  rw [h.left.switch_result, h.right.switch_result, h.store]

/-- Switches look alike. -/
theorem switch (name : String) : LookAlike (b.serve (.switch name)) (b'.serve (.switch name)) := by
  refine ⟨?_, ?_⟩
  · simp only [Backend.serve, Prod.map_fst, h.switch_result]
  · simp only [Backend.serve, Prod.map_snd, id, switch_store, h.store]

/-- A request leaves the same bucket active in both backends. -/
theorem active_serve (request : Request) :
    (b'.serve request).2.active = (b.serve request).2.active := by
  rcases request.switch_or with hrequest | ⟨name, rfl⟩
  · rw [steady_active.serve hrequest, steady_active.serve hrequest, h.active]
  · simp only [Backend.serve, Prod.map_snd, id, switch_active, h.switch_result, h.active]

/-- **Every request looks alike** in backends with the same tables, and leaves them so. -/
theorem serve (request : Request) :
    LookAlike (b.serve request) (b'.serve request) ∧
      SameTables (b.serve request).2 (b'.serve request).2 := by
  obtain ⟨table, ht⟩ := h.left.bucketD_active
  have hlook : LookAlike (b.serve request) (b'.serve request) := by
    cases request with
    | put mode key value => exact h.put ht mode key value
    | get key => exact h.get ht key
    | delete key onlyIfExists => exact h.delete ht key onlyIfExists
    | adjust change create key => exact h.adjust ht change create key
    | flush => exact h.flush
    | switch name => exact h.switch name
    | stats => exact h.stats ht
  exact ⟨hlook, h.left.serve request, h.right.serve request, h.active_serve request, hlook.store⟩

omit h in
/-- **Every row of requests looks alike** in backends with the same tables, and leaves them so. -/
theorem run (h : SameTables b b') (requests : List Request) :
    (b'.answers requests).map (·.map Answer.reply) =
        (b.answers requests).map (·.map Answer.reply) ∧
      SameTables (b.after requests) (b'.after requests) := by
  induction requests generalizing b b' with
  | nil => exact ⟨rfl, h⟩
  | cons request rest ih =>
      obtain ⟨hlook, hnext⟩ := h.serve request
      obtain ⟨hanswers, hafter⟩ := ih hnext
      refine ⟨?_, hafter⟩
      simp only [answers, List.map_cons, hlook.reply, hanswers]

end SameTables

end Backend

end BucketStore
