import BucketStore.Proofs.Soundness

/-!
# Tables Stay

Once a table was committed for a bucket it is there for good. Every request, whether it succeeds or
fails, and a flush as well, leaves what stands under a name as it was, or puts a bucket's table
there (`Store.Persists`); a table is dropped only to be made anew in the same transaction.

Two things follow. A bucket that has a table keeps one, and the table of every bucket that has a
cache can be read (`Backend.Readable`): it could be read when the cache was filled.

## Main results

* `leavesTable_put`, `leavesTable_delete`, `leavesTable_adjust`, `leavesTable_flush`: a body that
  succeeds leaves its bucket with a table.
* `persists_serve`, `persists_after`: tables stay.
* `hasBucket_of_committed`: a committed change leaves the active bucket with a table.
* `Readable.serve`, `Readable.after`, `readable_of_openWith`: known buckets can be read.
-/

namespace BucketStore

/-! ### Stores -/

namespace Store

variable {s s' s'' : Store} {name : String}

/-- A store **has** a bucket if a bucket's table stands under the name. -/
def HasBucket (s : Store) (name : String) : Prop :=
  ∃ table, s[name]? = some (.bucket table)

/-- A bucket that has a table is seen with it. -/
theorem HasBucket.bucket? (h : s.HasBucket name) : ∃ table, s.bucket? name = .ok (some table) := by
  obtain ⟨table, htable⟩ := h
  exact ⟨table, by simp only [Store.bucket?, htable]⟩

/-- A bucket that is seen with a table has it. -/
theorem hasBucket_of_bucket? {table : Table} (h : s.bucket? name = .ok (some table)) :
    s.HasBucket name := by
  simp only [bucket?] at h
  split at h
  · cases h
  · rename_i hstored
    exact ⟨_, hstored⟩
  · cases h

/-- A bucket that has a table can be read. -/
theorem HasBucket.bucketD (h : s.HasBucket name) : ∃ table, s.bucketD name = .ok table := by
  obtain ⟨table, htable⟩ := h.bucket?
  exact ⟨table, bucketD_of_bucket? htable⟩

/-- A bucket that was given a table has it. -/
theorem hasBucket_setBucket (s : Store) (name : String) (table : Table) :
    (s.setBucket name table).HasBucket name :=
  ⟨table, Std.TreeMap.getElem?_insert_self⟩

/-- The tables of a store **persist** in another one if whatever stood under a name stands there
still, or a bucket's table stands there now. -/
def Persists (s s' : Store) : Prop :=
  ∀ name : String, s'[name]? = s[name]? ∨ s'.HasBucket name

namespace Persists

theorem refl (s : Store) : Persists s s :=
  fun _ => .inl rfl

theorem trans (h : Persists s s') (h' : Persists s' s'') : Persists s s'' := by
  intro name
  rcases h' name with hsame | hhas
  · rcases h name with hbefore | ⟨table, htable⟩
    · exact .inl (hsame.trans hbefore)
    · exact .inr ⟨table, hsame.trans htable⟩
  · exact .inr hhas

/-- A bucket that has a table keeps one. -/
theorem hasBucket (h : Persists s s') (hs : s.HasBucket name) : s'.HasBucket name := by
  obtain ⟨table, htable⟩ := hs
  rcases h name with hsame | hhas
  · exact ⟨table, hsame.trans htable⟩
  · exact hhas

/-- A bucket that can be read can be read still. -/
theorem bucketD (h : Persists s s') {table : Table} (hs : s.bucketD name = .ok table) :
    ∃ table', s'.bucketD name = .ok table' := by
  rcases h name with hsame | hhas
  · exact ⟨table, (bucketD_congr hsame).trans hs⟩
  · exact hhas.bucketD

end Persists

end Store

/-! ### Bodies that succeed -/

namespace Txn

/-- A body **leaves a table** if its bucket has a table whenever it succeeds. -/
def LeavesTable {α : Type} (body : TxnM α) : Prop :=
  ∀ {t a t'}, body.run t = .ok a t' → t'.store.HasBucket t.bucket

/-- A table that was put in place is there. -/
theorem hasBucket_withTable {t : Txn} {name : String} (h : t.bucket = name) (table : Table) :
    (t.withTable table).store.HasBucket name :=
  h ▸ Store.hasBucket_setBucket ..

/-- A write that succeeds leaves a table. -/
theorem leavesTable_put (mode : WriteMode) (key : Key) (value : Value) :
    LeavesTable (put mode key value) := by
  intro t a t' hrun
  cases h : t.store.bucketD t.bucket with
  | error fault =>
      rw [run_put_of_fault mode key value h] at hrun
      cases hrun
  | ok table =>
      cases hm : mode.admits (table.contains key) with
      | true =>
          rw [run_put_of_admits mode key value h hm] at hrun
          cases hrun
          rw [registered_store]
          exact hasBucket_withTable (by simp) _
      | false =>
          rw [run_put_of_not_admits mode key value h hm] at hrun
          cases hrun

/-- A deletion leaves a table, also where there was none before. -/
theorem leavesTable_delete (key : Key) : LeavesTable (delete key) := by
  intro t a t' hrun
  cases h : t.store.bucketD t.bucket with
  | error fault =>
      rw [run_delete_of_fault key h] at hrun
      cases hrun
  | ok table =>
      rw [run_delete key h] at hrun
      cases hrun
      split <;> exact hasBucket_withTable (by simp) (table.erase key)

/-- A change of a tally that succeeds leaves a table. -/
theorem leavesTable_adjust (change : Adjustment) (create : Bool) (key : Key) :
    LeavesTable (adjust change create key) := by
  intro t a t' hrun
  cases h : t.store.bucketD t.bucket with
  | error fault =>
      rw [run_adjust_of_fault change create key h] at hrun
      cases hrun
  | ok table =>
      rw [run_adjust change create key h] at hrun
      cases ho : change.outcome create t.bucket key (t.seen table key) with
      | error e =>
          simp only [ho] at hrun
          cases hrun
      | ok n =>
          simp only [ho] at hrun
          cases hrun
          rw [registered_store]
          exact hasBucket_withTable (by simp) _

/-- A flush leaves a table, whatever stood under the name. -/
theorem leavesTable_flush : LeavesTable flush := by
  intro t a t' hrun
  rw [run_flush] at hrun
  cases hrun
  exact Store.hasBucket_setBucket ..

end Txn

/-! ### Requests -/

namespace Backend

variable {b b' : Backend} {name : String}

section Updates

variable {α : Type} {body : TxnM α}

/-- An update that succeeds leaves the active bucket with a table. -/
theorem hasBucket_of_update_ok (hbody : Txn.LeavesTable body) {a : α}
    (h : (b.update body).1 = .ok a) : (b.update body).2.store.HasBucket b.active := by
  cases hrun : body.run b.transaction with
  | ok a' t =>
      rw [update_of_ok hrun]
      exact hbody hrun
  | error e t =>
      rw [update_of_error hrun] at h
      cases h

/-- Tables stay in an update whose body keeps to its bucket and leaves a table there. -/
theorem persists_update (hbody : Txn.LeavesTable body)
    (hframe : Txn.Frame b.transaction (Txn.ending body b.transaction)) :
    b.store.Persists (b.update body).2.store := by
  cases hrun : body.run b.transaction with
  | ok a t =>
      rw [Txn.ending_of_ok hrun] at hframe
      rw [update_of_ok hrun]
      intro other
      by_cases hother : other = b.active
      · exact .inr (hother ▸ hbody hrun)
      · exact .inl (hframe.elsewhere other hother)
  | error e t =>
      rw [update_of_error hrun]
      exact .refl _

end Updates

/-- Tables stay in a deletion, with a read before it or without. -/
theorem persists_delete (b : Backend) (key : Key) (onlyIfExists : Bool) :
    b.store.Persists (b.delete key onlyIfExists).2.store := by
  have hupdate : ∀ b : Backend, b.store.Persists (b.update (Txn.delete key)).2.store := fun _ =>
    persists_update (Txn.leavesTable_delete key) ((Txn.keepsBalance_delete key).frame _)
  cases onlyIfExists with
  | false => exact hupdate b
  | true =>
      have hlooked := hupdate (b.looked key)
      rw [looked_store] at hlooked
      rw [delete_ifExists_eq]
      rcases b.found key with e | _ | value
      · rw [looked_store]
        exact .refl _
      · rw [looked_store]
        exact .refl _
      · exact hlooked

/-- A switch changes no table. -/
theorem switch_store (b : Backend) (name : String) : (b.switch name).2.store = b.store := by
  obtain ⟨_, -, h⟩ | ⟨_, _, -, -, h⟩ | ⟨_, _, -, -, h⟩ := b.switch_cases name <;> rw [h]

/-- **Tables stay**, whatever is asked and whether it succeeds or fails. -/
theorem persists_serve (b : Backend) (request : Request) :
    b.store.Persists (b.serve request).2.store := by
  cases request with
  | put mode key value =>
      exact persists_update (Txn.leavesTable_put mode key value)
        ((Txn.keepsBalance_put mode key value).frame _)
  | get key =>
      simp only [serve, get_eq, Prod.map_snd, id, looked_store]
      exact .refl _
  | delete key onlyIfExists => exact b.persists_delete key onlyIfExists
  | adjust change create key =>
      exact persists_update (Txn.leavesTable_adjust change create key)
        ((Txn.keepsBalance_adjust change create key).frame _)
  | flush => exact persists_update Txn.leavesTable_flush (Txn.frame_flush _)
  | switch name =>
      simp only [serve, Prod.map_snd, id, switch_store]
      exact .refl _
  | stats => exact .refl _

/-- Tables stay over a row of requests. -/
theorem persists_after (b : Backend) (requests : List Request) :
    b.store.Persists (b.after requests).store := by
  induction requests generalizing b with
  | nil => exact .refl _
  | cons request rest ih => exact (b.persists_serve request).trans (ih _)

end Backend

/-! ### Committed changes -/

/-- Whether a request **committed** a change, by its answer. Reads, switches and statistics change no
table, and a deletion under a condition that does not hold stops at its read. -/
def Request.committed : Request → Except StoreError Answer → Bool
  | .put .., .ok _ => true
  | .adjust .., .ok _ => true
  | .flush, .ok _ => true
  | .delete .., .ok (.deleted removed) => removed
  | _, _ => false

/-- What was made of a result came from a result that was there. -/
theorem StoreError.ok_of_map {α β : Type} {f : α → β} {result : Except StoreError α} {c : β}
    (h : result.map f = .ok c) : ∃ a, result = .ok a ∧ f a = c := by
  cases result with
  | error e => cases h
  | ok a => exact ⟨a, rfl, Except.ok.inj h⟩

namespace Backend

variable {b b' : Backend} {name : String}

/-- A deletion that deleted its key, or was to succeed without it, leaves the active bucket with a
table. -/
theorem hasBucket_of_delete {key : Key} {onlyIfExists : Bool}
    (h : (b.delete key onlyIfExists).1 = .ok true) :
    (b.delete key onlyIfExists).2.store.HasBucket b.active := by
  cases onlyIfExists with
  | false =>
      obtain ⟨_, hok, -⟩ := StoreError.ok_of_map h
      exact hasBucket_of_update_ok (Txn.leavesTable_delete key) hok
  | true =>
      rw [delete_ifExists_eq] at h ⊢
      rcases hfound : b.found key with e | _ | value
      · simp [hfound] at h
      · simp [hfound] at h
      · rw [hfound] at h
        have hhas := hasBucket_of_update_ok (b := b.looked key) (Txn.leavesTable_delete key) h
        rwa [looked_active] at hhas

/-- **A committed change leaves the active bucket with a table.** -/
theorem hasBucket_of_committed {request : Request}
    (h : request.committed (b.serve request).1 = true) :
    (b.serve request).2.store.HasBucket b.active := by
  cases hanswer : (b.serve request).1 with
  | error e =>
      rw [hanswer] at h
      cases request <;> cases h
  | ok answer =>
      rw [hanswer] at h
      cases request with
      | put mode key value =>
          obtain ⟨_, hok, -⟩ := StoreError.ok_of_map hanswer
          exact hasBucket_of_update_ok (Txn.leavesTable_put mode key value) hok
      | delete key onlyIfExists =>
          obtain ⟨removed, hok, rfl⟩ := StoreError.ok_of_map hanswer
          cases h
          exact hasBucket_of_delete hok
      | adjust change create key =>
          obtain ⟨_, hok, -⟩ := StoreError.ok_of_map hanswer
          exact hasBucket_of_update_ok (Txn.leavesTable_adjust change create key) hok
      | flush =>
          obtain ⟨_, hok, -⟩ := StoreError.ok_of_map hanswer
          exact hasBucket_of_update_ok Txn.leavesTable_flush hok
      | get key => cases h
      | switch name => cases h
      | stats => cases h

/-! ### Known buckets can be read -/

/-- A backend is **readable** if the table of every bucket that has a cache can be read: it is a
bucket's table, or missing. -/
def Readable (b : Backend) : Prop :=
  ∀ name, b.registry.contains name = true → ∃ table, b.store.bucketD name = .ok table

/-- A cache was filled from a table that could be read. -/
theorem bucketD_of_fill {s : Store} {c c' : Cache} (h : fill s name c = .ok c') :
    ∃ table, s.bucketD name = .ok table := by
  rw [fill_working] at h
  cases ht : s.bucketD name with
  | error fault => simp [ht] at h
  | ok table => exact ⟨table, rfl⟩

/-- A switch makes a bucket known only if its table can be read. -/
theorem contains_switch {new : String} (h : (b.switch new).2.registry.contains name = true) :
    b.registry.contains name = true ∨ ∃ table, b.store.bucketD name = .ok table := by
  obtain ⟨_, -, hs⟩ | ⟨_, _, -, -, hs⟩ | ⟨n, registry, -, hens, hs⟩ := b.switch_cases new
  · rw [hs] at h
    exact .inl h
  · rw [hs] at h
    exact .inl h
  · rw [hs] at h
    rcases Registry.ensure_eq_ok hens with ⟨-, rfl⟩ | ⟨c, -, hfill, rfl⟩
    · exact .inl h
    · by_cases hname : n.text = name
      · exact .inr (hname ▸ bucketD_of_fill hfill)
      · rw [Registry.contains_eq_isSome_find?, Registry.find?_insert, if_neg hname,
          ← Registry.contains_eq_isSome_find?] at h
        exact .inl h

/-- A bucket that is known after a request was known before or can be read. -/
theorem contains_serve {request : Request}
    (h : (b.serve request).2.registry.contains name = true) :
    b.registry.contains name = true ∨ ∃ table, b.store.bucketD name = .ok table := by
  rcases request.switch_or with hrequest | ⟨new, rfl⟩
  · exact .inl (((steady_contains name).serve hrequest).symm.trans h)
  · exact contains_switch h

namespace Readable

/-- Every request keeps the known buckets readable: tables that can be read stay so. -/
theorem serve (hb : b.Readable) (request : Request) : (b.serve request).2.Readable := by
  intro name hname
  have hread : ∃ table, b.store.bucketD name = .ok table := by
    rcases contains_serve hname with hknown | hread
    · exact hb name hknown
    · exact hread
  obtain ⟨table, htable⟩ := hread
  exact (b.persists_serve request).bucketD htable

/-- A row of requests keeps the known buckets readable. -/
theorem after (hb : b.Readable) (requests : List Request) : (b.after requests).Readable := by
  induction requests generalizing b with
  | nil => exact hb
  | cons request rest ih => exact ih (hb.serve request)

end Readable

/-- A backend is opened on a bucket that has a table. -/
theorem hasBucket_of_openWith {shape : Filter.Shape} {v : Volume} {path bucket : String}
    (h : (openWith shape v path bucket).1 = .ok b) : b.store.HasBucket bucket := by
  obtain ⟨-, _, htable, -⟩ := registry_of_openWith h
  exact Store.hasBucket_of_bucket? htable

/-- **A backend is readable when it was opened**: the only bucket that it knows has a table. -/
theorem readable_of_openWith {shape : Filter.Shape} {v : Volume} {path bucket : String}
    (h : (openWith shape v path bucket).1 = .ok b) : b.Readable := by
  obtain ⟨-, table, htable, hfind⟩ := registry_of_openWith h
  intro name hname
  rw [Registry.contains_eq_isSome_find?, hfind] at hname
  by_cases hbucket : bucket = name
  · exact ⟨table, hbucket ▸ Store.bucketD_of_bucket? htable⟩
  · rw [if_neg hbucket] at hname
    cases hname

end Backend

end BucketStore
