import BucketStore.Proofs.FailedRequests

/-!
# Bodies on Failing Disks

A disk may fail at every access that the body of a transaction makes. Up to its last access no body
has noted a key, so a body that is interrupted has only read (`Txn.KeepsTo`). What a body notes when it
succeeds is at most one key as inserted, and that comes last of all (`Txn.Registers`); everything else
waits for the commit.

The same is said of results without a transaction, as those of reads and scans (`Disk.Follows`).

## Main results

* `Txn.keepsTo_put`, `Txn.keepsTo_delete`, `Txn.keepsTo_adjust`, `Txn.keepsTo_flush`: a body on any
  disk runs as on one that works, or is interrupted and has only read.
* `Txn.registers_put`, `Txn.registers_delete`, `Txn.registers_adjust`, `Txn.registers_flush`: what a body
  inserts that succeeds.
-/

namespace BucketStore

variable {disk : Disk}

/-! ### Results -/

/-- A result on a disk **follows** the one on a disk that works, if it is that one or the error of an
access before the commit. -/
def Disk.Follows (disk : Disk) {α : Type} (result plain : Except StoreError α) : Prop :=
  result = plain ∨ ∃ a fault, disk a = some fault ∧ result = .error (a.error fault)

namespace Disk.Follows

variable {α β : Type} {result plain : Except StoreError α}

theorem refl (result : Except StoreError α) : disk.Follows result result :=
  .inl rfl

/-- An access follows no access. -/
theorem access (disk : Disk) (a : Access) : disk.Follows (disk.access a) (.ok ()) := by
  cases h : disk a with
  | none => exact .inl (by simp only [Disk.access, h])
  | some fault => exact .inr ⟨a, fault, h, by simp only [Disk.access, h]⟩

/-- Results follow each other step by step. -/
theorem bind (h : disk.Follows result plain) {next next' : α → Except StoreError β}
    (hnext : ∀ a, disk.Follows (next a) (next' a)) :
    disk.Follows (result >>= next) (plain >>= next') := by
  obtain rfl | ⟨a, fault, hfault, rfl⟩ := h
  · cases result with
    | error e => exact .refl _
    | ok a => exact hnext a
  · exact .inr ⟨a, fault, hfault, rfl⟩

theorem map (h : disk.Follows result plain) (f : α → β) :
    disk.Follows (result.map f) (plain.map f) := by
  obtain rfl | ⟨a, fault, hfault, rfl⟩ := h
  · exact .refl _
  · exact .inr ⟨a, fault, hfault, rfl⟩

/-- Results follow each other along a list. -/
theorem foldlM {step step' : β → α → Except StoreError β}
    (h : ∀ b a, disk.Follows (step b a) (step' b a)) (as : List α) (b : β) :
    disk.Follows (as.foldlM step b) (as.foldlM step' b) := by
  induction as generalizing b with
  | nil => exact .refl _
  | cons a rest ih => exact (h b a).bind ih

end Disk.Follows

/-! ### Bodies -/

namespace Txn

variable {α β : Type} {t t' : Txn}

/-- A body **reads on** if it has only read whenever it succeeds. -/
def ReadsOn (body : TxnM α) : Prop :=
  ∀ {t a t'}, body.run t = .ok a t' → OnlyRead t t'

/-- A body on a disk **keeps to** a plain one if it runs as the plain one does, unless the disk fails
at an access; up to there it has only read. -/
def KeepsTo (disk : Disk) (body plain : TxnM α) : Prop :=
  ∀ t, body.run t = plain.run t ∨
    ∃ a fault t', disk a = some fault ∧ body.run t = .error (a.error fault) t' ∧ OnlyRead t t'

namespace KeepsTo

variable {body plain : TxnM α}

theorem refl (body : TxnM α) : KeepsTo disk body body :=
  fun _ => .inl rfl

/-- What comes after a body that reads on may be interrupted as well. -/
theorem bind (h : KeepsTo disk body plain) (hreads : ReadsOn plain) {next next' : α → TxnM β}
    (hnext : ∀ a, KeepsTo disk (next a) (next' a)) :
    KeepsTo disk (body >>= next) (plain >>= next') := by
  intro t
  simp only [EStateM.run_bind]
  obtain hsame | ⟨a, fault, t', hfault, hrun, hread⟩ := h t
  · rw [hsame]
    cases hrun : plain.run t with
    | error e t' => exact .inl rfl
    | ok a t' =>
        obtain hsame' | ⟨a', fault, t'', hfault, hrun', hread⟩ := hnext a t'
        · exact .inl hsame'
        · exact .inr ⟨a', fault, t'', hfault, hrun', (hreads hrun).trans hread⟩
  · exact .inr ⟨a, fault, t', hfault, by rw [hrun], hread⟩

/-- An access may be interrupted, and nothing has happened then. -/
theorem access_bind (a : Access) {next next' : TxnM β} (h : KeepsTo disk next next') :
    KeepsTo disk (access disk a >>= fun _ => next) (access Disk.working a >>= fun _ => next') := by
  intro t
  simp only [EStateM.run_bind, run_access_working]
  cases hfault : disk a with
  | none =>
      have hrun : (access disk a).run t = .ok () t := by
        simp only [access, Disk.access, hfault]
        rfl
      rw [hrun]
      exact h t
  | some fault =>
      have hrun : (access disk a).run t = .error (a.error fault) t := by
        simp only [access, Disk.access, hfault]
        rfl
      exact .inr ⟨a, fault, t, hfault, by rw [hrun], .refl t⟩

end KeepsTo

/-! #### Steps that read on -/

theorem readsOn_openTable : ReadsOn openTable := by
  intro t a t' hrun
  rw [run_openTable] at hrun
  cases h : t.store.bucketD t.bucket with
  | error fault =>
      rw [h] at hrun
      cases hrun
  | ok table =>
      rw [h] at hrun
      cases hrun
      exact .withTable t _

theorem readsOn_test (key : Key) : ReadsOn (test key) := by
  intro t a t' hrun
  cases hrun
  exact ⟨.noteTest _ key, rfl, le_rfl, le_rfl⟩

theorem readsOn_noteRead : ReadsOn noteRead := by
  intro t a t' hrun
  cases hrun
  exact ⟨.refl _, rfl, Nat.le_succ _, le_rfl⟩

theorem readsOn_settle (mode : WriteMode) (table : Table) (key : Key) :
    ReadsOn (settle mode table key) := by
  intro t a t' hrun
  rw [run_settle] at hrun
  split at hrun
  · cases hrun
    exact .settled t mode key
  · cases hrun

theorem readsOn_current (table : Table) (key : Key) : ReadsOn (current table key) := by
  intro t a t' hrun
  rw [run_current] at hrun
  cases hrun
  exact .consulted t key true

theorem readsOn_nextTally (change : Adjustment) (create : Bool) (key : Key) (seen : Option Value) :
    ReadsOn (nextTally change create key seen) := by
  intro t a t' hrun
  rw [run_nextTally] at hrun
  cases h : change.outcome create t.bucket key seen with
  | error e =>
      rw [h] at hrun
      cases hrun
  | ok n =>
      rw [h] at hrun
      cases hrun
      exact .refl t

theorem readsOn_dropTable : ReadsOn dropTable := by
  intro t a t' hrun
  cases hrun
  exact ⟨.refl _, rfl, le_rfl, le_rfl⟩

/-! #### Bodies on any disk -/

section Bodies

variable (disk) (mode : WriteMode) (change : Adjustment) (create : Bool) (key : Key) (value : Value)
  (table : Table)

/-- Settling a condition makes at most one access, after the cache was asked. -/
theorem keepsTo_settle : KeepsTo disk (settle mode table key disk) (settle mode table key) := by
  cases mode with
  | always => exact .refl _
  | ifPresent =>
      refine KeepsTo.bind (.refl _) (readsOn_test key) fun known => ?_
      cases known with
      | true => exact .refl _
      | false => exact KeepsTo.bind (.refl _) readsOn_noteRead fun _ => .access_bind _ (.refl _)
  | ifAbsent =>
      refine KeepsTo.bind (.refl _) (readsOn_test key) fun known => ?_
      cases known with
      | true => exact KeepsTo.bind (.refl _) readsOn_noteRead fun _ => .access_bind _ (.refl _)
      | false => exact .refl _

/-- **A write** is interrupted before the key is in the table, if it is. -/
theorem keepsTo_put : KeepsTo disk (put mode key value disk) (put mode key value) :=
  .access_bind _ <| .bind (.refl _) readsOn_openTable fun table =>
    .bind (keepsTo_settle disk mode key table) (readsOn_settle mode table key) fun _ =>
      .access_bind _ (.refl _)

/-- **A deletion** is interrupted before the key is taken out of the table, if it is. -/
theorem keepsTo_delete : KeepsTo disk (delete key disk) (delete key) :=
  .access_bind _ <| .bind (.refl _) readsOn_openTable fun _ => .access_bind _ (.refl _)

/-- Reading a tally makes at most one access, after the cache was asked. -/
theorem keepsTo_current : KeepsTo disk (current table key disk) (current table key) := by
  refine KeepsTo.bind (.refl _) (readsOn_test key) fun known => ?_
  cases known with
  | true => exact KeepsTo.bind (.refl _) readsOn_noteRead fun _ => .access_bind _ (.refl _)
  | false => exact .refl _

/-- **A change of a tally** is interrupted before the tally is in the table, if it is. -/
theorem keepsTo_adjust : KeepsTo disk (adjust change create key disk) (adjust change create key) :=
  .access_bind _ <| .bind (.refl _) readsOn_openTable fun table =>
    .bind (keepsTo_current disk key table) (readsOn_current table key) fun seen =>
      .bind (.refl _) (readsOn_nextTally change create key seen) fun _ => .access_bind _ (.refl _)

/-- **A flush** may be interrupted when the table is dropped already, in the transaction's copy. -/
theorem keepsTo_flush : KeepsTo disk (flush disk) flush :=
  .access_bind _ <| .bind (.refl _) readsOn_dropTable fun _ => .access_bind _ (.refl _)

end Bodies

/-! #### Bodies that succeed -/

/-- A body **registers** at most one key if, whenever it succeeds, it has inserted nothing, or has
inserted that key last of all, which was not stored or not admitted. -/
def Registers (written : Option Key) (body : TxnM α) : Prop :=
  ∀ {t a t'}, body.run t = .ok a t' →
    InsertedNothing t t' ∨ ∃ key, written = some key ∧
      (key ∉ t.store.keysOf t.bucket ∨ t.cache.mayContain key = false) ∧
      ∃ s, OnlyRead t s ∧ t' = s.inserted key

/-- Registering a key that was written inserts it, unless it was stored and is admitted. -/
theorem registered_cases {s : Txn} {key : Key} {table : Table}
    (h : t.store.bucketD t.bucket = .ok table) (hs : OnlyRead t s) :
    InsertedNothing t (s.registered (table.contains key) key) ∨
      (key ∉ t.store.keysOf t.bucket ∨ t.cache.mayContain key = false) ∧
      ∃ s', OnlyRead t s' ∧ s.registered (table.contains key) key = s'.inserted key := by
  have hfilter : s.cache.mayContain key = t.cache.mayContain key := by
    rw [Cache.mayContain, hs.cache.filter]
    rfl
  have htested : OnlyRead s (s.tested key) := ⟨.noteTest _ key, rfl, le_rfl, le_rfl⟩
  cases hc : table.contains key with
  | false =>
      right
      refine ⟨.inl fun hmem => ?_, s, hs, rfl⟩
      rw [Store.keysOf_of_bucketD h, Table.mem_keys_iff, hc] at hmem
      cases hmem
  | true =>
      simp only [registered, if_true, hfilter]
      split
      · exact .inl (hs.trans htested).insertedNothing
      · rename_i hdenied
        exact .inr ⟨.inr (by simpa using hdenied), s.tested key, hs.trans htested, rfl⟩

/-- A write registers its key. -/
theorem registers_put (mode : WriteMode) (key : Key) (value : Value) :
    Registers (some key) (put mode key value) := by
  intro t a t' hrun
  cases h : t.store.bucketD t.bucket with
  | error fault =>
      rw [run_put_of_fault mode key value h] at hrun
      cases hrun
  | ok table =>
      cases hm : mode.admits (table.contains key) with
      | false =>
          rw [run_put_of_not_admits mode key value h hm] at hrun
          cases hrun
      | true =>
          rw [run_put_of_admits mode key value h hm] at hrun
          cases hrun
          have hread := ((OnlyRead.withTable t table).trans (.settled _ mode key)).trans
            (.withTable _ (table.insert key value))
          obtain hnothing | ⟨hnew, s, hs, hlast⟩ := registered_cases h hread
          · exact .inl hnothing
          · exact .inr ⟨key, rfl, hnew, s, hs, hlast⟩

/-- A change of a tally registers its key. -/
theorem registers_adjust (change : Adjustment) (create : Bool) (key : Key) :
    Registers (some key) (adjust change create key) := by
  intro t a t' hrun
  cases h : t.store.bucketD t.bucket with
  | error fault =>
      rw [run_adjust_of_fault change create key h] at hrun
      cases hrun
  | ok table =>
      rw [run_adjust change create key h] at hrun
      cases ho : change.outcome create t.bucket key (t.seen table key) with
      | error e =>
          simp only [ho] at hrun
          cases hrun
      | ok n =>
          simp only [ho] at hrun
          cases hrun
          have hread := ((OnlyRead.withTable t table).trans (.consulted _ key true)).trans
            (.withTable _ (table.insert key (Tally.toValue a)))
          obtain hnothing | ⟨hnew, s, hs, hlast⟩ := registered_cases h hread
          · exact .inl hnothing
          · exact .inr ⟨key, rfl, hnew, s, hs, hlast⟩

/-- A deletion registers nothing: what it notes waits for the commit. -/
theorem registers_delete (key : Key) : Registers none (delete key) := by
  intro t a t' hrun
  cases h : t.store.bucketD t.bucket with
  | error fault =>
      rw [run_delete_of_fault key h] at hrun
      cases hrun
  | ok table =>
      rw [run_delete key h] at hrun
      cases hrun
      left
      split
      · exact ⟨.refl _, rfl, le_rfl, le_rfl⟩
      · exact ⟨.refl _, rfl, le_rfl, le_rfl⟩

/-- A flush registers nothing: the reset waits for the commit. -/
theorem registers_flush : Registers none flush := by
  intro t a t' hrun
  rw [run_flush] at hrun
  cases hrun
  exact .inl ⟨.refl _, rfl, le_rfl, le_rfl⟩

end Txn

end BucketStore
