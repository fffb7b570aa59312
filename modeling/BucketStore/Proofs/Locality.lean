import BucketStore.Proofs.Operations

/-!
# Transactions Side by Side

Two transactions are **alike** if they cannot be told apart from inside their bucket: they are on the
same bucket, with the same table, the same cache and the same notes. What else is in their stores and
how far the counters have come may differ. A body is **local** if it cannot tell alike transactions
apart: it gives the same value or the same error in both and leaves them alike.

All steps of a transaction are local, local steps make local programs, and so all bodies are local.

## Main results

* `Local.bind`: local programs are local one after the other.
* `local_put`, `local_delete`, `local_adjust`, `local_flush`: the bodies are local.
* `Backend.update_cases_of_matches`: two updates whose bodies match commit both or abort both.
-/

namespace BucketStore

namespace Txn

/-! ### Runs that match -/

/-- Two runs **match** if both succeed with the same value or both fail with the same error, in states
that are related by `R` after a success and by `S` after a failure. -/
def Matches {α : Type} (R S : Txn → Txn → Prop) :
    EStateM.Result StoreError Txn α → EStateM.Result StoreError Txn α → Prop
  | .ok a t, .ok a' t' => a' = a ∧ R t t'
  | .error e t, .error e' t' => e' = e ∧ S t t'
  | _, _ => False

/-- Two transactions are **alike** if they look the same from inside their bucket. -/
structure Alike (t t' : Txn) : Prop where
  /-- They are on the same bucket. -/
  bucket : t'.bucket = t.bucket
  /-- The same stands under the bucket's name. -/
  table : t'.store[t.bucket]? = t.store[t.bucket]?
  /-- They have the same cache. -/
  cache : t'.cache = t.cache
  /-- They have the same notes. -/
  pending : t'.pending = t.pending

/-- A program is **local** if runs from alike transactions match and leave them alike. -/
def Local {α : Type} (body : TxnM α) : Prop :=
  ∀ t t', Alike t t' → Matches Alike Alike (body.run t) (body.run t')

namespace Alike

variable {t t' : Txn}

/-- The same table is seen in alike transactions, or the same fault. -/
theorem bucketD (h : Alike t t') : t'.store.bucketD t'.bucket = t.store.bucketD t.bucket := by
  rw [h.bucket]
  exact Store.bucketD_congr h.table

/-- Alike transactions that were given the same table are alike. -/
theorem withTable (h : Alike t t') (table : Table) : Alike (t.withTable table) (t'.withTable table) where
  bucket := h.bucket
  table := by
    simp only [Txn.withTable, h.bucket, Store.setBucket, Std.TreeMap.getElem?_insert_self]
  cache := h.cache
  pending := h.pending

end Alike

/-! ### Local programs -/

section Programs

variable {α β : Type}

namespace Local

/-- A program that does nothing is local. -/
theorem pure (a : α) : Local (Pure.pure a : TxnM α) :=
  fun _ _ h => ⟨rfl, h⟩

/-- Local programs are local one after the other. -/
theorem bind {body : TxnM α} {next : α → TxnM β} (h : Local body) (hnext : ∀ a, Local (next a)) :
    Local (body >>= next) := by
  intro t t' halike
  have hbody := h t t' halike
  simp only [EStateM.run_bind]
  cases hrun : body.run t with
  | ok a s =>
      cases hrun' : body.run t' with
      | ok a' s' =>
          rw [hrun, hrun'] at hbody
          obtain ⟨rfl, hs⟩ := hbody
          exact hnext _ s s' hs
      | error e' s' =>
          rw [hrun, hrun'] at hbody
          exact hbody.elim
  | error e s =>
      cases hrun' : body.run t' with
      | ok a' s' =>
          rw [hrun, hrun'] at hbody
          exact hbody.elim
      | error e' s' =>
          rw [hrun, hrun'] at hbody
          exact hbody

/-- A change that keeps transactions alike is local. -/
theorem of_change {f : Txn → Txn} (h : ∀ {t t'}, Alike t t' → Alike (f t) (f t')) :
    Local (modify f) :=
  fun _ _ halike => ⟨rfl, h halike⟩

end Local

end Programs

/-! ### Steps -/

section Steps

variable (key : Key) (table : Table)

/-- An access to the disk does not look at the transaction. -/
theorem local_access (disk : Disk) (a : Access) : Local (access disk a) := by
  intro t t' h
  simp only [access]
  cases disk.access a with
  | error e => exact ⟨rfl, h⟩
  | ok => exact ⟨rfl, h⟩

theorem local_openTable : Local openTable := by
  intro t t' h
  rw [run_openTable, run_openTable, h.bucketD]
  cases t.store.bucketD t.bucket with
  | error fault => exact ⟨rfl, h⟩
  | ok table => exact ⟨rfl, h.withTable table⟩

theorem local_setTable : Local (setTable table) :=
  .of_change fun h => h.withTable table

theorem local_dropTable : Local dropTable :=
  .of_change fun h => by
    refine ⟨h.bucket, ?_, h.cache, h.pending⟩
    simp only [h.bucket, Store.drop, Std.TreeMap.getElem?_erase_self]

theorem local_test : Local (test key) := by
  intro t t' h
  rw [run_test, run_test]
  refine ⟨by rw [h.cache], h.bucket, h.table, ?_, h.pending⟩
  simp only [tested, h.cache]

theorem local_noteRead : Local noteRead :=
  .of_change fun h => ⟨h.bucket, h.table, h.cache, h.pending⟩

theorem local_noteShortCircuit : Local noteShortCircuit :=
  .of_change fun h => ⟨h.bucket, h.table, h.cache, h.pending⟩

theorem local_noteInsert : Local (noteInsert key) :=
  .of_change fun h => ⟨h.bucket, h.table, by rw [h.cache], by rw [h.pending]⟩

theorem local_noteRemove : Local (noteRemove key) :=
  .of_change fun h => ⟨h.bucket, h.table, h.cache, by rw [h.pending]⟩

theorem local_noteReset : Local noteReset :=
  .of_change fun h => ⟨h.bucket, h.table, h.cache, by rw [h.pending]⟩

theorem local_failExists {α : Type} : Local (failExists key : TxnM α) := by
  intro t t' h
  rw [run_failExists, run_failExists]
  exact ⟨by rw [h.bucket], h⟩

theorem local_failNotFound {α : Type} : Local (failNotFound key : TxnM α) := by
  intro t t' h
  rw [run_failNotFound, run_failNotFound]
  exact ⟨by rw [h.bucket], h⟩

end Steps

/-! ### Bodies -/

section Bodies

variable (mode : WriteMode) (change : Adjustment) (create : Bool) (key : Key) (value : Value)
  (table : Table) (disk : Disk)

theorem local_settle : Local (settle mode table key disk) := by
  cases mode with
  | always => exact .pure ()
  | ifPresent =>
      refine (local_test key).bind fun known => ?_
      cases known with
      | true => exact local_noteShortCircuit
      | false =>
          refine local_noteRead.bind fun _ => ?_
          refine (local_access disk .find).bind fun _ => ?_
          cases table.contains key with
          | true => exact .pure ()
          | false => exact local_failNotFound key
  | ifAbsent =>
      refine (local_test key).bind fun known => ?_
      cases known with
      | false => exact local_noteShortCircuit
      | true =>
          refine local_noteRead.bind fun _ => ?_
          refine (local_access disk .find).bind fun _ => ?_
          cases table.contains key with
          | true => exact local_failExists key
          | false => exact .pure ()

theorem local_register (existed : Bool) : Local (register existed key) := by
  cases existed with
  | false => exact local_noteInsert key
  | true =>
      refine (local_test key).bind fun known => ?_
      cases known with
      | true => exact .pure ()
      | false => exact local_noteInsert key

/-- **Writes are local**, under every condition. -/
theorem local_put : Local (put mode key value disk) := by
  refine (local_access disk .openTable).bind fun _ => ?_
  refine local_openTable.bind fun table => ?_
  refine (local_settle mode key table disk).bind fun _ => ?_
  refine (local_access disk .insert).bind fun _ => ?_
  refine (local_setTable _).bind fun _ => ?_
  generalize table.contains key = existed
  cases mode with
  | always => exact local_register key existed
  | ifAbsent =>
      cases existed with
      | true => exact local_failExists key
      | false => exact local_register key false
  | ifPresent =>
      cases existed with
      | true => exact local_register key true
      | false => exact local_failNotFound key

/-- **Deletions are local.** -/
theorem local_delete : Local (delete key disk) := by
  refine (local_access disk .openTable).bind fun _ => ?_
  refine local_openTable.bind fun table => ?_
  refine (local_access disk .remove).bind fun _ => ?_
  refine (local_setTable _).bind fun _ => ?_
  cases table.contains key with
  | true => exact (local_noteRemove key).bind fun _ => .pure true
  | false => exact Local.bind (.pure ()) fun _ => .pure false

theorem local_current : Local (current table key disk) := by
  refine (local_test key).bind fun known => ?_
  cases known with
  | true => exact local_noteRead.bind fun _ => (local_access disk .find).bind fun _ => .pure _
  | false => exact local_noteShortCircuit.bind fun _ => .pure none

theorem local_nextTally (seen : Option Value) : Local (nextTally change create key seen) := by
  intro t t' h
  rw [run_nextTally, run_nextTally, h.bucket]
  cases change.outcome create t.bucket key seen with
  | error e => exact ⟨rfl, h⟩
  | ok n => exact ⟨rfl, h⟩

/-- **Changes of tallies are local.** -/
theorem local_adjust : Local (adjust change create key disk) := by
  refine (local_access disk .openTable).bind fun _ => ?_
  refine local_openTable.bind fun table => ?_
  refine (local_current key table disk).bind fun seen => ?_
  refine (local_nextTally change create key seen).bind fun next => ?_
  refine (local_access disk .insert).bind fun _ => ?_
  refine (local_setTable _).bind fun _ => ?_
  exact (local_register key _).bind fun _ => .pure next

/-- **Flushes are local.** -/
theorem local_flush : Local (flush disk) :=
  (local_access disk .dropTable).bind fun _ => local_dropTable.bind fun _ =>
    (local_access disk .openTable).bind fun _ => local_openTable.bind fun _ => local_noteReset

end Bodies

end Txn

/-! ### Updates -/

namespace Backend

/-- Two updates whose bodies **match** both commit with the same value, or both abort with the same
error. -/
theorem update_cases_of_matches {α : Type} {b b' : Backend} {body : TxnM α}
    {R S : Txn → Txn → Prop}
    (h : Txn.Matches R S (body.run b.transaction) (body.run b'.transaction)) :
    (∃ a t t', R t t' ∧ body.run b.transaction = .ok a t ∧
      b.update body = (.ok a, b.commit t) ∧ b'.update body = (.ok a, b'.commit t')) ∨
    ∃ e t t', S t t' ∧ body.run b.transaction = .error e t ∧
      b.update body = (.error e, b.abort t) ∧ b'.update body = (.error e, b'.abort t') := by
  cases hrun : body.run b.transaction with
  | ok a t =>
      cases hrun' : body.run b'.transaction with
      | ok a' t' =>
          rw [hrun, hrun'] at h
          obtain ⟨rfl, hR⟩ := h
          exact .inl ⟨_, t, t', hR, rfl, update_of_ok hrun, update_of_ok hrun'⟩
      | error e' t' =>
          rw [hrun, hrun'] at h
          exact h.elim
  | error e t =>
      cases hrun' : body.run b'.transaction with
      | ok a' t' =>
          rw [hrun, hrun'] at h
          exact h.elim
      | error e' t' =>
          rw [hrun, hrun'] at h
          obtain ⟨rfl, hS⟩ := h
          exact .inr ⟨_, t, t', hS, rfl, update_of_error hrun, update_of_error hrun'⟩

end Backend

end BucketStore
