import BucketStore.Proofs.Ordering

/-!
# Writes Are Read Back

The cache may say whatever it likes: it may deny keys that are stored, admit keys that are not, and
have its counters stuck. A write under a condition is decided by the table all the same, since what
the write itself has found is compared with the condition in the end, and a write that succeeds makes
its key known to the cache, if the cache does not know it. So the key is read back with the value that
was just stored, even from a cache that had lost it.

A change of a tally is not decided by the table alone: where the cache denies the key the change
starts from nothing, whatever is stored. But what it has stored is read back as well.

## Main results

* `mayContain_registered`: a key that was written is known to the cache.
* `update_of_registered`: what an update leaves whose body ends by registering a key.
* `put_of_admits`, `put_of_not_admits`: writes are decided by the table.
* `put_whatever_cached`: writes under any flags and in front of any cache, and what is read after them.
-/

namespace BucketStore

/-! ### Known keys -/

/-- **A key that was written is known**: the cache admits it already, or was given it. -/
theorem Txn.mayContain_registered (t : Txn) (existed : Bool) (key : Key) :
    (t.registered existed key).cache.mayContain key = true := by
  simp only [registered]
  split
  · split
    · rename_i hknown
      exact hknown
    · exact Filter.contains_add _ key
  · exact Filter.contains_add _ key

/-- Where nothing waits for the commit, the commit leaves the cache as it is. -/
theorem Pending.commit_of_nothing {p : Pending} (hremoved : p.removed = []) (hreset : p.reset = false)
    (c : Cache) : p.commit c = c := by
  simp only [commit, hremoved, hreset, List.foldl_nil, Bool.false_eq_true, if_false]

/-- Registering a key lets nothing wait for the commit. -/
theorem Txn.commit_registered {t : Txn} (h : t.pending = {}) (existed : Bool) (key : Key) :
    (t.registered existed key).pending.commit (t.registered existed key).cache =
      (t.registered existed key).cache := by
  refine Pending.commit_of_nothing ?_ ?_ _
  · simp only [registered]
    split <;> [split; skip] <;> simp [inserted, tested, Pending.noteInsert, h]
  · simp only [registered]
    split <;> [split; skip] <;> simp [inserted, tested, Pending.noteInsert, h]

/-! ### Flags -/

namespace WriteMode

variable {requireExisting passthrough stored : Bool}

/-- What the flags of a write admit. -/
theorem admits_ofFlags_iff :
    (ofFlags requireExisting passthrough).admits stored = true ↔
      passthrough = true ∨ stored = requireExisting := by
  cases passthrough <;> cases requireExisting <;> simp [ofFlags, admits]

/-- A write that the flags do not admit fails as they ask for. -/
theorem refusal_ofFlags (h : (ofFlags requireExisting passthrough).admits stored = false)
    (bucket : String) (key : Key) :
    (ofFlags requireExisting passthrough).refusal bucket key =
      if requireExisting then .keyNotFound bucket key else .keyExists bucket key := by
  cases passthrough with
  | true => simp [ofFlags, admits] at h
  | false => cases requireExisting <;> rfl

end WriteMode

namespace Backend

variable {b : Backend} {c : Cache} {table : Table} {key : Key} {value : Value}

/-! ### What is read back -/

/-- A backend **reads a value back** under a key if its cache admits the key and a read gives the
value. -/
structure ReadsBack (b : Backend) (key : Key) (value : Value) : Prop where
  /-- The cache admits the key. -/
  admitted : b.cache.mayContain key = true
  /-- A read gives the value. -/
  read : (b.get key).1 = .ok (some value)

/-- A key that is stored and known is read back. -/
theorem readsBack_of_stored (hcache : b.cache.mayContain key = true)
    (ht : b.store.bucketD b.active = .ok table) (hvalue : table[key]? = some value) :
    b.ReadsBack key value := by
  refine ⟨hcache, ?_⟩
  simp only [get_eq, found, hcache, if_true, ht, hvalue]

/-- **An update that ends by registering a key** leaves the table that was put in place, and the value
that was written is read back: the commit takes nothing from the cache, and the cache knows the key. -/
theorem update_of_registered (hknown : b.registry.find? b.active = some c) {α : Type}
    {body : TxnM α} {a : α} {t : Txn} {existed : Bool}
    (hrun : body.run b.transaction =
      .ok a ((t.withTable (table.insert key value)).registered existed key))
    (hbucket : t.bucket = b.active) (hpending : t.pending = {}) :
    ∃ b', b.update body = (.ok a, b') ∧
      b'.store.bucket? b.active = .ok (some (table.insert key value)) ∧ b'.ReadsBack key value := by
  let t' := (t.withTable (table.insert key value)).registered existed key
  have hstored : (b.commit t').store.bucket? b.active = .ok (some (table.insert key value)) := by
    simp only [commit, t', Txn.registered_store]
    rw [← hbucket]
    exact (Store.bucket?_setBucket ..).trans (if_pos rfl)
  -- The table is not dropped on the way, so the commit has no removals and no reset to make up for.
  have hcache : (b.commit t').cache = t'.cache :=
    (cacheOf_set hknown _).trans
      (Txn.commit_registered (t := t.withTable (table.insert key value)) hpending existed key)
  have hadmitted : (b.commit t').cache.mayContain key = true := by
    rw [hcache]
    exact Txn.mayContain_registered _ existed key
  exact ⟨_, update_of_ok hrun, hstored, readsBack_of_stored hadmitted
    (Store.bucketD_of_bucket? hstored) Std.TreeMap.getElem?_insert_self⟩

/-! ### Writes -/

/-- **A write that the table admits** succeeds, whatever the cache says. -/
theorem put_of_admits (hknown : b.registry.find? b.active = some c)
    (ht : b.store.bucketD b.active = .ok table) {mode : WriteMode}
    (hm : mode.admits (table.contains key) = true) (value : Value) :
    ∃ b', b.put mode key value = (.ok (), b') ∧
      b'.store.bucket? b.active = .ok (some (table.insert key value)) ∧ b'.ReadsBack key value :=
  update_of_registered hknown
    (Txn.run_put_of_admits (t := b.transaction) mode key value ht hm)
    (Txn.settled_bucket ..) (Txn.settled_pending ..)

/-- **A write that the table does not admit** fails and leaves the store as it was, whatever the cache
says. -/
theorem put_of_not_admits (ht : b.store.bucketD b.active = .ok table) {mode : WriteMode}
    (hm : mode.admits (table.contains key) = false) (value : Value) :
    ∃ b', b.put mode key value = (.error (mode.refusal b.active key), b') ∧ b'.store = b.store :=
  ⟨_, update_of_error (Txn.run_put_of_not_admits (t := b.transaction) mode key value ht hm), rfl⟩

/-- A change of a tally that succeeds has stored the text of the number that it gives. -/
theorem readsBack_of_adjust (hknown : b.registry.find? b.active = some c)
    (ht : b.store.bucketD b.active = .ok table) {change : Adjustment} {create : Bool} {n : Int}
    (h : (b.adjust change create key).1 = .ok n) :
    (b.adjust change create key).2.ReadsBack key (Tally.toValue n) := by
  have hrun := Txn.run_adjust (t := b.transaction) change create key ht
  cases ho : change.outcome create b.transaction.bucket key (b.transaction.seen table key) with
  | error e =>
      simp only [ho] at hrun
      rw [adjust, update_of_error hrun] at h
      cases h
  | ok n' =>
      simp only [ho] at hrun
      obtain ⟨b', hadjust, -, hread⟩ := update_of_registered hknown hrun
        (Txn.consulted_bucket ..) (Txn.consulted_pending ..)
      rw [adjust, hadjust] at h ⊢
      obtain rfl := Except.ok.inj h
      exact hread

/-- **Writes are right whatever the cache says, and are read back.** Let the table of the active bucket
hold any keys, and let the counters of its cache be any. A write under any flags succeeds exactly if
it is to pass through, or if the key is stored just when it has to be. Then the table has the value
under the key, and holds what it held elsewhere. A write that fails says which condition was broken,
and leaves the store as it was. After every write and every change of a tally that succeeds, the
cache admits the key, and a read gives the value that was just stored. -/
theorem put_whatever_cached (hknown : b.registry.find? b.active = some c)
    (ht : b.store.bucketD b.active = .ok table) (key : Key) :
    (∀ value requireExisting passthrough,
      let result := b.put (.ofFlags requireExisting passthrough) key value
      (result.1 = .ok () ↔ passthrough = true ∨ table.contains key = requireExisting) ∧
        (result.1 = .ok () →
          result.2.store.bucket? b.active = .ok (some (table.insert key value)) ∧
            result.2.ReadsBack key value) ∧
        ∀ e, result.1 = .error e →
          e = (if requireExisting then .keyNotFound b.active key else .keyExists b.active key) ∧
            result.2.store = b.store) ∧
    ∀ change create n, (b.adjust change create key).1 = .ok n →
      (b.adjust change create key).2.ReadsBack key (Tally.toValue n) := by
  refine ⟨fun value requireExisting passthrough => ?_, fun _ _ _ => readsBack_of_adjust hknown ht⟩
  rw [← WriteMode.admits_ofFlags_iff]
  cases hm : (WriteMode.ofFlags requireExisting passthrough).admits (table.contains key) with
  | true =>
      obtain ⟨b', hput, hstored, hread⟩ := put_of_admits hknown ht hm value
      rw [hput]
      exact ⟨by simp, fun _ => ⟨hstored, hread⟩, nofun⟩
  | false =>
      obtain ⟨b', hput, hstore⟩ := put_of_not_admits ht hm value
      rw [hput, WriteMode.refusal_ofFlags hm]
      exact ⟨by simp, nofun, fun e he => ⟨(Except.error.inj he).symm, hstore⟩⟩

/-- Writes in front of a cache that has lost all keys. The key `[1]` is stored and denied: it cannot be
added, it can be replaced, and a tally that is made anew in its place is read back. -/
theorem put_while_denied :
    ∃ b, (openWith .byLength (.holding .single) "kv" "b").1 = .ok b ∧
      let b' := b.setCache (.empty .byLength)
      b'.cache.mayContain [1] = false ∧
        (b'.put .ifAbsent [1] [3]).1 = .error (.keyExists "b" [1]) ∧
        (b'.put .ifPresent [1] [3]).2.ReadsBack [1] [3] ∧
        (b'.adjust (.up 7) true [1]).2.ReadsBack [1] [0x37] := by
  have hrun : ((openWith .byLength (.holding .single) "kv" "b").1.toOption.bind fun b =>
      (b.store.bucketD b.active).toOption.map fun table =>
        let b' := b.setCache (.empty .byLength)
        (b.active, table.contains [1], b'.cache.mayContain [1],
          (b'.adjust (.up 7) true [1]).1)) = some ("b", true, false, .ok 7) := by
    decide +kernel
  obtain ⟨b, hb, hfound⟩ := Option.bind_eq_some_iff.mp hrun
  obtain ⟨table, htable, hfacts⟩ := Option.map_eq_some_iff.mp hfound
  simp only [Prod.mk.injEq] at hfacts
  obtain ⟨hactive, hstored, hdenied, htally⟩ := hfacts
  have hopen := StoreError.eq_ok_of_toOption hb
  have ht : b.store.bucketD b.active = .ok table := by
    cases hd : b.store.bucketD b.active with
    | error fault => simp [hd, Except.toOption] at htable
    | ok table' => simpa [hd, Except.toOption] using htable
  have hknown : (b.setCache (.empty .byLength)).registry.find? b.active = some (.empty .byLength) :=
    Registry.find?_set_self (sound_of_openWith hopen).1.find?_active _
  obtain ⟨hput, hadjust⟩ :=
    put_whatever_cached (b := b.setCache (.empty .byLength)) hknown ht [1]
  obtain ⟨hadd, -, hrefused⟩ := hput [3] false false
  obtain ⟨hreplace, hwritten, -⟩ := hput [3] true false
  refine ⟨b, hopen, hdenied, ?_, (hwritten (hreplace.mpr (.inr hstored))).2, hadjust _ _ 7 htally⟩
  cases hresult : ((b.setCache (.empty .byLength)).put .ifAbsent [1] [3]).1 with
  | ok => simpa [hstored] using hadd.mp hresult
  | error e =>
      rw [(hrefused e hresult).1, ← hactive]
      rfl

end Backend

end BucketStore
