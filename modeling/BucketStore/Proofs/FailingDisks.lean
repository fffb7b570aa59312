import BucketStore.Proofs.Interruptions
import BucketStore.Proofs.Retractions

/-!
# Requests on Failing Disks

An update that is interrupted has only read, but the last of its accesses is the commit, and that one
comes late: the body has succeeded by then, its key may be noted and given to the cache, and the abort
takes the key back. Taking back is not forgetting. The cache has counted an addition and a removal, and
a counter that the addition drove to its greatest value is stuck there.

So a request on a failing disk goes one of three ways. It does what it does on a disk that works, or
it has only read, or its commit has failed after its key was given to the cache and taken back. None
of them makes a cache deny a stored key.

## Main results

* `ways_update`, `ways_serve`: the three ways of an update and of a request.
* `serve_of_ok`: a request that succeeds does what it does on a disk that works.
* `left_by_failed_request`: what a request leaves that fails on any disk.
* `Sound.serve_on`, `Sound.after_on`: soundness survives every failure.
* `mayContain_after_on`: no cache denies a stored key, whatever has failed.
-/

namespace BucketStore

variable {disk : Disk}

/-! ### What is taken back -/

/-- A cache **took a key back** that it had been given. Beside tests, an addition and a removal were
counted, and every counter that the addition did not drive to where it is stuck is as it was. -/
structure Cache.TookBack (key : Key) (c c' : Cache) : Prop where
  shape : c'.filter.shape = c.filter.shape
  counter : ∀ slot, c'.filter.counter slot =
    if c.filter.counter slot + c.filter.shape.hits key slot < Filter.stuck then
      c.filter.counter slot
    else Filter.stuck
  adds : c'.adds = c.adds + 1
  removes : c'.removes = c.removes + 1
  resets : c'.resets = c.resets
  tests : c.tests ≤ c'.tests
  negatives : c.negatives ≤ c'.negatives

/-- A key is taken back from a cache that was only tested before. -/
theorem Cache.tookBack_of_onlyTested {c c' : Cache} (h : c.OnlyTested c') (key : Key) :
    c.TookBack key ((c'.add key).remove key) := by
  have hfilter : ((c'.add key).remove key).filter = c.filter.takenBack [key] := by
    rw [← h.filter]
    rfl
  exact {
    shape := by rw [hfilter, Filter.shape_takenBack]
    counter := fun slot => by
      rw [hfilter, Filter.counter_takenBack, Filter.Shape.load_coe, List.map_singleton,
        List.sum_singleton]
    adds := congrArg (· + 1) h.adds
    removes := congrArg (· + 1) h.removes
    resets := h.resets
    tests := h.tests
    negatives := h.negatives }

/-- The key that a request writes, if it writes one. -/
def Request.written? : Request → Option Key
  | .put _ key _ => some key
  | .adjust _ _ key => some key
  | _ => none

namespace Backend

variable {b b' : Backend} {e : StoreError} {request : Request} {key : Key}

/-- A backend **took a key back** from its active cache, and has otherwise only read. -/
structure TookBack (key : Key) (b b' : Backend) : Prop where
  path : b'.path = b.path
  place : b'.place = b.place
  store : b'.store = b.store
  active : b'.active = b.active
  shape : b'.registry.shape = b.registry.shape
  cache : Option.Rel (Cache.TookBack key) (b.registry.find? b.active) (b'.registry.find? b.active)
  others : ∀ name, name ≠ b.active → b'.registry.find? name = b.registry.find? name
  reads : b.reads ≤ b'.reads
  shortCircuits : b.shortCircuits ≤ b'.shortCircuits

/-- An abort takes back the one key that was inserted. -/
theorem tookBack_abort {t : Txn} (h : Txn.OnlyRead b.transaction t) (key : Key) :
    TookBack key b (b.abort (t.inserted key)) := by
  have hretract : (t.inserted key).pending.retract (t.inserted key).cache =
      (t.cache.add key).remove key := by
    simp only [Pending.retract, Txn.inserted, Pending.noteInsert, h.pending]
    rfl
  simp only [abort, setCache, hretract]
  exact {
    path := rfl
    place := rfl
    store := rfl
    active := rfl
    shape := Registry.shape_set ..
    cache := by
      rw [Registry.find?_set, Registry.contains_eq_isSome_find?]
      cases hknown : b.registry.find? b.active with
      | none =>
          rw [if_neg (by simp)]
          exact .none
      | some c =>
          have hc : b.transaction.cache = c := Registry.cacheOf_of_find? hknown
          rw [if_pos ⟨rfl, rfl⟩]
          exact .some (Cache.tookBack_of_onlyTested (hc ▸ h.cache) key)
    others := fun name hne => by
      rw [Registry.find?_set, if_neg fun hname => hne hname.1.symm]
    reads := h.reads
    shortCircuits := h.shortCircuits }

/-! ### The ways of a step -/

section Steps

variable {α β : Type} {written : Option Key} {plain result : Except StoreError α × Backend}

/-- The **ways** that a step of a backend can go on a disk: it does what it does on a disk that works;
or it fails and has only read; or its commit fails, and the key that it wrote is taken back, which was
not stored or not admitted. -/
inductive Ways (written : Option Key) (b : Backend) (plain : Except StoreError α × Backend) :
    Except StoreError α × Backend → Prop
  | same : Ways written b plain plain
  | interrupted {e : StoreError} {b' : Backend} (h : OnlyRead b b') :
      Ways written b plain (.error e, b')
  | retracted {key : Key} {fault : StorageFault} {b' : Backend} (hwritten : written = some key)
      (hnew : key ∉ b.store.keysOf b.active ∨ b.cache.mayContain key = false)
      (h : TookBack key b b') : Ways written b plain (.error (.commit fault), b')

namespace Ways

/-- What is made of a result does not change the way. -/
theorem map (h : Ways written b plain result) (f : α → β) :
    Ways written b (plain.map (·.map f) id) (result.map (·.map f) id) := by
  cases h with
  | same => exact .same
  | interrupted h => exact .interrupted h
  | retracted hwritten hnew h => exact .retracted hwritten hnew h

/-- A step that succeeds goes the way of a disk that works. -/
theorem eq_of_ok (h : Ways written b plain result) {a : α} (hok : result.1 = .ok a) :
    result = plain := by
  cases h with
  | same => rfl
  | interrupted | retracted => cases hok

/-- A step that writes no key may come after a look. -/
theorem of_looked (hread : OnlyRead b b') (h : Ways none b' plain result) :
    Ways written b plain result := by
  cases h with
  | same => exact .same
  | interrupted h => exact .interrupted (hread.trans h)
  | retracted hwritten => cases hwritten

end Ways

end Steps

/-- **The ways of an update.** If it is interrupted, then by an access before the commit, so that
nothing was inserted, or by the commit itself, and then the body has succeeded. -/
theorem ways_update {α : Type} {body plain : TxnM α} {written : Option Key}
    (h : Txn.KeepsTo disk body plain) (hregisters : Txn.Registers written plain) (b : Backend) :
    Ways written b (b.update plain) (b.update body disk) := by
  simp only [update, Disk.access_working]
  cases hbegin : disk.access .beginWrite with
  | error e => exact .interrupted (.refl b)
  | ok =>
      obtain hsame | ⟨a, fault, t, -, hrun, hread⟩ := h b.transaction
      · rw [hsame]
        cases hrun : plain.run b.transaction with
        | error e t => exact .same
        | ok a t =>
            cases hcommit : disk .commit with
            | none =>
                simp only [Disk.access, hcommit]
                exact .same
            | some fault =>
                simp only [Disk.access, hcommit, Access.error]
                obtain hnothing | ⟨key, hwritten, hnew, s, hs, rfl⟩ := hregisters hrun
                · exact .interrupted (onlyRead_abort hnothing)
                · exact .retracted hwritten hnew (tookBack_abort hs key)
      · rw [hrun]
        exact .interrupted (onlyRead_abort hread.insertedNothing)

/-! ### Reads, scans and switches -/

section Reads

variable (disk)

theorem follows_openRead (s : Store) (name : String) :
    disk.Follows (openRead s name disk) (openRead s name Disk.working) :=
  (Disk.Follows.access disk .beginRead).bind fun _ =>
    (Disk.Follows.access disk .viewTable).bind fun _ => .refl _

/-- A scan may be interrupted at every key. -/
theorem follows_scan (table : Table) (c : Cache) :
    disk.Follows (scan table c disk) (scan table c Disk.working) :=
  (Disk.Follows.access disk .listKeys).bind fun _ =>
    .foldlM (fun _ _ => (Disk.Follows.access disk (.entry _)).bind fun _ => .refl _) _ c

theorem follows_fill (s : Store) (name : String) (c : Cache) :
    disk.Follows (fill s name c disk) (fill s name c) :=
  (follows_openRead disk s name).bind fun found => by
    cases found with
    | none => exact .refl _
    | some table => exact follows_scan disk table c

theorem follows_stats (b : Backend) : disk.Follows (b.stats disk) b.stats :=
  ((follows_openRead disk b.store b.active).bind fun found => by
    cases found with
    | none => exact .refl _
    | some table => exact (Disk.Follows.access disk .count).bind fun _ => .refl _).bind
      fun _ => .refl _

/-- A read gives what it finds, unless it is interrupted; the look is counted in any case. -/
theorem get_on (b : Backend) (key : Key) :
    ∃ result, disk.Follows result (b.found key) ∧ b.get key disk = (result, b.looked key) := by
  have hplain : (b.get key).1 = b.found key := congrArg Prod.fst (b.get_eq key)
  refine ⟨(b.get key disk).1, ?_, ?_⟩
  · rw [← hplain]
    simp only [get]
    split
    · obtain hsame | ⟨a, fault, hfault, hopen⟩ := follows_openRead disk b.store b.active
      · rw [hsame]
        rcases openRead b.store b.active Disk.working with e | _ | table
        · exact .refl _
        · exact .refl _
        · exact (Disk.Follows.access disk .find).map _
      · rw [hopen]
        exact .inr ⟨a, fault, hfault, rfl⟩
    · exact .refl _
  · simp only [get, looked]
    split
    · rcases openRead b.store b.active disk with e | _ | table <;> rfl
    · rfl

theorem ways_get (b : Backend) (key : Key) : Ways none b (b.get key) (b.get key disk) := by
  obtain ⟨result, hsame | ⟨a, fault, -, rfl⟩, hget⟩ := get_on disk b key
  · rw [hget, hsame, get_eq]
    exact .same
  · rw [hget]
    exact .interrupted (onlyRead_looked b key)

/-- A switch is interrupted before the new bucket is known, if it is. -/
theorem ways_switch (b : Backend) (name : String) :
    Ways none b (b.switch name) (b.switch name disk) := by
  simp only [switch]
  cases BucketName.ofString name with
  | error fault => exact .same
  | ok n =>
      have hens : disk.Follows (b.registry.ensure n.text fun c => fill b.store n.text c disk)
          (b.registry.ensure n.text fun c => fill b.store n.text c) := by
        simp only [Registry.ensure]
        split
        · exact .refl _
        · exact (follows_fill disk ..).map _
      obtain hsame | ⟨a, fault, -, hfailed⟩ := hens
      · simp only [hsame]
        exact .same
      · simp only [hfailed]
        exact .interrupted (.refl b)

end Reads

/-! ### Requests -/

/-- A deletion under a condition reads first, and goes on to an update if the key is there. -/
theorem ways_delete (disk : Disk) (b : Backend) (key : Key) (onlyIfExists : Bool) :
    Ways none b (b.delete key onlyIfExists) (b.delete key onlyIfExists disk) := by
  have hupdate : ∀ b : Backend,
      Ways none b (b.update (Txn.delete key)) (b.update (Txn.delete key disk) disk) :=
    ways_update (Txn.keepsTo_delete disk key) (Txn.registers_delete key)
  cases onlyIfExists with
  | false => exact (hupdate b).map fun _ => true
  | true =>
      rw [delete_ifExists_eq]
      obtain ⟨result, hfollows, hget⟩ := get_on disk b key
      simp only [delete, if_true, hget]
      obtain hsame | ⟨a, fault, -, rfl⟩ := hfollows
      · rw [hsame]
        rcases b.found key with e | _ | value
        · exact .same
        · exact .same
        · exact (hupdate (b.looked key)).of_looked (onlyRead_looked b key)
      · exact .interrupted (onlyRead_looked b key)

/-- **The ways of a request.** -/
theorem ways_serve (disk : Disk) (b : Backend) (request : Request) :
    Ways request.written? b (b.serve request) (b.serve request disk) := by
  cases request with
  | put mode key value =>
      exact (ways_update (Txn.keepsTo_put disk mode key value)
        (Txn.registers_put mode key value) b).map _
  | get key => exact (ways_get disk b key).map _
  | delete key onlyIfExists => exact (ways_delete disk b key onlyIfExists).map _
  | adjust change create key =>
      exact (ways_update (Txn.keepsTo_adjust disk change create key)
        (Txn.registers_adjust change create key) b).map _
  | flush => exact (ways_update (Txn.keepsTo_flush disk) Txn.registers_flush b).map _
  | switch name => exact (ways_switch disk b name).map _
  | stats =>
      simp only [serve]
      obtain hsame | ⟨a, fault, -, hfailed⟩ := follows_stats disk b
      · rw [hsame]
        exact .same
      · rw [hfailed]
        exact .interrupted (.refl b)

/-- **A request that succeeds** on some disk does what it does on a disk that works. -/
theorem serve_of_ok {a : Answer} (h : (b.serve request disk).1 = .ok a) :
    b.serve request disk = b.serve request :=
  (ways_serve disk b request).eq_of_ok h

/-- **What a failed request leaves**, whatever the disk does and whatever state the backend is in:
every table is as it was and where it was, the same bucket is active, the same buckets are known, and
no cache has changed but for its statistics of tests. There is one exception. The commit may fail
after a key was written that was not stored, or not admitted: then the key was given to the active
cache and taken back from it, which counts as an addition and a removal and leaves a counter stuck
that the addition has driven there. -/
theorem left_by_failed_request (h : (b.serve request disk).1 = .error e) :
    OnlyRead b (b.serve request disk).2 ∨
    ∃ key fault, request.written? = some key ∧ e = .commit fault ∧
      (key ∉ b.store.keysOf b.active ∨ b.cache.mayContain key = false) ∧
      TookBack key b (b.serve request disk).2 := by
  have hways := ways_serve disk b request
  generalize b.serve request disk = result at h hways
  cases hways with
  | same => exact .inl (onlyRead_of_error h)
  | interrupted hread => exact .inl hread
  | @retracted key fault _ hwritten hnew hback =>
      cases h
      exact .inr ⟨key, fault, hwritten, rfl, hnew, hback⟩

/-- A failed request may leave more than looks: when the commit of a new key fails, the addition of the
key and its removal stay counted. -/
theorem not_onlyRead_of_failed_commit :
    ∃ b, (openWith .byLength (.holding .single) "kv" "b").1 = .ok b ∧
      let outcome := b.serve (.put .always [7] [8]) (.failingAt .commit ⟨"disk full"⟩)
      outcome.1 = .error (.commit ⟨"disk full"⟩) ∧ ¬OnlyRead b outcome.2 := by
  have hrun : ((openWith .byLength (.holding .single) "kv" "b").1.toOption.map fun b =>
      let outcome := b.serve (.put .always [7] [8]) (.failingAt .commit ⟨"disk full"⟩)
      (outcome.1, b.cache.adds, outcome.2.cache.adds)) =
      some (.error (.commit ⟨"disk full"⟩), 1, 2) := by decide +kernel
  obtain ⟨b, hb, hfacts⟩ := Option.map_eq_some_iff.mp hrun
  simp only [Prod.mk.injEq] at hfacts
  obtain ⟨hfailed, hbefore, hafter⟩ := hfacts
  refine ⟨b, StoreError.eq_ok_of_toOption hb, hfailed, fun hread => ?_⟩
  have hadds := hread.cache.adds
  rw [hbefore, hafter] at hadds
  cases hadds

/-- A tally that is created in vain, since the commit fails: its key is taken back. -/
theorem tookBack_of_failed_commit :
    ∃ b, (openWith .byLength (.holding .single) "kv" "b").1 = .ok b ∧
      let outcome := b.serve (.adjust (.up 1) true [7]) (.failingAt .commit ⟨"disk full"⟩)
      outcome.1 = .error (.commit ⟨"disk full"⟩) ∧ TookBack [7] b outcome.2 := by
  have hrun : ((openWith .byLength (.holding .single) "kv" "b").1.toOption.map fun b =>
      let outcome := b.serve (.adjust (.up 1) true [7]) (.failingAt .commit ⟨"disk full"⟩)
      (outcome.1, b.cache.adds, outcome.2.cache.adds)) =
      some (.error (.commit ⟨"disk full"⟩), 1, 2) := by decide +kernel
  obtain ⟨b, hb, hfacts⟩ := Option.map_eq_some_iff.mp hrun
  simp only [Prod.mk.injEq] at hfacts
  obtain ⟨hfailed, hbefore, hafter⟩ := hfacts
  refine ⟨b, StoreError.eq_ok_of_toOption hb, hfailed, ?_⟩
  obtain hread | ⟨key, _, hkey, -, -, hback⟩ := left_by_failed_request hfailed
  · have hadds := hread.cache.adds
    rw [hbefore, hafter] at hadds
    cases hadds
  · cases hkey
    exact hback

/-! ### Soundness -/

/-- A backend that has only read is as sound as before. -/
theorem OnlyRead.sound (h : OnlyRead b b') (hb : b.Sound) : b'.Sound where
  active_known := by
    have hknown := h.contains b.active
    rw [Registry.contains_eq_isSome_find?, Registry.contains_eq_isSome_find?,
      hb.find?_active] at hknown
    rw [h.active]
    exact Option.isSome_iff_exists.mp hknown
  registry := {
    shape := fun hc' => by
      obtain ⟨c, hc, htested⟩ := h.find? hc'
      rw [htested.filter, hb.registry.shape hc, h.shape]
    counts := fun hc' => by
      obtain ⟨c, hc, htested⟩ := h.find? hc'
      rw [htested.filter, h.store]
      exact hb.registry.counts hc }

/-- A key that is taken back leaves the backend sound: a counter that it has left stuck may be
anything. -/
theorem TookBack.sound (h : TookBack key b b') (hb : b.Sound) : b'.Sound := by
  have hrel := h.cache
  rw [hb.find?_active] at hrel
  generalize hactive : b'.registry.find? b.active = found at hrel
  cases hrel with
  | @some _ c hback =>
      have hshape : c.filter.shape = b.registry.shape := hback.shape.trans hb.shape_cache
      have hcounts : c.filter.Counts (b'.store.keysOf b.active) := by
        intro slot hslot
        rw [hback.shape] at hslot
        rw [hback.counter, hback.shape, h.store]
        split
        · exact hb.counts_cache slot hslot
        · exact .inl rfl
      refine ⟨⟨c, h.active ▸ hactive⟩, hb.registry.of_find? h.shape (fun other => ?_)
        (fun _ _ => by rw [h.store]) hshape hcounts⟩
      split
      · rename_i hname
        exact hname ▸ hactive
      · rename_i hname
        exact h.others other (Ne.symm hname)

/-- **Every request keeps the backend sound**, whatever the disk does. -/
theorem Sound.serve_on (hb : b.Sound) (request : Request) (disk : Disk) :
    (b.serve request disk).2.Sound := by
  have hways := ways_serve disk b request
  generalize b.serve request disk = result at hways
  cases hways with
  | same => exact hb.serve request
  | interrupted hread => exact hread.sound hb
  | retracted _ _ hback => exact hback.sound hb

/-- The backend after a row of requests, each on a disk of its own. -/
def afterOn (b : Backend) : List (Request × Disk) → Backend
  | [] => b
  | (request, disk) :: rest => afterOn (b.serve request disk).2 rest

/-- A row of requests keeps the backend sound, whatever the disk does to each of them. -/
theorem Sound.after_on (hb : b.Sound) (requests : List (Request × Disk)) :
    (b.afterOn requests).Sound := by
  induction requests generalizing b with
  | nil => exact hb
  | cons entry rest ih => exact ih (hb.serve_on entry.1 entry.2)

/-- **No false negatives on failing disks.** Whatever was asked of a backend since it was opened, and
wherever the disk has failed, no cache denies a key that is stored for its bucket. -/
theorem mayContain_after_on {shape : Filter.Shape} {v : Volume} {path bucket : String}
    (h : (openWith shape v path bucket).1 = .ok b) (requests : List (Request × Disk))
    {name : String} {c : Cache} (hc : (b.afterOn requests).registry.find? name = some c) {key : Key}
    (hkey : key ∈ (b.afterOn requests).store.keysOf name) : c.mayContain key = true :=
  (((sound_of_openWith h).1.after_on requests).registry.counts hc).contains
    (Multiset.mem_coe.mpr hkey)

end Backend

end BucketStore
