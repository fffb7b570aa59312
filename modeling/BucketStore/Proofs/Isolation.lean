import BucketStore.Proofs.Balance
import BucketStore.Proofs.Locality
import BucketStore.Proofs.Soundness

/-!
# Buckets Keep to Themselves

Two runs are compared here. The first one is any run of requests on a backend, which goes back and
forth between buckets. In the second one all that is of no concern to one bucket is left out: the
requests that were served while other buckets were active, and the switches to other buckets
(`Backend.restrict`). What is seen of the bucket is the same in both, answer by answer, with all
statistics of the bucket's cache (`Backend.view`); of the statistics only the totals of the backend
may differ (`Answer.withoutTotals`).

Nothing is asked of the backend that the runs start from. The two runs are tied together by
`Backend.SameFor`: the bucket has the same table and the same cache in both, if it has a cache at all,
and is active in the second one wherever it is active in the first.

## Main results

* `serve_elsewhere`: a request leaves the buckets alone that are not active.
* `SameFor.own`: a request of the bucket's own is answered alike.
* `SameFor.switch_self`, `SameFor.switch_other`: switches to the bucket and away from it.
* `view_restrict`: the two runs look the same to the bucket.
-/

namespace BucketStore

/-- An answer without the totals of the backend, which all buckets add to. -/
def Answer.withoutTotals : Answer → Answer
  | .stats s => .stats { s with buckets := 0, reads := 0, shortCircuits := 0 }
  | answer => answer

namespace Backend

/-! ### Records of a run -/

/-- What is on **record** of one request of a run. -/
structure Entry where
  /-- The bucket that was active. -/
  bucket : String
  /-- The request. -/
  request : Request
  /-- The answer. -/
  answer : Except StoreError Answer

namespace Entry

/-- Whether a request is a bucket's **own**: the bucket was active, and it was no switch. -/
def isOwn (name : String) (e : Entry) : Bool :=
  !e.request.isSwitch && e.bucket == name

/-- Whether a request concerns a bucket: its own requests do, and the switches to it. -/
def concerns (name : String) (e : Entry) : Bool :=
  e.isOwn name || e.request == .switch name

end Entry

/-- The record of a run. -/
def log (b : Backend) : List Request → List Entry
  | [] => []
  | request :: rest => ⟨b.active, request, (b.serve request).1⟩ :: log (b.serve request).2 rest

/-- A run **restricted** to a bucket: the requests that concern it. -/
def restrict (b : Backend) (name : String) (requests : List Request) : List Request :=
  ((b.log requests).filter (·.concerns name)).map Entry.request

/-- What is **seen** of a bucket in a run: its own requests and their answers, without the totals of the
backend. -/
def view (b : Backend) (name : String) (requests : List Request) :
    List (Request × Except StoreError Answer) :=
  ((b.log requests).filter (·.isOwn name)).map fun e =>
    (e.request, e.answer.map Answer.withoutTotals)

variable {b b' : Backend} {name : String} {request : Request}

/-! ### A run, request by request -/

theorem log_cons (request : Request) (rest : List Request) :
    b.log (request :: rest) =
      ⟨b.active, request, (b.serve request).1⟩ :: (b.serve request).2.log rest :=
  rfl

/-- A switch to the bucket is kept. -/
theorem restrict_cons_switch_self (rest : List Request) :
    b.restrict name (.switch name :: rest) = .switch name :: (b.switch name).2.restrict name rest := by
  simp [restrict, log_cons, Entry.concerns, serve]

/-- A switch to another bucket is left out. -/
theorem restrict_cons_switch_other {new : String} (hnew : new ≠ name) (rest : List Request) :
    b.restrict name (.switch new :: rest) = (b.switch new).2.restrict name rest := by
  simp [restrict, log_cons, Entry.concerns, Entry.isOwn, Request.isSwitch, serve, hnew]

/-- A switch is not seen by any bucket. -/
theorem view_cons_switch (new : String) (rest : List Request) :
    b.view name (.switch new :: rest) = (b.switch new).2.view name rest := by
  simp [view, log_cons, Entry.isOwn, Request.isSwitch, serve]

/-- A request of the bucket's own is kept. -/
theorem restrict_cons_own (hrequest : request.isSwitch = false) (hactive : b.active = name)
    (rest : List Request) :
    b.restrict name (request :: rest) = request :: (b.serve request).2.restrict name rest := by
  simp [restrict, log_cons, Entry.concerns, Entry.isOwn, hrequest, hactive]

/-- A request of the bucket's own is seen with its answer. -/
theorem view_cons_own (hrequest : request.isSwitch = false) (hactive : b.active = name)
    (rest : List Request) :
    b.view name (request :: rest) =
      (request, (b.serve request).1.map Answer.withoutTotals) ::
        (b.serve request).2.view name rest := by
  simp [view, log_cons, Entry.isOwn, hrequest, hactive]

/-- A request that another bucket is served is left out. -/
theorem restrict_cons_elsewhere (hrequest : request.isSwitch = false) (hactive : b.active ≠ name)
    (rest : List Request) :
    b.restrict name (request :: rest) = (b.serve request).2.restrict name rest := by
  have hother : request ≠ .switch name := fun h => by cases h ▸ hrequest
  simp [restrict, log_cons, Entry.concerns, Entry.isOwn, hactive, hother]

/-- A request that another bucket is served is not seen. -/
theorem view_cons_elsewhere (hactive : b.active ≠ name) (rest : List Request) :
    b.view name (request :: rest) = (b.serve request).2.view name rest := by
  simp [view, log_cons, Entry.isOwn, hactive]

/-! ### Requests leave other buckets alone -/

/-- An update leaves the buckets alone that are not active, if its body keeps to its own. -/
theorem update_elsewhere {α : Type} {body : TxnM α}
    (hframe : Txn.Frame b.transaction (Txn.ending body b.transaction)) (hname : name ≠ b.active) :
    (b.update body).2.store[name]? = b.store[name]? ∧
      (b.update body).2.registry.find? name = b.registry.find? name := by
  have hset : ∀ c, (b.registry.set b.active c).find? name = b.registry.find? name := fun c => by
    rw [Registry.find?_set, if_neg fun h => hname h.1.symm]
  cases hrun : body.run b.transaction with
  | ok a t =>
      rw [Txn.ending_of_ok hrun] at hframe
      rw [update_of_ok hrun]
      exact ⟨hframe.elsewhere name hname, hset _⟩
  | error e t =>
      rw [update_of_error hrun]
      exact ⟨rfl, hset _⟩

/-- Looking a key up leaves the other buckets alone. -/
theorem looked_elsewhere (key : Key) (hname : name ≠ b.active) :
    (b.looked key).store[name]? = b.store[name]? ∧
      (b.looked key).registry.find? name = b.registry.find? name := by
  rw [looked_store, looked_registry, Registry.find?_set, if_neg fun h => hname h.1.symm]
  exact ⟨rfl, rfl⟩

/-- A deletion leaves the other buckets alone. -/
theorem delete_elsewhere (key : Key) (onlyIfExists : Bool) (hname : name ≠ b.active) :
    (b.delete key onlyIfExists).2.store[name]? = b.store[name]? ∧
      (b.delete key onlyIfExists).2.registry.find? name = b.registry.find? name := by
  cases onlyIfExists with
  | false => exact update_elsewhere ((Txn.keepsBalance_delete key).frame _) hname
  | true =>
      obtain ⟨htable, hcache⟩ := looked_elsewhere key hname
      rw [delete_ifExists_eq]
      rcases b.found key with e | _ | value
      · exact ⟨htable, hcache⟩
      · exact ⟨htable, hcache⟩
      · obtain ⟨htable', hcache'⟩ := update_elsewhere (b := b.looked key)
          ((Txn.keepsBalance_delete key).frame _) (by rwa [looked_active])
        exact ⟨htable'.trans htable, hcache'.trans hcache⟩

/-- **A request leaves the other buckets alone**: table and cache of a bucket that is not active stay as
they are, whatever is asked and whether it succeeds or fails. -/
theorem serve_elsewhere (hrequest : request.isSwitch = false)
    (hname : name ≠ b.active) :
    (b.serve request).2.store[name]? = b.store[name]? ∧
      (b.serve request).2.registry.find? name = b.registry.find? name := by
  cases request with
  | put mode key value =>
      exact update_elsewhere ((Txn.keepsBalance_put mode key value).frame _) hname
  | get key =>
      simp only [serve, get_eq, Prod.map_snd, id]
      exact looked_elsewhere key hname
  | delete key onlyIfExists => exact delete_elsewhere key onlyIfExists hname
  | adjust change create key =>
      exact update_elsewhere ((Txn.keepsBalance_adjust change create key).frame _) hname
  | flush => exact update_elsewhere (Txn.frame_flush _) hname
  | switch other => cases hrequest
  | stats => exact ⟨rfl, rfl⟩

/-! ### Backends that are the same for a bucket -/

/-- Two backends are **the same for a bucket** if the bucket has the same table and the same cache in
both, or none, and if it is active in the second one wherever it is active in the first. -/
structure SameFor (name : String) (b b' : Backend) : Prop where
  /-- New caches get the same shape. -/
  shape : b'.registry.shape = b.registry.shape
  /-- The bucket has the same cache, or none. -/
  cache : b'.registry.find? name = b.registry.find? name
  /-- The bucket has the same table, or none. -/
  table : b'.store[name]? = b.store[name]?
  /-- The bucket is active where it has to be. -/
  active : b.active = name → b'.active = name

namespace SameFor

theorem refl (name : String) (b : Backend) : SameFor name b b :=
  ⟨rfl, rfl, rfl, id⟩

/-- The bucket is known to both or to none. -/
theorem contains_eq (h : SameFor name b b') :
    b'.registry.contains name = b.registry.contains name := by
  rw [Registry.contains_eq_isSome_find?, Registry.contains_eq_isSome_find?, h.cache]

/-- What is made known to the bucket's cache in both leaves it the same. -/
theorem find?_set_eq (h : SameFor name b b') (c : Cache) :
    (b'.registry.set name c).find? name = (b.registry.set name c).find? name := by
  rw [Registry.find?_set, Registry.find?_set, h.contains_eq, h.cache]

/-- The bucket's table is seen in both, or the same fault. -/
theorem bucketD_eq (h : SameFor name b b') : b'.store.bucketD name = b.store.bucketD name :=
  Store.bucketD_congr h.table

section Own

variable (h : SameFor name b b') (hactive : b.active = name)

include h hactive

/-- The active caches are the same. -/
theorem cache_eq : b'.cache = b.cache := by
  simp only [Backend.cache, Registry.cacheOf, h.active hactive, hactive, h.cache, h.shape]

/-- The transactions that start from the backends are alike. -/
theorem transaction : Txn.Alike b.transaction b'.transaction where
  bucket := (h.active hactive).trans hactive.symm
  table := by
    simp only [Backend.transaction, hactive]
    exact h.table
  cache := h.cache_eq hactive
  pending := rfl

/-- A local update of the bucket gives the same result and leaves the backends the same. -/
theorem update {α : Type} {body : TxnM α} (hlocal : Txn.Local body)
    (hframe : Txn.Frame b.transaction (Txn.ending body b.transaction)) :
    (b'.update body).1 = (b.update body).1 ∧ SameFor name (b.update body).2 (b'.update body).2 := by
  have hactive' := h.active hactive
  obtain ⟨a, t, t', halike, hrun, hb, hb'⟩ | ⟨e, t, t', halike, -, hb, hb'⟩ :=
    update_cases_of_matches (hlocal _ _ (h.transaction hactive))
  · rw [Txn.ending_of_ok hrun] at hframe
    have hbucket : t.bucket = name := hframe.bucket.trans hactive
    rw [hb, hb']
    refine ⟨rfl, ?_, ?_, ?_, fun _ => hactive'⟩
    · simp only [commit, setCache, Registry.shape_set, h.shape]
    · simp only [commit, setCache, hactive, hactive', halike.pending, halike.cache]
      exact h.find?_set_eq _
    · exact hbucket ▸ halike.table
  · rw [hb, hb']
    refine ⟨rfl, ?_, ?_, h.table, fun _ => hactive'⟩
    · simp only [abort, setCache, Registry.shape_set, h.shape]
    · simp only [abort, setCache, hactive, hactive', halike.pending, halike.cache]
      exact h.find?_set_eq _

/-- The same is found under a key of the bucket. -/
theorem found_eq (key : Key) : b'.found key = b.found key := by
  simp only [found, h.cache_eq hactive, h.active hactive, hactive, h.bucketD_eq]

/-- Looking a key of the bucket up leaves the backends the same. -/
theorem looked (key : Key) : SameFor name (b.looked key) (b'.looked key) where
  shape := by rw [looked_registry, looked_registry, Registry.shape_set, Registry.shape_set, h.shape]
  cache := by
    rw [looked_registry, looked_registry, h.active hactive, hactive, h.cache_eq hactive]
    exact h.find?_set_eq _
  table := by
    rw [looked_store, looked_store]
    exact h.table
  active _ := by rw [looked_active, h.active hactive]

/-- A deletion in the bucket gives the same result and leaves the backends the same. -/
theorem delete (key : Key) (onlyIfExists : Bool) :
    (b'.delete key onlyIfExists).1 = (b.delete key onlyIfExists).1 ∧
      SameFor name (b.delete key onlyIfExists).2 (b'.delete key onlyIfExists).2 := by
  have hlocal := Txn.local_delete key Disk.working
  have hframe := (Txn.keepsBalance_delete key).frame
  cases onlyIfExists with
  | false =>
      obtain ⟨hresult, hnext⟩ := h.update hactive hlocal (hframe _)
      exact ⟨congrArg (Except.map fun _ => true) hresult, hnext⟩
  | true =>
      have hlooked := h.looked hactive key
      rw [delete_ifExists_eq, delete_ifExists_eq, h.found_eq hactive]
      rcases b.found key with e | _ | value
      · exact ⟨rfl, hlooked⟩
      · exact ⟨rfl, hlooked⟩
      · exact hlooked.update ((looked_active ..).trans hactive) hlocal (hframe _)

/-- The statistics are the same but for the totals. -/
theorem stats_eq : (b'.serve .stats).1.map Answer.withoutTotals =
    (b.serve .stats).1.map Answer.withoutTotals := by
  simp only [serve, stats_working, h.active hactive, hactive, h.bucketD_eq, h.cache_eq hactive]
  cases b.store.bucketD name <;> rfl

/-- **A request of the bucket's own is answered alike**, and leaves the backends the same for the
bucket. -/
theorem own (hrequest : request.isSwitch = false) :
    (b'.serve request).1.map Answer.withoutTotals = (b.serve request).1.map Answer.withoutTotals ∧
      SameFor name (b.serve request).2 (b'.serve request).2 := by
  cases request with
  | put mode key value =>
      obtain ⟨hresult, hnext⟩ := h.update hactive (Txn.local_put mode key value Disk.working)
        ((Txn.keepsBalance_put mode key value).frame _)
      exact ⟨by simp only [serve, Backend.put, Prod.map_fst, hresult], hnext⟩
  | get key =>
      simp only [serve, get_eq, Prod.map_fst, Prod.map_snd, id, h.found_eq hactive]
      exact ⟨trivial, h.looked hactive key⟩
  | delete key onlyIfExists =>
      obtain ⟨hresult, hnext⟩ := h.delete hactive key onlyIfExists
      exact ⟨by simp only [serve, Prod.map_fst, hresult], hnext⟩
  | adjust change create key =>
      obtain ⟨hresult, hnext⟩ := h.update hactive (Txn.local_adjust change create key Disk.working)
        ((Txn.keepsBalance_adjust change create key).frame _)
      exact ⟨by simp only [serve, Backend.adjust, Prod.map_fst, hresult], hnext⟩
  | flush =>
      obtain ⟨hresult, hnext⟩ := h.update hactive (Txn.local_flush Disk.working) (Txn.frame_flush _)
      exact ⟨by simp only [serve, Backend.flush, Prod.map_fst, hresult], hnext⟩
  | switch other => cases hrequest
  | stats => exact ⟨h.stats_eq hactive, h⟩

end Own

/-- A request that another bucket is served in the first run alone leaves the backends the same. -/
theorem other (h : SameFor name b b') (hactive : b.active ≠ name)
    (hrequest : request.isSwitch = false) : SameFor name (b.serve request).2 b' := by
  obtain ⟨htable, hcache⟩ := serve_elsewhere hrequest (Ne.symm hactive)
  refine ⟨?_, h.cache.trans hcache.symm, h.table.trans htable.symm, fun hname => ?_⟩
  · rw [shape_serve, h.shape]
  · rw [steady_active.serve hrequest] at hname
    exact absurd hname hactive

/-- A switch to the bucket in both runs leaves the backends the same: a cache that is new is filled
from the same table. -/
theorem switch_self (h : SameFor name b b') :
    SameFor name (b.switch name).2 (b'.switch name).2 := by
  simp only [switch]
  cases hn : BucketName.ofString name with
  | error fault => exact h
  | ok n =>
      have htext := BucketName.text_of_ofString hn
      have hfill : fill b'.store name (.empty b'.registry.shape) =
          fill b.store name (.empty b.registry.shape) := by
        simp only [fill_working, h.bucketD_eq, h.shape]
      simp only [htext, hfill, Registry.ensure, h.contains_eq]
      cases hknown : b.registry.contains name with
      | true => exact ⟨h.shape, h.cache, h.table, fun _ => rfl⟩
      | false =>
          simp only [Bool.false_eq_true, if_false]
          cases fill b.store name (.empty b.registry.shape) with
          | error e => exact h
          | ok c =>
              have hnew : ∀ r : Registry,
                  { r with caches := r.caches.insert name c }.find? name = some c := fun r => by
                rw [Registry.find?_insert, if_pos rfl]
              exact ⟨h.shape, (hnew _).trans (hnew _).symm, h.table, fun _ => rfl⟩

/-- A switch to another bucket in the first run alone leaves the backends the same. -/
theorem switch_other (h : SameFor name b b') {new : String} (hnew : new ≠ name) :
    SameFor name (b.switch new).2 b' := by
  obtain ⟨_, -, hs⟩ | ⟨_, _, -, -, hs⟩ | ⟨n, registry, hn, hens, hs⟩ := b.switch_cases new
  · rw [hs]
    exact h
  · rw [hs]
    exact h
  · have htext : n.text ≠ name := BucketName.text_of_ofString hn ▸ hnew
    rw [hs]
    refine ⟨h.shape.trans (Registry.shape_ensure hens).symm, ?_, h.table,
      fun hname => absurd hname htext⟩
    rcases Registry.ensure_eq_ok hens with ⟨-, rfl⟩ | ⟨c, -, -, rfl⟩
    · exact h.cache
    · exact h.cache.trans ((Registry.find?_insert ..).trans (if_neg htext)).symm

/-- **A run and its restriction leave the backends the same for the bucket**, and look the same to
it. -/
theorem run (h : SameFor name b b') (requests : List Request) :
    b'.view name (b.restrict name requests) = b.view name requests ∧
      SameFor name (b.after requests) (b'.after (b.restrict name requests)) := by
  -- The record of the whole run says what is left out, so the induction is on the whole run and the
  -- second backend is any that is the same for the bucket.
  induction requests generalizing b b' with
  | nil => exact ⟨rfl, h⟩
  | cons request rest ih =>
      rcases request.switch_or with hrequest | ⟨new, rfl⟩
      · by_cases hactive : b.active = name
        · obtain ⟨hanswer, hnext⟩ := h.own hactive hrequest
          obtain ⟨hview, hafter⟩ := ih hnext
          rw [restrict_cons_own hrequest hactive, view_cons_own hrequest hactive,
            view_cons_own hrequest (h.active hactive), hanswer, hview]
          exact ⟨rfl, hafter⟩
        · rw [restrict_cons_elsewhere hrequest hactive, view_cons_elsewhere hactive]
          exact ih (h.other hactive hrequest)
      · by_cases hnew : new = name
        · subst hnew
          rw [restrict_cons_switch_self, view_cons_switch, view_cons_switch]
          exact ih h.switch_self
        · rw [restrict_cons_switch_other hnew, view_cons_switch]
          exact ih (h.switch_other hnew)

end SameFor

/-! ### The bucket's share of a run -/

/-- **Buckets keep to themselves**: a run and its restriction to a bucket look the same to the bucket.
Every request of its own gets the answer that it gets when nothing was ever asked of other buckets,
but for the totals of the backend, and the bucket ends with the same table and the same cache. -/
theorem view_restrict (b : Backend) (name : String) (requests : List Request) :
    b.view name (b.restrict name requests) = b.view name requests ∧
      (b.after (b.restrict name requests)).store[name]? = (b.after requests).store[name]? ∧
      (b.after (b.restrict name requests)).registry.find? name =
        (b.after requests).registry.find? name := by
  obtain ⟨hview, hafter⟩ := (SameFor.refl name b).run requests
  exact ⟨hview, hafter.table, hafter.cache⟩

/-- A flush of another bucket is left out, with the switch that led there. -/
example :
    ((openWith .byLength (.holding .single) "kv" "b").1.toOption.map fun b =>
      b.restrict "b" [.get [1], .switch "c", .flush, .switch "b", .delete [1] true]) =
    some [.get [1], .switch "b", .delete [1] true] := by decide +kernel

end Backend

end BucketStore
