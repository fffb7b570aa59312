import BucketStore.Backend.Request
import BucketStore.Proofs.Bodies

/-!
# What Operations Do

The operations of a backend beside its updates, each as one equation: what it gives (`found`) and
the backend after it (`looked`). An update is known from the run of its body, a deletion from the
read before it and an update, and a switch from whether the new bucket's table can be read. Later
modules quote these equations and never look into an operation again.

What operations leave alone is here too. Whatever neither ending of an update nor a lookup changes,
only a switch can change (`Steady`).

## Main results

* `update_of_ok`, `update_of_error`: an update commits or aborts where its body ended.
* `get_eq`, `delete_ifExists_eq`: reads, and deletions with a read before them.
* `switch_cases`: the three ways a switch can go.
* `Steady.serve`: what only a switch changes.
* `shape_after`, `place_after`: what no request changes.
-/

namespace BucketStore

namespace Backend

variable {b : Backend}

/-! ### Updates -/

section Updates

variable {α : Type} {body : TxnM α} {t : Txn}

/-- A transaction works on the active bucket. -/
theorem transaction_bucket (b : Backend) : b.transaction.bucket = b.active := rfl

/-- An update whose body succeeds commits. -/
theorem update_of_ok {a : α} (h : body.run b.transaction = .ok a t) :
    b.update body = (.ok a, b.commit t) := by
  simp only [update, Disk.access_working, h]

/-- An update whose body fails aborts. -/
theorem update_of_error {e : StoreError} (h : body.run b.transaction = .error e t) :
    b.update body = (.error e, b.abort t) := by
  simp only [update, Disk.access_working, h]

end Updates

/-! ### Reads -/

section Reads

variable (b : Backend) (key : Key)

/-- What a read **finds**: what the table holds, unless the cache rules the key out. -/
def found : Except StoreError (Option Value) :=
  if b.cache.mayContain key then
    match b.store.bucketD b.active with
    | .error fault => .error (.table fault)
    | .ok table => .ok table[key]?
  else .ok none

/-- The backend after a key was **looked up**: one test, and one read that was done or saved. -/
def looked : Backend :=
  if b.cache.mayContain key then
    { b.setCache (b.cache.noteTest key) with reads := b.reads + 1 }
  else { b.setCache (b.cache.noteTest key) with shortCircuits := b.shortCircuits + 1 }

@[simp] theorem looked_path : (b.looked key).path = b.path := by
  simp only [looked]
  split <;> rfl

@[simp] theorem looked_place : (b.looked key).place = b.place := by
  simp only [looked]
  split <;> rfl

@[simp] theorem looked_store : (b.looked key).store = b.store := by
  simp only [looked]
  split <;> rfl

@[simp] theorem looked_active : (b.looked key).active = b.active := by
  simp only [looked]
  split <;> rfl

@[simp] theorem looked_registry :
    (b.looked key).registry = b.registry.set b.active (b.cache.noteTest key) := by
  simp only [looked]
  split <;> rfl

/-- A read gives what it finds. -/
theorem get_eq : b.get key = (b.found key, b.looked key) := by
  simp only [get, found, looked]
  cases b.cache.mayContain key with
  | false => rfl
  | true =>
      simp only [if_true, openRead_working, Store.bucketD]
      rcases b.store.bucket? b.active with fault | _ | table
      · rfl
      · simp [Except.map, Except.mapError, setCache]
      · rfl

end Reads

/-! ### Deletions -/

/-- A deletion under a condition reads first, and goes on to an update if the key is there. -/
theorem delete_ifExists_eq (b : Backend) (key : Key) :
    b.delete key true =
      match b.found key with
      | .error e => (.error e, b.looked key)
      | .ok none => (.ok false, b.looked key)
      | .ok (some _) => (b.looked key).update (Txn.delete key) := by
  simp only [delete, if_true, get_eq]
  rcases b.found key with e | _ | value <;> rfl

/-! ### Switches -/

/-- The three ways a switch can go: the text is no name, or the table of a new bucket cannot be read,
or the bucket is known from then on and active. -/
theorem switch_cases (b : Backend) (name : String) :
    (∃ fault, BucketName.ofString name = .error fault ∧
      b.switch name = (.error (.invalidBucketName fault), b)) ∨
    (∃ n e, BucketName.ofString name = .ok n ∧
      b.registry.ensure n.text (fill b.store n.text) = .error e ∧ b.switch name = (.error e, b)) ∨
    ∃ n registry, BucketName.ofString name = .ok n ∧
      b.registry.ensure n.text (fill b.store n.text) = .ok registry ∧
      b.switch name = (.ok (), { b with registry, active := n.text }) := by
  cases hn : BucketName.ofString name with
  | error fault =>
      left
      exact ⟨fault, rfl, by simp only [switch, hn]⟩
  | ok n =>
      right
      cases hens : b.registry.ensure n.text (fill b.store n.text) with
      | error e =>
          left
          exact ⟨n, e, rfl, hens, by simp only [switch, hn, hens]⟩
      | ok registry =>
          right
          exact ⟨n, registry, rfl, hens, by simp only [switch, hn, hens]⟩

end Backend

/-! ### What operations leave alone -/

/-- Whether a request is a switch. -/
def Request.isSwitch : Request → Bool
  | .switch _ => true
  | _ => false

/-- A request is no switch, or it names a bucket to switch to. -/
theorem Request.switch_or (request : Request) :
    request.isSwitch = false ∨ ∃ name, request = .switch name := by
  cases request with
  | switch name => exact .inr ⟨name, rfl⟩
  | _ => exact .inl rfl

namespace Backend

/-- What is seen of backends is **steady** if it is the same after a transaction has ended, either way,
and after a key was looked up. -/
structure Steady {β : Type} (f : Backend → β) : Prop where
  /-- A commit leaves it alone. -/
  commit : ∀ b t, f (b.commit t) = f b
  /-- An abort leaves it alone. -/
  abort : ∀ b t, f (b.abort t) = f b
  /-- Looking a key up leaves it alone. -/
  looked : ∀ b key, f (b.looked key) = f b

namespace Steady

variable {β : Type} {f : Backend → β}

/-- Updates leave alone what is steady. -/
theorem update (h : Steady f) {α : Type} (b : Backend) (body : TxnM α) :
    f (b.update body).2 = f b := by
  cases hrun : body.run b.transaction with
  | ok a t =>
      rw [update_of_ok hrun]
      exact h.commit b t
  | error e t =>
      rw [update_of_error hrun]
      exact h.abort b t

/-- Deletions leave alone what is steady. -/
theorem delete (h : Steady f) (b : Backend) (key : Key) (onlyIfExists : Bool) :
    f (b.delete key onlyIfExists).2 = f b := by
  cases onlyIfExists with
  | false => exact h.update b _
  | true =>
      rw [delete_ifExists_eq]
      rcases b.found key with e | _ | value
      · exact h.looked b key
      · exact h.looked b key
      · exact (h.update _ _).trans (h.looked b key)

/-- **Only a switch changes what is steady.** -/
theorem serve (h : Steady f) {request : Request} (hrequest : request.isSwitch = false) :
    f (b.serve request).2 = f b := by
  cases request with
  | put mode key value => exact h.update b (Txn.put mode key value)
  | get key =>
      simp only [Backend.serve, get_eq, Prod.map_snd, id]
      exact h.looked b key
  | delete key onlyIfExists => exact h.delete b key onlyIfExists
  | adjust change create key => exact h.update b (Txn.adjust change create key)
  | flush => exact h.update b Txn.flush
  | switch name => cases hrequest
  | stats => rfl

end Steady

/-- The active bucket is steady. -/
theorem steady_active : Steady Backend.active :=
  ⟨fun _ _ => rfl, fun _ _ => rfl, looked_active⟩

/-- The location of the store's file is steady. -/
theorem steady_place : Steady Backend.place :=
  ⟨fun _ _ => rfl, fun _ _ => rfl, looked_place⟩

/-- The shape of the caches is steady. -/
theorem steady_shape : Steady (·.registry.shape) where
  commit _ _ := Registry.shape_set ..
  abort _ _ := Registry.shape_set ..
  looked _ _ := by rw [looked_registry, Registry.shape_set]

/-- Whether a bucket is known is steady. -/
theorem steady_contains (name : String) : Steady (·.registry.contains name) where
  commit _ _ := Registry.contains_set ..
  abort _ _ := Registry.contains_set ..
  looked _ _ := by rw [looked_registry, Registry.contains_set]

variable (b : Backend)

/-- A switch keeps the shape of the registry. -/
theorem shape_switch (name : String) : (b.switch name).2.registry.shape = b.registry.shape := by
  obtain ⟨_, -, h⟩ | ⟨_, _, -, -, h⟩ | ⟨_, registry, -, hens, h⟩ := b.switch_cases name
  · rw [h]
  · rw [h]
  · rw [h]
    exact Registry.shape_ensure hens

/-- Every request keeps the shape of the registry. -/
theorem shape_serve (request : Request) :
    (b.serve request).2.registry.shape = b.registry.shape := by
  rcases request.switch_or with hrequest | ⟨name, rfl⟩
  · exact steady_shape.serve hrequest
  · exact shape_switch b name

/-- A row of requests keeps the shape of the registry. -/
theorem shape_after (requests : List Request) :
    (b.after requests).registry.shape = b.registry.shape := by
  induction requests generalizing b with
  | nil => rfl
  | cons request rest ih => exact (ih _).trans (shape_serve b request)

/-- Every request keeps the location of the store's file. -/
theorem place_serve (request : Request) : (b.serve request).2.place = b.place := by
  rcases request.switch_or with hrequest | ⟨name, rfl⟩
  · exact steady_place.serve hrequest
  · obtain ⟨_, -, h⟩ | ⟨_, _, -, -, h⟩ | ⟨_, _, -, -, h⟩ := b.switch_cases name <;>
      simp only [serve, Prod.map_snd, id, h]

/-- A row of requests keeps the location of the store's file. -/
theorem place_after (requests : List Request) : (b.after requests).place = b.place := by
  induction requests generalizing b with
  | nil => rfl
  | cons request rest ih => exact (ih _).trans (place_serve b request)

end Backend

end BucketStore
