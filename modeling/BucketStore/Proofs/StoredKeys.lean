import BucketStore.Backend.Basic
import BucketStore.Proofs.Counting
import Mathlib.Data.Multiset.Basic

/-!
# The Keys a Store Holds

What a cache has to know of a bucket is which keys the bucket's table holds, and nothing about
values or about the shape of the tree they are kept in. The keys of a table are listed without
repetition, so as a multiset they are pinned down by membership alone, and each change of a table
has one equation for them (`Table.keys_insert`, `Table.keys_erase`).

`Store.keysOf` is the same view of a whole store, with a missing or a foreign table holding no
keys. The registry is seen through `Registry.find?`, as before.
-/

namespace BucketStore

/-! ### Tables -/

namespace Table

variable (table : Table) (key : Key) (value : Value)

/-- The keys of a table after a write: the written key joins them if it was not there. -/
theorem keys_insert :
    (↑(table.insert key value).keys : Multiset Key) =
      if table.contains key then ↑table.keys else key ::ₘ ↑table.keys := by
  have hnew : ((table.insert key value).keys : Multiset Key).Nodup :=
    Std.TreeMap.nodup_keys
  have hold : (table.keys : Multiset Key).Nodup := Std.TreeMap.nodup_keys
  by_cases h : table.contains key
  · rw [if_pos h, Multiset.Nodup.ext hnew hold]
    intro k
    simp only [Multiset.mem_coe, Std.TreeMap.mem_keys, Std.TreeMap.mem_insert,
      Std.LawfulEqCmp.compare_eq_iff_eq]
    exact ⟨fun hk => hk.elim (fun e => e ▸ h) id, .inr⟩
  · have hnot : key ∉ (table.keys : Multiset Key) := by
      rw [Multiset.mem_coe, Std.TreeMap.mem_keys]
      exact h
    rw [if_neg h, Multiset.Nodup.ext hnew (Multiset.nodup_cons.mpr ⟨hnot, hold⟩)]
    intro k
    simp only [Multiset.mem_cons, Multiset.mem_coe, Std.TreeMap.mem_keys,
      Std.TreeMap.mem_insert, Std.LawfulEqCmp.compare_eq_iff_eq, eq_comm (a := key)]

/-- The keys of a table after a deletion: the deleted key leaves them if it was there. -/
theorem keys_erase :
    (↑(table.erase key).keys : Multiset Key) = (↑table.keys : Multiset Key).erase key := by
  have hnew : ((table.erase key).keys : Multiset Key).Nodup := Std.TreeMap.nodup_keys
  have hold : (table.keys : Multiset Key).Nodup := Std.TreeMap.nodup_keys
  rw [Multiset.Nodup.ext hnew (hold.erase key)]
  intro k
  rw [hold.mem_erase_iff]
  simp only [Multiset.mem_coe, Std.TreeMap.mem_keys, Std.TreeMap.mem_erase, ne_eq,
    Std.LawfulEqCmp.compare_eq_iff_eq, eq_comm (a := key)]

/-- The empty table has no keys. -/
@[simp] theorem keys_empty : (∅ : Table).keys = [] :=
  List.isEmpty_iff.mp (by rw [Std.TreeMap.isEmpty_keys]; rfl)

/-- A key is listed exactly if the table contains it. -/
theorem mem_keys_iff : key ∈ table.keys ↔ table.contains key = true :=
  Std.TreeMap.mem_keys

end Table

/-! ### Stores -/

namespace Store

/-- A store holds **only buckets** if none of its tables is foreign. -/
def OnlyBuckets (s : Store) : Prop :=
  ∀ name : String, s[name]? ≠ some .foreign

/-- The keys that a store holds for a bucket. -/
def keysOf (s : Store) (name : String) : List Key :=
  match s[name]? with
  | some (.bucket table) => table.keys
  | _ => []

variable {s : Store} {name : String}

/-- What is seen of a bucket, by what stands under its name. -/
theorem bucketD_eq (s : Store) (name : String) :
    s.bucketD name =
      match s[name]? with
      | none => .ok ∅
      | some (.bucket table) => .ok table
      | some .foreign => .error (.mistyped name .counts) := by
  unfold bucketD bucket?
  rcases s[name]? with _ | table | _ <;> rfl

/-- A bucket holds the keys of its table. -/
theorem keysOf_of_bucketD {table : Table} (h : s.bucketD name = .ok table) :
    s.keysOf name = table.keys := by
  rw [bucketD_eq] at h
  simp only [keysOf]
  generalize s[name]? = stored at h ⊢
  rcases stored with _ | table' | _
  · rw [← Except.ok.inj h, Table.keys_empty]
  · rw [← Except.ok.inj h]
  · cases h

/-- What is seen of a bucket hangs on what stands under its name. -/
theorem bucketD_congr {s' : Store} (h : s'[name]? = s[name]?) :
    s'.bucketD name = s.bucketD name := by
  rw [bucketD_eq, bucketD_eq, h]

/-- A bucket that has a table shows it. -/
theorem bucketD_of_bucket? {table : Table} (h : s.bucket? name = .ok (some table)) :
    s.bucketD name = .ok table := by
  rw [bucketD, h]
  rfl

/-- The keys of a bucket hang on what stands under its name. -/
theorem keysOf_congr {s' : Store} (h : s'[name]? = s[name]?) :
    s'.keysOf name = s.keysOf name := by
  simp only [keysOf, h]

/-- A bucket that was given a table shows it. -/
@[simp] theorem bucketD_setBucket_self (table : Table) :
    (s.setBucket name table).bucketD name = .ok table := by
  rw [bucketD, bucket?_setBucket, if_pos rfl]
  rfl

/-- A bucket that was given a table holds its keys. -/
@[simp] theorem keysOf_setBucket_self (table : Table) :
    (s.setBucket name table).keysOf name = table.keys :=
  keysOf_of_bucketD (bucketD_setBucket_self table)

/-- Giving a bucket a table leaves the other names alone. -/
theorem getElem?_setBucket_of_ne {other : String} (h : other ≠ name) (table : Table) :
    (s.setBucket name table)[other]? = s[other]? := by
  rw [setBucket, Std.TreeMap.getElem?_insert, if_neg]
  simpa using h.symm

/-- Dropping a table leaves the other names alone. -/
theorem getElem?_drop_of_ne {other : String} (h : other ≠ name) :
    (s.drop name)[other]? = s[other]? := by
  rw [drop, Std.TreeMap.getElem?_erase, if_neg]
  simpa using h.symm

/-- A dropped table reads as an empty one. -/
@[simp] theorem bucketD_drop_self : (s.drop name).bucketD name = .ok ∅ := by
  rw [bucketD, bucket?_drop, if_pos rfl]
  rfl

end Store

/-! ### Registries -/

namespace Registry

variable {ε : Type} {r r' : Registry} {name other : String} {fill : Cache → Except ε Cache}

/-- Making a name known succeeds in one of two ways: the name is known already, or its new cache
could be filled. -/
theorem ensure_eq_ok (h : r.ensure name fill = .ok r') :
    (r.contains name = true ∧ r' = r) ∨
      ∃ c, r.contains name = false ∧ fill (.empty r.shape) = .ok c ∧
        r' = { r with caches := r.caches.insert name c } := by
  simp only [ensure] at h
  by_cases hk : r.contains name = true
  · rw [if_pos hk] at h
    exact .inl ⟨hk, (Except.ok.inj h).symm⟩
  · rw [if_neg hk] at h
    cases hf : fill (.empty r.shape) with
    | error e => simp [hf, Except.map] at h
    | ok c =>
        simp only [hf, Except.map, Except.ok.injEq] at h
        exact .inr ⟨c, by simpa using hk, rfl, h.symm⟩

/-- Making a name known keeps the shape of the registry. -/
theorem shape_ensure (h : r.ensure name fill = .ok r') : r'.shape = r.shape := by
  rcases ensure_eq_ok h with ⟨-, rfl⟩ | ⟨c, -, -, rfl⟩ <;> rfl

/-- A cache that was put under a name is found there, and nothing else has changed. -/
theorem find?_insert (r : Registry) (name other : String) (c : Cache) :
    ({ r with caches := r.caches.insert name c } : Registry).find? other =
      if name = other then some c else r.find? other := by
  simp only [find?]
  rw [Std.TreeMap.getElem?_insert]
  simp

/-- The cache of a known name. -/
theorem cacheOf_of_find? {c : Cache} (h : r.find? name = some c) : r.cacheOf name = c := by
  rw [cacheOf, h, Option.getD_some]

/-- Setting a cache keeps the shape of the registry. -/
@[simp] theorem shape_set (r : Registry) (name : String) (c : Cache) :
    (r.set name c).shape = r.shape := by
  simp only [set]
  split <;> rfl

/-- Setting a cache makes no name known. -/
theorem contains_set (r : Registry) (name other : String) (c : Cache) :
    (r.set name c).contains other = r.contains other := by
  rw [contains_eq_isSome_find?, find?_set, contains_eq_isSome_find? r other]
  split
  · rename_i hname
    rw [← hname.1, ← contains_eq_isSome_find?, hname.2, Option.isSome_some]
  · rfl

/-- Setting the cache of a name that is known. -/
theorem find?_set_of_find? {c c' : Cache} (h : r.find? name = some c) (other : String) :
    (r.set name c').find? other = if name = other then some c' else r.find? other := by
  rw [find?_set, contains_eq_isSome_find?, h]
  simp

/-- The cache that was set under a known name is found there. -/
theorem find?_set_self {c : Cache} (h : r.find? name = some c) (c' : Cache) :
    (r.set name c').find? name = some c' := by
  rw [find?_set_of_find? h, if_pos rfl]

end Registry

/-! ### Loading keys -/

namespace Backend

/-- Adding keys one after the other counts them all. -/
theorem counts_foldl_add {c : Cache} {held : Multiset Key} (h : c.filter.Counts held)
    (keys : List Key) : (keys.foldl Cache.add c).filter.Counts (↑keys + held) := by
  induction keys generalizing c held with
  | nil => simpa using h
  | cons key rest ih =>
      have := ih (c := c.add key) (h.add key)
      rwa [Multiset.add_cons, ← Multiset.cons_add, Multiset.cons_coe] at this

/-- Adding keys one after the other keeps the shape. -/
theorem shape_foldl_add (keys : List Key) (c : Cache) :
    (keys.foldl Cache.add c).filter.shape = c.filter.shape := by
  induction keys generalizing c with
  | nil => rfl
  | cons key rest ih => rw [List.foldl_cons, ih, Cache.filter_add, Filter.shape_add]

/-- Loading keeps the shape. -/
theorem shape_loadKeys (table : Table) (c : Cache) :
    (loadKeys table c).filter.shape = c.filter.shape :=
  shape_foldl_add table.keys c

/-- A new cache that was loaded from a bucket's table keeps its shape and counts the keys of the
bucket. -/
theorem loadKeys_spec {s : Store} {name : String} {table : Table}
    (h : s.bucketD name = .ok table) (shape : Filter.Shape) :
    (loadKeys table (.empty shape)).filter.shape = shape ∧
      (loadKeys table (.empty shape)).filter.Counts (s.keysOf name) := by
  have hcounts := counts_foldl_add (c := .empty shape) (Filter.Counts.empty shape) table.keys
  rw [add_zero] at hcounts
  rw [Store.keysOf_of_bucketD h]
  exact ⟨shape_loadKeys table _, hcounts⟩

end Backend

end BucketStore
