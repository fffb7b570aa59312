import BucketStore.Pending
import Mathlib.Algebra.BigOperators.Group.Multiset.Basic
import Mathlib.Algebra.GroupWithZero.Nat
import Mathlib.Algebra.Order.BigOperators.Group.Multiset

/-!
# What Filters Count

A counting filter is meant to hold a multiset of keys, the keys that were added and not yet
removed. This module says what its counters have to do with that multiset. Each key **loads** the
slots among its positions, as often as they come up, and a filter **counts** a multiset if every
counter is either stuck or the exact load of its slot (`Filter.Counts`).

A stuck counter is never at zero, so either way a key of the multiset is *maybe present*: the
disjunction is weak enough to survive saturation and strong enough to exclude false negatives.

## Main results

* `counter_add` and `counter_remove`: what adding and removing a key does to each counter, also
  where the positions of one key come up more than once.
* `counter_foldl_add` and `counter_foldl_remove`: the same for a row of keys.
* `Counts.empty`, `Counts.add`, `Counts.remove`, `Counts.clear`: the filter goes on counting.
* `Counts.contains`: a filter that counts a key does not deny it.
* `Pending.counts_foldl_remove`: a batch of removals counts down to what is left.
-/

namespace BucketStore

namespace Filter

/-! ### The load of a slot -/

/-- The **load** of a slot under some keys: how often it comes up among their positions. -/
def Shape.load (shape : Shape) (keys : Multiset Key) (slot : Nat) : Nat :=
  (keys.map fun key => shape.hits key slot).sum

namespace Shape

variable (shape : Shape) (slot : Nat)

/-- No key, no load. -/
@[simp] theorem load_zero : shape.load 0 slot = 0 := by
  simp [load]

/-- One more key adds its own hits. -/
@[simp] theorem load_cons (key : Key) (keys : Multiset Key) :
    shape.load (key ::ₘ keys) slot = shape.hits key slot + shape.load keys slot := by
  simp [load]

/-- The load of listed keys is the sum of their hits. -/
theorem load_coe (keys : List Key) :
    shape.load keys slot = (keys.map fun key => shape.hits key slot).sum := by
  simp [load]

/-- The load of a multiset is the hits of one of its keys and the load of the others. -/
theorem hits_add_load_erase {key : Key} {keys : Multiset Key} (h : key ∈ keys) :
    shape.hits key slot + shape.load (keys.erase key) slot = shape.load keys slot :=
  Multiset.sum_map_erase (f := fun k => shape.hits k slot) h

/-- No key hits a slot more often than all keys together. -/
theorem hits_le_load {key : Key} {keys : Multiset Key} (h : key ∈ keys) :
    shape.hits key slot ≤ shape.load keys slot := by
  have := shape.hits_add_load_erase slot h
  omega

/-- A slot is hit exactly if it is among the positions. -/
theorem hits_pos_iff {key : Key} : 0 < shape.hits key slot ↔ slot ∈ shape.positions key :=
  List.count_pos_iff

end Shape

/-! ### Adding and removing a key, counter by counter -/

section Steps

variable (f : Filter) (key : Key) (slot : Nat)

/-- Counting up through a row of slots raises each counter by its number of occurrences, up to
where it is stuck. -/
theorem counter_foldl_countUp (slots : List Nat) :
    (slots.foldl countUp f).counter slot = min stuck (f.counter slot + slots.count slot) := by
  induction slots generalizing f with
  | nil =>
      have := f.counter_le slot
      simp only [List.foldl_nil, List.count_nil]
      omega
  | cons first rest ih =>
      rw [List.foldl_cons, ih, counter_countUp, List.count_cons]
      by_cases h : first = slot
      · simp only [h, if_true, beq_self_eq_true]
        omega
      · simp only [h, if_false, beq_iff_eq]
        omega

/-- Counting down through a row of slots lowers each counter by its number of occurrences, but
leaves a stuck counter alone. -/
theorem counter_foldl_countDown (slots : List Nat) :
    (slots.foldl countDown f).counter slot =
      if f.counter slot = stuck then stuck else f.counter slot - slots.count slot := by
  induction slots generalizing f with
  | nil => by_cases h : f.counter slot = stuck <;> simp [h]
  | cons first rest ih =>
      have hle := f.counter_le slot
      rw [List.foldl_cons, ih, counter_countDown, List.count_cons]
      by_cases h : first = slot
      · by_cases hs : f.counter slot = stuck
        · simp [hs]
        · have hne : f.counter slot - 1 ≠ stuck := by omega
          simp only [h, hs, hne, ne_eq, not_false_eq_true, and_self, if_true, if_false,
            beq_self_eq_true]
          omega
      · by_cases hs : f.counter slot = stuck <;> simp [h, hs]

/-- Going through a row of slots upwards keeps the shape. -/
theorem shape_foldl_countUp (slots : List Nat) : (slots.foldl countUp f).shape = f.shape := by
  induction slots generalizing f with
  | nil => rfl
  | cons first rest ih => rw [List.foldl_cons, ih, shape_countUp]

/-- Going through a row of slots downwards keeps the shape. -/
theorem shape_foldl_countDown (slots : List Nat) : (slots.foldl countDown f).shape = f.shape := by
  induction slots generalizing f with
  | nil => rfl
  | cons first rest ih => rw [List.foldl_cons, ih, shape_countDown]

/-- Adding a key keeps the shape. -/
@[simp] theorem shape_add : (f.add key).shape = f.shape :=
  shape_foldl_countUp f _

/-- Removing a key keeps the shape. -/
@[simp] theorem shape_remove : (f.remove key).shape = f.shape :=
  shape_foldl_countDown f _

/-- Forgetting all keys keeps the shape. -/
@[simp] theorem shape_clear : f.clear.shape = f.shape := rfl

/-- Adding a key raises each counter by the key's hits, up to where it is stuck. -/
theorem counter_add :
    (f.add key).counter slot = min stuck (f.counter slot + f.shape.hits key slot) :=
  counter_foldl_countUp f slot _

/-- Removing a key lowers each counter by the key's hits, unless it is stuck. -/
theorem counter_remove :
    (f.remove key).counter slot =
      if f.counter slot = stuck then stuck else f.counter slot - f.shape.hits key slot :=
  counter_foldl_countDown f slot _

/-- A key is maybe present exactly if none of its positions is at zero. -/
theorem contains_iff : f.contains key = true ↔ ∀ i ∈ f.shape.positions key, f.counter i ≠ 0 := by
  simp [contains]

end Steps

/-! ### Rows of keys -/

section Rows

variable (f : Filter) (keys : List Key) (slot : Nat)

/-- Adding keys one after the other keeps the shape. -/
theorem shape_foldl_add : (keys.foldl add f).shape = f.shape := by
  induction keys generalizing f with
  | nil => rfl
  | cons key rest ih => rw [List.foldl_cons, ih, shape_add]

/-- Removing keys one after the other keeps the shape. -/
theorem shape_foldl_remove : (keys.foldl remove f).shape = f.shape := by
  induction keys generalizing f with
  | nil => rfl
  | cons key rest ih => rw [List.foldl_cons, ih, shape_remove]

/-- Adding keys one after the other raises each counter by their load, up to where it is stuck. -/
theorem counter_foldl_add :
    (keys.foldl add f).counter slot = min stuck (f.counter slot + f.shape.load keys slot) := by
  induction keys generalizing f with
  | nil =>
      have := f.counter_le slot
      simp only [List.foldl_nil, Multiset.coe_nil, Shape.load_zero]
      omega
  | cons key rest ih =>
      rw [List.foldl_cons, ih, counter_add, shape_add, ← Multiset.cons_coe, Shape.load_cons]
      omega

/-- Removing keys one after the other lowers each counter by their load, unless it is stuck. -/
theorem counter_foldl_remove :
    (keys.foldl remove f).counter slot =
      if f.counter slot = stuck then stuck else f.counter slot - f.shape.load keys slot := by
  induction keys generalizing f with
  | nil => by_cases h : f.counter slot = stuck <;> simp [h]
  | cons key rest ih =>
      have hle := f.counter_le slot
      rw [List.foldl_cons, ih, counter_remove, shape_remove, ← Multiset.cons_coe, Shape.load_cons]
      by_cases h : f.counter slot = stuck
      · simp [h]
      · have hne : f.counter slot - f.shape.hits key slot ≠ stuck := by omega
        simp only [h, hne, if_false]
        omega

variable {f keys}

/-- A key that was added is admitted, whatever the filter counted before and whichever keys were added
with it. -/
theorem contains_foldl_add {key : Key} (h : key ∈ keys) :
    (keys.foldl add f).contains key = true := by
  rw [contains_iff]
  intro slot hslot
  rw [shape_foldl_add] at hslot
  have hpos := (f.shape.hits_pos_iff slot).mpr hslot
  have hle := f.shape.hits_le_load slot (Multiset.mem_coe.mpr h)
  rw [counter_foldl_add, stuck]
  omega

/-- The case of one key. -/
theorem contains_add (f : Filter) (key : Key) : (f.add key).contains key = true := by
  have h : ([key].foldl add f).contains key = true :=
    contains_foldl_add (List.mem_singleton_self key)
  exact h

end Rows

/-! ### Counting a multiset -/

/-- A filter **counts** some keys if the counter of every slot is stuck or its exact load. -/
def Counts (f : Filter) (held : Multiset Key) : Prop :=
  ∀ slot < f.shape.slots, f.counter slot = stuck ∨ f.counter slot = f.shape.load held slot

namespace Counts

variable {f : Filter} {held : Multiset Key} {key : Key}

/-- A new filter counts no keys. -/
theorem empty (shape : Shape) : (Filter.empty shape).Counts 0 := by
  intro slot _
  right
  rw [counter_empty, Shape.load_zero]

/-- A cleared filter counts no keys, whatever it counted before. -/
theorem clear (f : Filter) : f.clear.Counts 0 :=
  Counts.empty f.shape

/-- An added key is counted. Where the load passes the greatest value the counter is stuck. -/
theorem add (h : f.Counts held) (key : Key) : (f.add key).Counts (key ::ₘ held) := by
  intro slot hslot
  rw [shape_add] at hslot
  rw [counter_add, shape_add, Shape.load_cons]
  rcases h slot hslot with hs | hs
  · left
    omega
  · omega

/-- A counted key can be taken back. Its hits are part of the load, so no counter is cut short
at zero. -/
theorem remove (h : f.Counts held) (hkey : key ∈ held) :
    (f.remove key).Counts (held.erase key) := by
  intro slot hslot
  rw [shape_remove] at hslot
  have hload := f.shape.hits_add_load_erase slot hkey
  rw [counter_remove, shape_remove]
  by_cases hs : f.counter slot = stuck
  · left
    rw [if_pos hs]
  · right
    have := (h slot hslot).resolve_left hs
    rw [if_neg hs]
    omega

/-- **No false negatives.** A filter that counts a key does not deny it. -/
theorem contains (h : f.Counts held) (hkey : key ∈ held) : f.contains key = true := by
  rw [contains_iff]
  intro slot hslot
  have hpos := (f.shape.hits_pos_iff slot).mpr hslot
  have hle := f.shape.hits_le_load slot hkey
  rcases h slot (f.shape.positions_lt key hslot) with hs | hs
  · simp [hs, stuck]
  · omega

end Counts

end Filter

/-! ### Caches and batches of removals -/

namespace Cache

/-- Adding a key to a cache adds it to the filter. -/
@[simp] theorem filter_add (c : Cache) (key : Key) : (c.add key).filter = c.filter.add key := rfl

/-- Removing a key from a cache removes it from the filter. -/
@[simp] theorem filter_remove (c : Cache) (key : Key) :
    (c.remove key).filter = c.filter.remove key := rfl

/-- Resetting a cache clears the filter. -/
@[simp] theorem filter_reset (c : Cache) : c.reset.filter = c.filter.clear := rfl

/-- A test leaves the filter alone. -/
@[simp] theorem filter_noteTest (c : Cache) (key : Key) : (c.noteTest key).filter = c.filter := rfl

end Cache

namespace Pending

variable {c : Cache} {held : Multiset Key}

/-- The first removal of a batch counts down to what is kept and the rest of the batch. -/
theorem counts_remove_head {key : Key} {rest : List Key}
    (h : c.filter.Counts (held + ↑(key :: rest))) :
    (c.remove key).filter.Counts (held + ↑rest) := by
  have hkey : key ∈ held + (↑(key :: rest) : Multiset Key) := by simp
  have hrest : (held + (↑(key :: rest) : Multiset Key)).erase key = held + ↑rest := by
    rw [← Multiset.cons_coe, Multiset.add_cons, Multiset.erase_cons_head]
  exact hrest ▸ h.remove hkey

/-- At every point of a batch of removals the filter counts what is kept and what the batch has
still to remove. -/
theorem counts_scanl_remove {keys : List Key} (h : c.filter.Counts (held + keys)) :
    ∀ c' ∈ keys.scanl Cache.remove c, ∃ left : Multiset Key, c'.filter.Counts (held + left) := by
  induction keys generalizing c with
  | nil =>
      intro c' hc'
      rw [List.scanl_nil, List.mem_singleton] at hc'
      exact ⟨0, hc' ▸ h⟩
  | cons key rest ih =>
      intro c' hc'
      rw [List.scanl_cons, List.mem_cons] at hc'
      rcases hc' with rfl | hc'
      · exact ⟨_, h⟩
      · exact ih (counts_remove_head h) c' hc'

/-- After a batch of removals the filter counts what is kept. -/
theorem counts_foldl_remove {keys : List Key} (h : c.filter.Counts (held + keys)) :
    (keys.foldl Cache.remove c).filter.Counts held := by
  induction keys generalizing c with
  | nil => simpa using h
  | cons key rest ih => exact ih (counts_remove_head h)

/-- A batch of removals keeps the shape. -/
theorem shape_foldl_remove (keys : List Key) (c : Cache) :
    (keys.foldl Cache.remove c).filter.shape = c.filter.shape := by
  induction keys generalizing c with
  | nil => rfl
  | cons key rest ih => rw [List.foldl_cons, ih, Cache.filter_remove, Filter.shape_remove]

/-- A commit keeps the shape. -/
@[simp] theorem shape_commit (p : Pending) (c : Cache) :
    (p.commit c).filter.shape = c.filter.shape := by
  simp only [commit]
  split
  · rw [Cache.filter_reset, Filter.shape_clear, shape_foldl_remove]
  · exact shape_foldl_remove _ c

/-- A retraction keeps the shape. -/
@[simp] theorem shape_retract (p : Pending) (c : Cache) :
    (p.retract c).filter.shape = c.filter.shape :=
  shape_foldl_remove _ c

end Pending

end BucketStore
