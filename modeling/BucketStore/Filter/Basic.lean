import BucketStore.Filter.Shape
import Std.Data.TreeMap

/-!
# Counting Filters

A **counting filter** keeps an 8-bit counter per slot. Adding a key counts every one of its positions
up, removing it counts them down again, and a key is *maybe present* as long as all of its positions
are counted. A counter that has reached 255 is **stuck**: it no longer knows its true count and is
never counted down, which leaves positive bias behind and nothing else.

The counters are seen through `Filter.counter`, one natural number per slot; a slot without an entry
counts zero. `counter_countUp` and `counter_countDown` say what the two elementary steps do to that view,
and `counter_clear` what is left of it after a reset.
-/

namespace BucketStore

/-- A counting filter. -/
structure Filter where
  /-- The shape of the filter. -/
  shape : Filter.Shape
  /-- The counters that were ever touched, by slot. -/
  counters : Std.TreeMap Nat UInt8

namespace Filter

/-- The greatest value of a counter, at which it is stuck. -/
def stuck : Nat := 255

/-- The filter of a shape with all counters at zero. -/
def empty (shape : Shape) : Filter :=
  ⟨shape, ∅⟩

/-- The counter of a slot. -/
def counter (f : Filter) (slot : Nat) : Nat :=
  (f.counters.getD slot 0).toNat

/-- Counts one slot up, unless it is stuck. -/
def countUp (f : Filter) (slot : Nat) : Filter :=
  let c := f.counters.getD slot 0
  if c = 255 then f else { f with counters := f.counters.insert slot (c + 1) }

/-- Counts one slot down, unless it is at zero or stuck. -/
def countDown (f : Filter) (slot : Nat) : Filter :=
  let c := f.counters.getD slot 0
  if c = 0 ∨ c = 255 then f else { f with counters := f.counters.insert slot (c - 1) }

/-- Adds a key: counts its positions up. -/
def add (f : Filter) (key : Key) : Filter :=
  (f.shape.positions key).foldl countUp f

/-- Removes a key: counts its positions down. A key that was not added spoils the counts of others. -/
def remove (f : Filter) (key : Key) : Filter :=
  (f.shape.positions key).foldl countDown f

/-- Whether a key is **maybe present**: all of its positions are counted. -/
def contains (f : Filter) (key : Key) : Bool :=
  (f.shape.positions key).all fun slot => f.counter slot != 0

/-- All counters go back to zero. -/
def clear (f : Filter) : Filter :=
  empty f.shape

/-- The slots that are counted, with their counters, in ascending order. -/
def nonzero (f : Filter) : List (Nat × UInt8) :=
  f.counters.toList.filter fun e => e.2 != 0

/-- The number of slots that are counted. -/
def occupied (f : Filter) : Nat :=
  f.nonzero.length

/-! ### Counters -/

/-- No counter exceeds the greatest value. -/
theorem counter_le (f : Filter) (slot : Nat) : f.counter slot ≤ stuck := by
  have := (f.counters.getD slot 0).toNat_lt
  simp only [counter, stuck]
  omega

/-- All counters start at zero. -/
@[simp] theorem counter_empty (shape : Shape) (slot : Nat) : (empty shape).counter slot = 0 := by
  simp [counter, empty]

/-- Counting up keeps the shape. -/
@[simp] theorem shape_countUp (f : Filter) (slot : Nat) : (f.countUp slot).shape = f.shape := by
  simp only [countUp]
  split <;> rfl

/-- Counting down keeps the shape. -/
@[simp] theorem shape_countDown (f : Filter) (slot : Nat) : (f.countDown slot).shape = f.shape := by
  simp only [countDown]
  split <;> rfl

/-- Counting up moves one counter, up to where it is stuck. -/
theorem counter_countUp (f : Filter) (slot i : Nat) :
    (f.countUp slot).counter i =
      if slot = i then min stuck (f.counter i + 1) else f.counter i := by
  by_cases h : slot = i
  · subst h
    by_cases hc : f.counters.getD slot 0 = 255
    · simp [countUp, counter, stuck, hc]
    · have hlt : (f.counters.getD slot 0).toNat ≠ 255 := fun e => hc (UInt8.toNat_inj.mp e)
      have hle := (f.counters.getD slot 0).toNat_lt
      simp only [countUp, counter, stuck, hc, if_false, if_true]
      rw [Std.TreeMap.getD_insert_self, UInt8.toNat_add]
      simp only [UInt8.reduceToNat]
      omega
  · by_cases hc : f.counters.getD slot 0 = 255
    · simp [countUp, h, hc]
    · simp only [countUp, counter, hc, if_false, h]
      rw [Std.TreeMap.getD_insert]
      simp [h]

/-- Counting down moves one counter, unless it is at zero or stuck. -/
theorem counter_countDown (f : Filter) (slot i : Nat) :
    (f.countDown slot).counter i =
      if slot = i ∧ f.counter i ≠ stuck then f.counter i - 1 else f.counter i := by
  by_cases h : slot = i
  · subst h
    by_cases hc : f.counters.getD slot 0 = 0 ∨ f.counters.getD slot 0 = 255
    · rcases hc with hc | hc <;> simp [countDown, counter, stuck, hc]
    · have hz : (f.counters.getD slot 0).toNat ≠ 0 := fun e => hc (.inl (UInt8.toNat_inj.mp e))
      have hs : (f.counters.getD slot 0).toNat ≠ 255 := fun e => hc (.inr (UInt8.toNat_inj.mp e))
      have hone : (1 : UInt8) ≤ f.counters.getD slot 0 := by
        rw [UInt8.le_iff_toNat_le]
        simp only [UInt8.reduceToNat]
        omega
      simp only [countDown, counter, stuck, hc, if_false]
      rw [Std.TreeMap.getD_insert_self, if_pos ⟨trivial, hs⟩, UInt8.toNat_sub_of_le _ _ hone]
      rfl
  · by_cases hc : f.counters.getD slot 0 = 0 ∨ f.counters.getD slot 0 = 255
    · simp [countDown, h, hc]
    · simp only [countDown, counter, hc, if_false, h, false_and]
      rw [Std.TreeMap.getD_insert]
      simp [h]

/-- A cleared filter counts nothing. -/
@[simp] theorem counter_clear (f : Filter) (slot : Nat) : f.clear.counter slot = 0 :=
  counter_empty ..

end Filter

end BucketStore
