import BucketStore.Key
import BucketStore.Xxh64

/-!
# The Shape of a Filter

A filter is a row of counters, the **slots**, and each key has a fixed sequence of positions in it.
The shape of a filter is the number of slots, the number of **hashed positions** per key, and the
two digests from which the positions are drawn. Nothing else about the digests is ever used, so
what holds of the filter holds for any digests whatever.

`Shape.ofRate` sizes a shape for a number of keys and a false-positive rate: `n` keys at rate `p`
ask for `-n * ln p / (ln 2)^2` slots and `slots / n * ln 2` positions.
-/

namespace BucketStore.Filter

/-- A key's first position and the step from one position to the next, before they are brought into
the range of the slots. -/
structure Probe where
  /-- The first position. -/
  start : UInt64
  /-- The step between positions. -/
  step : UInt64
  deriving DecidableEq, Repr

/-- The probe of a key: two digests under different seeds, the step forced odd. -/
def Probe.ofKey (key : Key) : Probe where
  start := Xxh64.digest 0x9E3779B97F4A7C15 key
  step := Xxh64.digest 0xC2B2AE3D27D4EB4F key ||| 1

/-- The **shape** of a filter. -/
structure Shape where
  /-- The number of keys that the filter is meant for. -/
  capacity : Nat
  /-- The false-positive rate that is wanted at capacity. -/
  rate : Float
  /-- The number of counters. -/
  slots : Nat
  /-- The number of positions per key. -/
  hashes : Nat
  /-- The probe of each key. -/
  probe : Key → Probe
  /-- There is a slot. -/
  slots_pos : 0 < slots
  /-- There is a position. -/
  hashes_pos : 0 < hashes

/-- The rate below which a filter is sized as for this rate. -/
def leastRate : Float := 1e-9

/-- The rate above which a filter is sized as for this rate. -/
def greatestRate : Float := 0.999999

/-- The natural logarithm of two. -/
def ln2 : Float := 0.693147180559945309417232121458

/-- A rate brought between the least and the greatest one; a NaN stays as it is. -/
def clampRate (rate : Float) : Float :=
  if rate < leastRate then leastRate
  else if greatestRate < rate then greatestRate
  else rate

/-- A count as a natural number, at least one; a NaN counts as one. -/
def atLeastOne (x : Float) : Nat :=
  max 1 x.toUInt64.toNat

namespace Shape

/-- The number of slots, as the number that the count of positions is computed from. -/
def idealSlots (capacity : Nat) (rate : Float) : Float :=
  let x := (-(Float.ofNat (max capacity 1) * (clampRate rate).log) / (ln2 * ln2)).ceil
  if 1.0 ≤ x then x else 1.0

/-- The shape for a number of keys and a false-positive rate, with at least one slot and at least
one position. -/
def ofRate (capacity : Nat) (rate : Float) : Shape where
  capacity
  rate
  slots := atLeastOne (idealSlots capacity rate)
  hashes :=
    atLeastOne ((idealSlots capacity rate / Float.ofNat (max capacity 1)) * ln2).round
  probe := Probe.ofKey
  slots_pos := Nat.lt_of_lt_of_le Nat.zero_lt_one (Nat.le_max_left ..)
  hashes_pos := Nat.lt_of_lt_of_le Nat.zero_lt_one (Nat.le_max_left ..)

/-- The **positions** of a key: the probe's arithmetic progression modulo 2^64, brought into the range
of the slots. A slot may come up more than once. -/
def positions (shape : Shape) (key : Key) : List Nat :=
  let p := shape.probe key
  (List.range shape.hashes).map fun i => (p.start + UInt64.ofNat i * p.step).toNat % shape.slots

/-- How often a slot comes up among the positions of a key. -/
def hits (shape : Shape) (key : Key) (slot : Nat) : Nat :=
  (shape.positions key).count slot

theorem positions_lt (shape : Shape) (key : Key) {slot : Nat} (h : slot ∈ shape.positions key) :
    slot < shape.slots := by
  simp only [positions, List.mem_map] at h
  obtain ⟨i, _, rfl⟩ := h
  exact Nat.mod_lt _ shape.slots_pos

end Shape

end BucketStore.Filter
