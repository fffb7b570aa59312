import BucketStore.Filter.Shape
import Mathlib.Data.Nat.ModEq
import Mathlib.Data.Nat.Prime.Basic

/-!
# Where Positions Collapse

The positions of a key are the places of a **walk** around a ring of 2^64 places, brought into the
range of the slots. If all of them are the same slot, the positions have **collapsed**
(`Shape.Collapses`), and the key is counted, and later looked for, in a single counter.

The step of the walk is odd, and this is meant to rule collapses out. It does so where the number of
slots is even: then two places in a row are never the same slot. But an odd number of slots may
divide the step. The ring adds a second way: a step that passes its end comes to going back by what
the step lacks to a whole turn, and it may be this number that the slots divide. What is ruled out is
only that both kinds of step are taken, since slots that divide both would divide the whole ring.

So the positions collapse in two cases and no others. Either the slots divide the step, and the walk
never passes the end of the ring; or they divide what the step lacks, and it passes the end with
every step.

## Main results

* `Probe.place_succ`: what one step does.
* `collapses_iff_divides`: exactly when the positions of a key collapse, and that they never do if the
  number of slots is even.
* `not_spread_out`: two positions in three slots that collapse.
-/

namespace BucketStore.Filter

/-! ### The walk -/

namespace Probe

variable {p : Probe} {i : Nat}

/-- The **place** on the ring that the walk of a probe has come to after some steps. -/
def place (p : Probe) (i : Nat) : Nat :=
  (p.start.toNat + i * p.step.toNat) % 2 ^ 64

/-- What the step of a probe **lacks** to a whole turn of the ring. -/
def lack (p : Probe) : Nat :=
  2 ^ 64 - p.step.toNat

/-- A walk **climbs** if none of its first steps passes the end of the ring. -/
def Climbs (p : Probe) (i : Nat) : Prop :=
  p.start.toNat + i * p.step.toNat < 2 ^ 64

/-- A walk **sinks** if every one of its first steps passes the end of the ring. -/
def Sinks (p : Probe) (i : Nat) : Prop :=
  i * p.lack ≤ p.start.toNat

instance : Decidable (p.Climbs i) :=
  inferInstanceAs (Decidable (_ < _))

instance : Decidable (p.Sinks i) :=
  inferInstanceAs (Decidable (_ ≤ _))

/-- A step and what it lacks are a whole turn. -/
theorem step_add_lack (p : Probe) : p.step.toNat + p.lack = 2 ^ 64 :=
  Nat.add_sub_of_le p.step.toNat_lt.le

/-- Every place is on the ring. -/
theorem place_lt (p : Probe) (i : Nat) : p.place i < 2 ^ 64 :=
  Nat.mod_lt _ (by decide)

/-- The walk begins at its start. -/
@[simp] theorem place_zero (p : Probe) : p.place 0 = p.start.toNat := by
  rw [place, Nat.zero_mul, Nat.add_zero]
  exact Nat.mod_eq_of_lt p.start.toNat_lt

/-- **A step** goes up by the step, or back by what the step lacks. -/
theorem place_succ (p : Probe) (i : Nat) :
    p.place (i + 1) = p.place i + p.step.toNat ∨ p.place (i + 1) + p.lack = p.place i := by
  have hnext : p.place (i + 1) = (p.place i + p.step.toNat) % 2 ^ 64 := by
    rw [place, place, Nat.mod_add_mod, Nat.add_assoc, Nat.succ_mul]
  have hplace := p.place_lt i
  have hturn := p.step_add_lack
  rw [hnext]
  by_cases hpast : p.place i + p.step.toNat < 2 ^ 64
  · exact .inl (Nat.mod_eq_of_lt hpast)
  · refine .inr ?_
    rw [Nat.mod_eq_sub_mod (Nat.le_of_not_lt hpast), Nat.mod_eq_of_lt (by omega)]
    omega

/-- Where a walk that climbs has come to. -/
theorem place_of_climbs (h : p.Climbs i) : p.place i = p.start.toNat + i * p.step.toNat :=
  Nat.mod_eq_of_lt h

/-- Where a walk that sinks has come to. -/
theorem place_of_sinks (h : p.Sinks i) : p.place i + i * p.lack = p.start.toNat := by
  obtain ⟨low, hlow⟩ := Nat.exists_eq_add_of_le' h
  have hturns : i * p.step.toNat + i * p.lack = 2 ^ 64 * i := by
    rw [← Nat.mul_add, step_add_lack, Nat.mul_comm]
  have hstart := p.start.toNat_lt
  have hplace : p.place i = low := by
    rw [place, hlow, show low + i * p.lack + i * p.step.toNat = low + 2 ^ 64 * i by omega,
      Nat.add_mul_mod_self_left]
    exact Nat.mod_eq_of_lt (by omega)
  rw [hplace, hlow]

/-- A walk that climbs for some steps climbs for fewer. -/
theorem Climbs.mono {j : Nat} (h : p.Climbs j) (hij : i ≤ j) : p.Climbs i :=
  (Nat.add_le_add_left (Nat.mul_le_mul_right _ hij) _).trans_lt h

/-- A walk that sinks for some steps sinks for fewer. -/
theorem Sinks.mono {j : Nat} (h : p.Sinks j) (hij : i ≤ j) : p.Sinks i :=
  (Nat.mul_le_mul_right _ hij).trans h

/-- A walk climbs on with a step that goes up. -/
theorem Climbs.succ (h : p.Climbs i) (hup : p.place (i + 1) = p.place i + p.step.toNat) :
    p.Climbs (i + 1) := by
  have hplace := place_of_climbs h
  have hlt := p.place_lt (i + 1)
  rw [Climbs, Nat.succ_mul]
  omega

/-- A walk sinks on with a step that goes back. -/
theorem Sinks.succ (h : p.Sinks i) (hback : p.place (i + 1) + p.lack = p.place i) :
    p.Sinks (i + 1) := by
  have hplace := place_of_sinks h
  rw [Sinks, Nat.succ_mul]
  omega

/-- The step of a key's probe is odd. -/
theorem odd_step_ofKey (key : Key) : Odd (ofKey key).step.toNat := by
  rw [Nat.odd_iff, ofKey, UInt64.toNat_or]
  exact Nat.or_mod_two_eq_one.mpr (.inr rfl)

/-! ### Walks that stay in one slot -/

variable {slots n : Nat}

/-- Two places in a row are the same slot only if the slots divide the way between them. -/
theorem dvd_of_place_succ (h : p.place (i + 1) % slots = p.place i % slots) :
    p.place (i + 1) = p.place i + p.step.toNat ∧ slots ∣ p.step.toNat ∨
      p.place (i + 1) + p.lack = p.place i ∧ slots ∣ p.lack := by
  rcases p.place_succ i with hup | hback
  · refine .inl ⟨hup, ?_⟩
    rw [hup] at h
    simpa using (Nat.modEq_iff_dvd' (Nat.le_add_right _ _)).mp h.symm
  · refine .inr ⟨hback, ?_⟩
    rw [← hback] at h
    simpa using (Nat.modEq_iff_dvd' (Nat.le_add_right _ _)).mp h

/-- Two slots or more do not divide both an odd step and what it lacks. -/
theorem not_dvd_lack (hodd : Odd p.step.toNat) (hslots : 2 ≤ slots) (h : slots ∣ p.step.toNat) :
    ¬slots ∣ p.lack := by
  intro hlack
  have hturn : slots ∣ 2 ^ 64 := p.step_add_lack ▸ Nat.dvd_add h hlack
  have hcoprime : Nat.Coprime slots (2 ^ 64) :=
    ((Nat.coprime_two_right.mpr hodd).coprime_dvd_left h).pow_right 64
  have hone := hcoprime.eq_one_of_dvd hturn
  omega

/-- A walk that climbs in one slot: its step is a number of whole rounds of the slots. -/
theorem place_mod_of_climbs (h : p.Climbs i) (hstep : slots ∣ p.step.toNat) :
    p.place i % slots = p.start.toNat % slots := by
  obtain ⟨rounds, hrounds⟩ := hstep.mul_left i
  rw [place_of_climbs h, hrounds, Nat.add_mul_mod_self_left]

/-- A walk that sinks in one slot. -/
theorem place_mod_of_sinks (h : p.Sinks i) (hlack : slots ∣ p.lack) :
    p.place i % slots = p.start.toNat % slots := by
  obtain ⟨rounds, hrounds⟩ := hlack.mul_left i
  rw [← place_of_sinks h, hrounds, Nat.add_mul_mod_self_left]

/-- A walk that stays in one slot climbs if the slots divide the step, since they do not divide what
it lacks. -/
theorem climbs_of_dvd (hodd : Odd p.step.toNat) (hslots : 2 ≤ slots) (hstep : slots ∣ p.step.toNat)
    (hrow : ∀ i < n, p.place (i + 1) % slots = p.place i % slots) : p.Climbs n := by
  induction n with
  | zero => simpa [Climbs] using p.start.toNat_lt
  | succ n ih =>
      have hclimbs := ih fun i hi => hrow i (by omega)
      rcases dvd_of_place_succ (hrow n n.lt_succ_self) with ⟨hup, -⟩ | ⟨-, hlack⟩
      · exact hclimbs.succ hup
      · exact absurd hlack (not_dvd_lack hodd hslots hstep)

/-- A walk that stays in one slot sinks if the slots divide what the step lacks. -/
theorem sinks_of_dvd (hodd : Odd p.step.toNat) (hslots : 2 ≤ slots) (hlack : slots ∣ p.lack)
    (hrow : ∀ i < n, p.place (i + 1) % slots = p.place i % slots) : p.Sinks n := by
  induction n with
  | zero => simp [Sinks]
  | succ n ih =>
      have hsinks := ih fun i hi => hrow i (by omega)
      rcases dvd_of_place_succ (hrow n n.lt_succ_self) with ⟨-, hstep⟩ | ⟨hback, -⟩
      · exact absurd hlack (not_dvd_lack hodd hslots hstep)
      · exact hsinks.succ hback

/-- **A walk stays in one slot exactly if** it climbs by whole rounds of the slots, or sinks by whole
rounds of them. -/
theorem place_mod_eq_iff (hodd : Odd p.step.toNat) (hslots : 2 ≤ slots) (hn : 1 ≤ n) :
    (∀ i ≤ n, p.place i % slots = p.start.toNat % slots) ↔
      slots ∣ p.step.toNat ∧ p.Climbs n ∨ slots ∣ p.lack ∧ p.Sinks n := by
  constructor
  · intro hsame
    have hrow : ∀ i < n, p.place (i + 1) % slots = p.place i % slots :=
      fun i hi => (hsame (i + 1) hi).trans (hsame i hi.le).symm
    -- The first step decides which way the walk goes.
    rcases dvd_of_place_succ (hrow 0 hn) with ⟨-, hstep⟩ | ⟨-, hlack⟩
    · exact .inl ⟨hstep, climbs_of_dvd hodd hslots hstep hrow⟩
    · exact .inr ⟨hlack, sinks_of_dvd hodd hslots hlack hrow⟩
  · rintro (⟨hstep, hclimbs⟩ | ⟨hlack, hsinks⟩) i hi
    · exact place_mod_of_climbs (hclimbs.mono hi) hstep
    · exact place_mod_of_sinks (hsinks.mono hi) hlack

end Probe

/-! ### Positions -/

namespace Shape

variable {shape : Shape} {key : Key}

/-- The positions of a key **collapse** if they are all the same slot. -/
def Collapses (shape : Shape) (key : Key) : Prop :=
  ∀ slot ∈ shape.positions key, ∀ other ∈ shape.positions key, slot = other

instance : Decidable (shape.Collapses key) :=
  inferInstanceAs (Decidable (∀ slot ∈ shape.positions key, ∀ other ∈ shape.positions key, _))

/-- The positions of a key are the places of its walk, brought into the range of the slots. -/
theorem positions_eq (shape : Shape) (key : Key) :
    shape.positions key =
      (List.range shape.hashes).map fun i => (shape.probe key).place i % shape.slots := by
  refine List.map_congr_left fun i _ => ?_
  rw [UInt64.toNat_add, UInt64.toNat_mul, UInt64.toNat_ofNat', Nat.mod_mul_mod, Nat.add_mod_mod]
  rfl

/-- Positions collapse if all of them are the first one. -/
theorem collapses_iff_place (shape : Shape) (key : Key) :
    shape.Collapses key ↔ ∀ i ≤ shape.hashes - 1,
      (shape.probe key).place i % shape.slots = (shape.probe key).start.toNat % shape.slots := by
  have hpos := shape.hashes_pos
  have hposition : ∀ i ≤ shape.hashes - 1,
      (shape.probe key).place i % shape.slots ∈ shape.positions key := by
    intro i hi
    rw [positions_eq]
    exact List.mem_map_of_mem (List.mem_range.mpr (by omega))
  constructor
  · intro h i hi
    have hfirst := h _ (hposition i hi) _ (hposition 0 (Nat.zero_le _))
    rwa [Probe.place_zero] at hfirst
  · intro h slot hslot other hother
    rw [positions_eq] at hslot hother
    obtain ⟨i, hi, rfl⟩ := List.mem_map.mp hslot
    obtain ⟨j, hj, rfl⟩ := List.mem_map.mp hother
    rw [List.mem_range] at hi hj
    rw [h i (by omega), h j (by omega)]

/-- **Where positions collapse.** Take any filter with two slots and two positions or more, and any key
whose step is odd, as the steps of all keys are. The positions collapse exactly if the slots divide
the step and the walk climbs all the way, or the slots divide what the step lacks and the walk sinks
all the way. So they never collapse if the number of slots is even. -/
theorem collapses_iff_divides (hodd : Odd (shape.probe key).step.toNat) (hslots : 2 ≤ shape.slots)
    (hhashes : 2 ≤ shape.hashes) :
    (shape.Collapses key ↔
      shape.slots ∣ (shape.probe key).step.toNat ∧ (shape.probe key).Climbs (shape.hashes - 1) ∨
        shape.slots ∣ (shape.probe key).lack ∧ (shape.probe key).Sinks (shape.hashes - 1)) ∧
      (Even shape.slots → ¬shape.Collapses key) := by
  have hiff := (collapses_iff_place shape key).trans
    (Probe.place_mod_eq_iff hodd hslots (by omega : 1 ≤ shape.hashes - 1))
  refine ⟨hiff, fun heven hcollapses => ?_⟩
  have hturn := (shape.probe key).step_add_lack
  obtain ⟨half, hhalf⟩ := heven.two_dvd
  obtain ⟨k, hk⟩ := hodd
  rcases hiff.mp hcollapses with ⟨⟨rounds, hstep⟩, -⟩ | ⟨⟨rounds, hlack⟩, -⟩
  · rw [hhalf, Nat.mul_assoc] at hstep
    omega
  · rw [hhalf, Nat.mul_assoc] at hlack
    omega

/-- The shape for one key at a rate of 0.3, with its sizes given as numbers. -/
def sized (slots hashes : Nat) (hslots : 0 < slots) (hhashes : 0 < hashes) : Shape :=
  { ofRate 1 0.3 with slots, hashes, slots_pos := hslots, hashes_pos := hhashes }

/-- A walk that passes the end of the ring with its only step, and by a multiple of three. -/
theorem collapses_of_sinks : (sized 3 2 (by decide) (by decide)).Collapses [0x61] := by
  have hlack : 3 ∣ (Probe.ofKey [0x61]).lack := by decide +kernel
  have hsinks : (Probe.ofKey [0x61]).Sinks 1 := by decide +kernel
  exact (@collapses_iff_divides (sized 3 2 (by decide) (by decide)) [0x61]
    (Probe.odd_step_ofKey _) (Nat.le_succ 2) (Nat.le_refl 2)).1.mpr (.inr ⟨hlack, hsinks⟩)

/-- **An odd step does not keep positions apart.** It is not true of every filter with two slots and two
positions or more that the positions of a key are never all the same slot. One key at a rate of 0.3
asks for three slots and two positions, and there the positions of the key `a` are the same. -/
theorem not_spread_out :
    ¬∀ (shape : Shape) (key : Key), shape.probe = Probe.ofKey → 2 ≤ shape.slots →
      2 ≤ shape.hashes → ¬shape.Collapses key := by
  intro hall
  have hcollapses : (sized 3 2 (by decide) (by decide)).Collapses [0x61] := by decide +kernel
  exact hall _ [0x61] rfl (Nat.le_succ 2) (Nat.le_refl 2) hcollapses

end Shape

end BucketStore.Filter
