import BucketStore.Proofs.KeptTallies
import Mathlib.Data.Nat.Digits.Defs

/-!
# The Grammar of Tallies

A value **spells** a number if it is an optional sign and a row of digits, one at least and the most
significant one first (`Tally.Spells`). A tally is read from exactly the values that spell a number of
64 bits with a sign; what else a value may be, and a number that does not fit, is no tally. The bounds
are told from the number and not from its digits, so that the least one needs no case of its own,
and leading zeros may be as many as there are.

Of the spellings of a number one is **canonical** (`Tally.Canonical`): it has no plus sign, and it
starts with a zero only if this is all that it is. This is the one that is written. A change of a
tally by nothing thus does not leave the value as it was, but rewrites it.

## Main results

* `natural?_eq_some_iff`, `integer?_eq_some_iff`: the values that spell a number.
* `ofValue?_eq_some_iff`: the values that are read as a tally.
* `canonical_toValue`: what is written is canonical.
* `tally_texts`: reading, writing, and what changes make of a stored text.
-/

namespace BucketStore

namespace Tally

/-! ### Spellings -/

/-- What may stand before the digits of a number. -/
inductive Sign where
  /-- Nothing. -/
  | absent
  /-- A plus sign. -/
  | plus
  /-- A minus sign. -/
  | minus
  deriving DecidableEq

/-- A sign as it is written. -/
def Sign.bytes : Sign → List UInt8
  | .absent => []
  | .plus => [0x2B]
  | .minus => [0x2D]

/-- The number that a sign makes of the number behind it. -/
def Sign.apply : Sign → Nat → Int
  | .minus, n => -(n : Int)
  | _, n => n

/-- A digit as it is written. -/
def digitByte (d : Fin 10) : UInt8 :=
  UInt8.ofNat (0x30 + d)

/-- The number that a row of digits stands for: each digit counts ten times what it would count one
place further on. -/
def placeValue (ds : List (Fin 10)) : Nat :=
  Nat.ofDigits 10 (ds.map Fin.val).reverse

/-- A value **spells** a number if it is a sign and a row of digits that stand for the number. -/
def Spells (value : Value) (n : Int) : Prop :=
  ∃ (sign : Sign) (ds : List (Fin 10)),
    ds ≠ [] ∧ value = sign.bytes ++ ds.map digitByte ∧ n = sign.apply (placeValue ds)

/-- A spelling is **canonical** if it has no plus sign, and starts with a zero only if it is that of
zero. -/
def Canonical (value : Value) : Prop :=
  ∃ (sign : Sign) (ds : List (Fin 10)),
    ds ≠ [] ∧ value = sign.bytes ++ ds.map digitByte ∧ sign ≠ .plus ∧
      (ds.head? = some 0 → sign = .absent ∧ ds = [0])

variable {b : UInt8} {bytes : List UInt8} {value : Value} {k : Nat} {n : Int}

/-! ### Rows of digits -/

/-- The code of a digit as it is written. -/
theorem toNat_digitByte (d : Fin 10) : (digitByte d).toNat = 0x30 + d := by
  rw [digitByte, UInt8.toNat_ofNat']
  omega

/-- The bytes that are digits. -/
theorem isDigit_iff : isDigit b = true ↔ ∃ d, b = digitByte d := by
  simp only [isDigit, Bool.and_eq_true, decide_eq_true_eq, UInt8.le_iff_toNat_le]
  constructor
  · rintro ⟨hlow, hhigh⟩
    change 0x30 ≤ b.toNat at hlow
    change b.toNat ≤ 0x39 at hhigh
    refine ⟨⟨b.toNat - 0x30, by omega⟩, UInt8.toNat_inj.mp ?_⟩
    rw [toNat_digitByte]
    change b.toNat = 0x30 + (b.toNat - 0x30)
    omega
  · rintro ⟨d, rfl⟩
    rw [toNat_digitByte]
    exact ⟨Nat.le_add_right .., show 0x30 + d.val ≤ 0x39 by omega⟩

/-- The rows of bytes that are digits. -/
theorem all_isDigit_iff :
    bytes.all isDigit = true ↔ ∃ ds : List (Fin 10), bytes = ds.map digitByte := by
  rw [List.all_eq_true]
  constructor
  · intro h
    induction bytes with
    | nil => exact ⟨[], rfl⟩
    | cons b rest ih =>
        obtain ⟨d, rfl⟩ := isDigit_iff.mp (h b List.mem_cons_self)
        obtain ⟨ds, rfl⟩ := ih fun c hc => h c (List.mem_cons_of_mem _ hc)
        exact ⟨d :: ds, rfl⟩
  · rintro ⟨ds, rfl⟩ c hc
    obtain ⟨d, -, rfl⟩ := List.mem_map.mp hc
    exact isDigit_iff.mpr ⟨d, rfl⟩

/-- Reading digits one after the other comes to what they stand for. -/
theorem ofDigits_map_digitByte (ds : List (Fin 10)) :
    ofDigits (ds.map digitByte) = placeValue ds := by
  induction ds using List.reverseRecOn with
  | nil => rfl
  | append_singleton ds d ih =>
      rw [ofDigits] at ih
      rw [ofDigits, List.map_append, List.foldl_append, ih, placeValue, placeValue, List.map_append,
        List.reverse_append, List.map_singleton, List.map_singleton, List.reverse_singleton,
        List.singleton_append, Nat.ofDigits_cons, List.foldl_cons, List.foldl_nil, toNat_digitByte]
      omega

/-- **The rows of bytes that stand for a number** are those of one digit or more. -/
theorem natural?_eq_some_iff :
    natural? bytes = some k ↔ ∃ ds, ds ≠ [] ∧ bytes = ds.map digitByte ∧ k = placeValue ds := by
  rw [natural?]
  constructor
  · intro h
    obtain ⟨⟨hne, hall⟩, hk⟩ := Option.ite_none_right_eq_some.mp h
    obtain ⟨ds, rfl⟩ := all_isDigit_iff.mp hall
    refine ⟨ds, fun hds => hne (by rw [hds]; rfl), rfl, ?_⟩
    rw [← ofDigits_map_digitByte]
    exact (Option.some.inj hk).symm
  · rintro ⟨ds, hds, rfl, rfl⟩
    rw [if_pos ⟨mt List.map_eq_nil_iff.mp hds, all_isDigit_iff.mpr ⟨ds, rfl⟩⟩,
      ofDigits_map_digitByte]

/-! ### Reading -/

/-- A sign and digits spell what the sign makes of the number. -/
theorem spells_of_natural? (sign : Sign) (h : natural? bytes = some k) :
    Spells (sign.bytes ++ bytes) (sign.apply k) := by
  obtain ⟨ds, hds, rfl, rfl⟩ := natural?_eq_some_iff.mp h
  exact ⟨sign, ds, hds, rfl, rfl⟩

/-- **The values that stand for a number**, whatever its size, are those that spell it. -/
theorem integer?_eq_some_iff : integer? value = some n ↔ Spells value n := by
  constructor
  · intro h
    unfold integer? at h
    split at h
    · obtain ⟨k, hk, rfl⟩ := Option.map_eq_some_iff.mp h
      exact spells_of_natural? .plus hk
    · rename_i bytes
      cases hk : natural? bytes with
      | none =>
          rw [hk] at h
          cases h
      | some k =>
          rw [hk] at h
          obtain rfl := Option.some.inj h
          exact spells_of_natural? .minus hk
    · obtain ⟨k, hk, rfl⟩ := Option.map_eq_some_iff.mp h
      exact spells_of_natural? .absent hk
  · rintro ⟨sign, ds, hds, rfl, rfl⟩
    have hread := natural?_eq_some_iff.mpr ⟨ds, hds, rfl, rfl⟩
    cases sign with
    | absent =>
        obtain ⟨d, rest, rfl⟩ := List.exists_cons_of_ne_nil hds
        have hfirst : isDigit (digitByte d) = true := isDigit_iff.mpr ⟨d, rfl⟩
        simp only [Sign.bytes, List.nil_append, List.map_cons] at hread ⊢
        rw [integer?_of_isDigit hfirst, hread]
        rfl
    | plus =>
        simp only [Sign.bytes, List.singleton_append, integer?, hread]
        rfl
    | minus =>
        simp only [Sign.bytes, List.singleton_append, integer?, hread]
        rfl

/-- **The values that are read as a tally** spell a number of 64 bits with a sign. -/
theorem ofValue?_eq_some_iff :
    ofValue? value = some n ↔ Spells value n ∧ -2 ^ 63 ≤ n ∧ n < 2 ^ 63 := by
  rw [ofValue?, Option.filter_eq_some_iff, integer?_eq_some_iff, Bool.and_eq_true,
    decide_eq_true_eq, decide_eq_true_eq, least, greatest]
  refine and_congr_right fun _ => ?_
  omega

/-- All other values are no tallies. -/
theorem ofValue?_eq_none_iff :
    ofValue? value = none ↔ ¬∃ n, Spells value n ∧ -2 ^ 63 ≤ n ∧ n < 2 ^ 63 := by
  rw [Option.eq_none_iff_forall_ne_some, not_exists]
  exact forall_congr' fun n => not_congr ofValue?_eq_some_iff

/-! ### Writing -/

/-- A number below ten is written as one digit. -/
theorem digits_of_lt {n : Nat} (h : n < 10) : digits n = [digitByte ⟨n, h⟩] := by
  rw [digits, Nat.toDigits_of_lt_base h, List.map_singleton, Nat.toNat_digitChar_of_lt_ten h]
  rfl

/-- A greater number is written as its tens and one digit. -/
theorem digits_of_le {n : Nat} (h : 10 ≤ n) :
    digits n = digits (n / 10) ++ [digitByte ⟨n % 10, Nat.mod_lt n (by decide)⟩] := by
  rw [digits, digits, Nat.toDigits_of_base_le (by decide) h, List.map_append, List.map_singleton,
    Nat.toNat_digitChar_of_lt_ten (Nat.mod_lt n (by decide))]
  rfl

/-- The digits of a number start with a zero only if the number is zero, and then this is all. -/
theorem digits_eq_map (n : Nat) :
    ∃ ds : List (Fin 10), ds ≠ [] ∧ digits n = ds.map digitByte ∧
      (ds.head? = some 0 → n = 0 ∧ ds = [0]) := by
  induction n using Nat.strongRecOn with
  | _ n ih =>
      by_cases hlt : n < 10
      · refine ⟨[⟨n, hlt⟩], List.cons_ne_nil _ _, digits_of_lt hlt, fun hzero => ?_⟩
        obtain rfl : n = 0 := congrArg Fin.val (Option.some.inj hzero)
        exact ⟨rfl, rfl⟩
      · obtain ⟨ds, hds, htens, hfirst⟩ := ih (n / 10) (by omega)
        refine ⟨ds ++ [⟨n % 10, Nat.mod_lt n (by decide)⟩],
          List.append_ne_nil_of_left_ne_nil hds _, ?_, fun hzero => ?_⟩
        · rw [digits_of_le (Nat.le_of_not_lt hlt), htens, List.map_append, List.map_singleton]
        · rw [List.head?_append_of_ne_nil _ hds] at hzero
          have htens := (hfirst hzero).1
          omega

/-- **What is written is canonical.** -/
theorem canonical_toValue (n : Int) : Canonical (toValue n) := by
  obtain ⟨ds, hds, hdigits, hzero⟩ := digits_eq_map n.natAbs
  rw [toValue, hdigits]
  by_cases hneg : n < 0
  · rw [if_pos hneg]
    exact ⟨.minus, ds, hds, rfl, by decide, fun h => absurd (hzero h).1 (by omega)⟩
  · rw [if_neg hneg]
    exact ⟨.absent, ds, hds, rfl, by decide, fun h => ⟨rfl, (hzero h).2⟩⟩

/-- Different numbers are written differently, whatever their size. -/
theorem toValue_injective : Function.Injective toValue := by
  intro m n h
  have hread := integer?_toValue m
  rw [h, integer?_toValue] at hread
  exact (Option.some.inj hread).symm

end Tally

/-! ### Stored texts -/

/-- Adding nothing to a tally leaves the number as it is. -/
theorem Adjustment.apply_up_zero {n : Int} (h : n ≤ Tally.greatest) : (up 0).apply n = n := by
  have hgreatest : 0 ≤ Tally.greatest := by decide
  simp only [apply]
  omega

namespace Backend

variable {b : Backend} {key : Key} {value : Value} {n : Int}

/-- A change that succeeds leaves the text of the number that it gives. -/
theorem Intact.valueOf_of_adjust (hb : b.Intact) {change : Adjustment} {create : Bool}
    (h : (b.serve (.adjust change create key)).1 = .ok (.tally n)) :
    (b.serve (.adjust change create key)).2.store.valueOf b.active key =
      some (Tally.toValue n) := by
  obtain ⟨hanswer, hleft⟩ := hb.serve_adjust change create key
  rw [hanswer] at h
  cases ho : change.outcome create b.active key (b.store.valueOf b.active key) with
  | error e =>
      rw [ho] at h
      cases h
  | ok m =>
      rw [ho] at h
      cases h
      exact hleft n ho

/-- **A change by nothing** of a stored number gives the number, and leaves its canonical text. -/
theorem Intact.serve_adjust_zero (hb : b.Intact)
    (hvalue : b.store.valueOf b.active key = some value) (hread : Tally.ofValue? value = some n)
    (create : Bool) :
    (b.serve (.adjust (.up 0) create key)).1 = .ok (.tally n) ∧
      (b.serve (.adjust (.up 0) create key)).2.store.valueOf b.active key =
        some (Tally.toValue n) := by
  have hanswer := (hb.serve_adjust (.up 0) create key).1
  have happly := Adjustment.apply_up_zero (Tally.bounds_of_ofValue? hread).2
  simp only [hvalue, Adjustment.outcome, hread, happly] at hanswer
  exact ⟨hanswer, hb.valueOf_of_adjust hanswer⟩

open Tally in
/-- **The texts of tallies.** A value is read as a tally exactly if it spells a number of 64 bits with a
sign. Every such number is read back from the text that is written for it; this text is canonical,
and different numbers have different texts. In every reachable backend, a change of a tally that
succeeds leaves the text of the number that it gives; and adding nothing to any value that is read as
a tally gives the number that was read, and leaves its text. -/
theorem tally_texts :
    (∀ value n, ofValue? value = some n ↔ Spells value n ∧ -2 ^ 63 ≤ n ∧ n < 2 ^ 63) ∧
    (∀ value, ofValue? value = none ↔ ¬∃ n, Spells value n ∧ -2 ^ 63 ≤ n ∧ n < 2 ^ 63) ∧
    (∀ n, -2 ^ 63 ≤ n → n < 2 ^ 63 → ofValue? (toValue n) = some n) ∧
    (∀ n, Canonical (toValue n)) ∧
    Function.Injective toValue ∧
    ∀ shape v path bucket b, (openWith shape v path bucket).1 = .ok b → ∀ requests key create,
      let b' := b.after requests
      (∀ change n, (b'.serve (.adjust change create key)).1 = .ok (.tally n) →
        (b'.serve (.adjust change create key)).2.store.valueOf b'.active key =
          some (toValue n)) ∧
      ∀ value n, b'.store.valueOf b'.active key = some value → ofValue? value = some n →
        (b'.serve (.adjust (.up 0) create key)).1 = .ok (.tally n) ∧
          (b'.serve (.adjust (.up 0) create key)).2.store.valueOf b'.active key =
            some (toValue n) := by
  refine ⟨fun _ _ => ofValue?_eq_some_iff, fun _ => ofValue?_eq_none_iff, fun n hlow hhigh => ?_,
    canonical_toValue, toValue_injective, fun shape v path bucket b hopen requests key create => ?_⟩
  · refine ofValue?_toValue hlow ?_
    rw [greatest]
    omega
  · intro b'
    have hb : b'.Intact := (intact_of_openWith hopen).after requests
    exact ⟨fun _ _ => hb.valueOf_of_adjust,
      fun _ _ hvalue hread => hb.serve_adjust_zero hvalue hread create⟩

/-- Adding nothing to a number with a plus sign and two zeros in front. -/
theorem tally_texts_of_padded :
    ∃ b, (openWith .byLength (.holding .single) "kv" "b").1 = .ok b ∧
      let b' := b.after [.put .always [7] [0x2B, 0x30, 0x30, 0x37], .delete [8] true]
      let result := b'.serve (.adjust (.up 0) false [7])
      result.1 = .ok (.tally 7) ∧ result.2.store.valueOf b'.active [7] = some (Tally.toValue 7) := by
  have hrun : ((openWith .byLength (.holding .single) "kv" "b").1.toOption.map fun b =>
      let b' := b.after [.put .always [7] [0x2B, 0x30, 0x30, 0x37], .delete [8] true]
      b'.store.valueOf b'.active [7]) = some (some [0x2B, 0x30, 0x30, 0x37]) := by decide +kernel
  obtain ⟨b, hb, hvalue⟩ := Option.map_eq_some_iff.mp hrun
  have hopen := StoreError.eq_ok_of_toOption hb
  have hread : Tally.ofValue? [0x2B, 0x30, 0x30, 0x37] = some 7 := by decide
  exact ⟨b, hopen, (tally_texts.2.2.2.2.2 _ _ _ _ b hopen _ [7] false).2 _ _ hvalue hread⟩

end Backend

end BucketStore
