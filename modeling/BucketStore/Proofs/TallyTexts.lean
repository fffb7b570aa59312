import BucketStore.CommandLine.Command
import Mathlib.Algebra.Order.Group.Int

/-!
# Tallies and Their Texts

A number that is written as a tally is read back as the same number (`Tally.ofValue?_toValue`). The
digits are those of the standard library, each as one byte, so that reading them byte by byte comes
to `Nat.ofDigitChars`, and the text that is stored is the number as it is printed
(`Tally.bytes_toString`).
-/

namespace BucketStore.Tally

/-! ### Digits as bytes -/

/-- The code of a digit takes one byte. -/
theorem toNat_byte_of_isDigit {c : Char} (h : c.isDigit = true) :
    c.toNat.toUInt8.toNat = c.toNat ∧ 0x30 ≤ c.toNat ∧ c.toNat ≤ 0x39 := by
  have hrange : 0x30 ≤ c.toNat ∧ c.toNat ≤ 0x39 := Char.isDigit_iff_toNat.mp h
  refine ⟨?_, hrange⟩
  rw [Nat.toUInt8, UInt8.toNat_ofNat']
  omega

/-- The byte of a digit is a digit. -/
theorem isDigit_byte {c : Char} (h : c.isDigit = true) : isDigit c.toNat.toUInt8 = true := by
  obtain ⟨hbyte, hlow, hhigh⟩ := toNat_byte_of_isDigit h
  simp only [isDigit, Bool.and_eq_true, decide_eq_true_eq, UInt8.le_iff_toNat_le, hbyte]
  exact ⟨hlow, hhigh⟩

/-- Reading digits as bytes comes to reading them as characters. -/
theorem foldl_bytes {cs : List Char} (h : ∀ c ∈ cs, c.isDigit = true) (n : Nat) :
    (cs.map fun c => c.toNat.toUInt8).foldl (fun n b => n * 10 + (b.toNat - 0x30)) n =
      Nat.ofDigitChars 10 cs n := by
  induction cs generalizing n with
  | nil => rfl
  | cons c rest ih =>
      obtain ⟨hbyte, -, -⟩ := toNat_byte_of_isDigit (h c List.mem_cons_self)
      rw [List.map_cons, List.foldl_cons, hbyte, ih fun d hd => h d (List.mem_cons_of_mem c hd),
        Nat.ofDigitChars_cons, Nat.mul_comm]
      rfl

/-- A number has a digit. -/
theorem digits_ne_nil (n : Nat) : digits n ≠ [] := by
  rw [digits, ne_eq, List.map_eq_nil_iff]
  exact Nat.toDigits_ne_nil

/-- The digits of a number are digits. -/
theorem isDigit_of_mem_digits {n : Nat} {b : UInt8} (h : b ∈ digits n) : isDigit b = true := by
  obtain ⟨c, hc, rfl⟩ := List.mem_map.mp h
  exact isDigit_byte (Nat.isDigit_of_mem_toDigits (by decide) (by decide) hc)

/-- Digits stand for the number that they were made of. -/
theorem natural?_digits (n : Nat) : natural? (digits n) = some n := by
  have hdigits : ∀ c ∈ Nat.toDigits 10 n, c.isDigit = true :=
    fun c hc => Nat.isDigit_of_mem_toDigits (by decide) (by decide) hc
  have hall : (digits n).all isDigit = true :=
    List.all_eq_true.mpr fun b hb => isDigit_of_mem_digits hb
  have hvalue : ofDigits (digits n) = n := by
    rw [ofDigits, digits, foldl_bytes hdigits]
    exact Nat.ofDigitChars_toDigits (by decide) (by decide)
  rw [natural?, if_pos ⟨digits_ne_nil n, hall⟩, hvalue]

/-! ### Whole numbers -/

/-- A value that starts with a digit has no sign. -/
theorem integer?_of_isDigit {b : UInt8} {rest : List UInt8} (h : isDigit b = true) :
    integer? (b :: rest) = (natural? (b :: rest)).map Int.ofNat := by
  have hplus : b ≠ 0x2B := fun e => by simp [e, isDigit] at h
  have hminus : b ≠ 0x2D := fun e => by simp [e, isDigit] at h
  unfold integer?
  split
  · case _ rest' heq => exact absurd (List.cons.inj heq).1 hplus
  · case _ rest' heq => exact absurd (List.cons.inj heq).1 hminus
  · rfl

/-- **A number that is written can be read back**, whatever its size. -/
theorem integer?_toValue (n : Int) : integer? (toValue n) = some n := by
  rw [toValue]
  by_cases hneg : n < 0
  · rw [if_pos hneg]
    have hread : integer? (0x2D :: digits n.natAbs) = some (-(n.natAbs : Int)) := by
      simp [integer?, natural?_digits]
    rw [hread]
    exact congrArg some (by omega)
  · rw [if_neg hneg]
    obtain ⟨b, rest, hdigits⟩ := List.exists_cons_of_ne_nil (digits_ne_nil n.natAbs)
    have hfirst : isDigit b = true :=
      isDigit_of_mem_digits (hdigits ▸ List.mem_cons_self : b ∈ digits n.natAbs)
    rw [hdigits, integer?_of_isDigit hfirst, ← hdigits, natural?_digits, Option.map_some]
    exact congrArg some (by simp only [Int.ofNat_eq_natCast]; omega)

/-- A tally that is written can be read back. -/
theorem ofValue?_toValue {n : Int} (hlow : least ≤ n) (hhigh : n ≤ greatest) :
    ofValue? (toValue n) = some n := by
  rw [ofValue?, integer?_toValue, Option.filter_some, if_pos]
  simp [hlow, hhigh]

/-- A value that is read as a tally is within the bounds. -/
theorem bounds_of_ofValue? {value : Value} {n : Int} (h : ofValue? value = some n) :
    least ≤ n ∧ n ≤ greatest := by
  obtain ⟨-, hbounds⟩ := Option.filter_eq_some_iff.mp h
  simpa using hbounds

/-! ### Printed numbers -/

/-- A digit is one byte. -/
theorem utf8EncodeChar_of_isDigit {c : Char} (h : c.isDigit = true) :
    String.utf8EncodeChar c = [c.toNat.toUInt8] := by
  obtain ⟨-, -, hhigh⟩ := toNat_byte_of_isDigit h
  have hascii : c.val.toNat ≤ 127 := by
    have hval : c.toNat = c.val.toNat := rfl
    omega
  simp only [String.utf8EncodeChar, hascii, if_true]
  rfl

/-- The bytes of digits. -/
theorem encode_of_isDigit {cs : List Char} (h : ∀ c ∈ cs, c.isDigit = true) :
    Text.encode cs = cs.map fun c => c.toNat.toUInt8 := by
  induction cs with
  | nil => rfl
  | cons c rest ih =>
      have hrest := ih fun d hd => h d (List.mem_cons_of_mem c hd)
      rw [Text.encode] at hrest ⊢
      rw [List.flatMap_cons, utf8EncodeChar_of_isDigit (h c List.mem_cons_self), hrest]
      rfl

/-- The bytes of a number's digits. -/
theorem encode_toDigits (n : Nat) : Text.encode (Nat.toDigits 10 n) = digits n :=
  encode_of_isDigit fun _ hc => Nat.isDigit_of_mem_toDigits (by decide) (by decide) hc

/-- **The number that is printed is the text that is stored.** -/
theorem bytes_toString (n : Int) : CommandLine.bytes (toString n) = toValue n := by
  cases n with
  | ofNat n =>
      have htext : (toString (Int.ofNat n)).toList = Nat.toDigits 10 n := String.toList_ofList
      rw [CommandLine.bytes, htext, encode_toDigits]
      rfl
  | negSucc n =>
      have htext : (toString (Int.negSucc n)).toList = '-' :: Nat.toDigits 10 (n + 1) := by
        change ("-" ++ String.ofList (Nat.toDigits 10 n.succ)).toList = _
        rw [String.toList_append, String.toList_ofList, String.toList_ofList]
        rfl
      rw [CommandLine.bytes, htext, toValue, if_pos (Int.negSucc_lt_zero n)]
      exact congrArg (0x2D :: ·) (encode_toDigits (n + 1))

end BucketStore.Tally
