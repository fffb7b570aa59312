import BucketStore.Text.Utf8
import Mathlib.Tactic.SplitIfs

/-!
# Reading Back What Was Written

The UTF-8 bytes of a text are read as the text itself (`decodeLossy_encode`): of the replacement
characters that reading may put in there is none. A character of two bytes or more is its digits in
base 64 but for constants, the first byte being the head and each byte after it one digit more. So
what the decoder has put together after each byte is the character divided by a power of 64.

The first byte also says how many bytes are due, and narrows down the second one where the head
alone could be that of a shorter form, of a surrogate, or of a number that is too great. Characters
are none of these, so their second bytes are among those that are let through.
-/

namespace BucketStore.Text

namespace DecodeState

variable {b low high n : Nat}

/-- Reading one byte after the other. -/
theorem run_cons (q : DecodeState) (b : UInt8) (bs : List UInt8) :
    q.run (b :: bs) = (q.step b.toNat).1 ++ (q.step b.toNat).2.run bs := by
  cases q <;> rfl

/-- Reading a byte that was written for a number. -/
theorem run_ofNat_cons (q : DecodeState) (hb : b < 256) (bs : List UInt8) :
    q.run (UInt8.ofNat b :: bs) = (q.step b).1 ++ (q.step b).2.run bs := by
  rw [run_cons, UInt8.toNat_ofNat_of_lt' hb]

/-- Inside a sequence, the next digit in base 64 joins the digits before it. -/
theorem run_next (owed : Nat) (hlow : low ≤ n % 64 + 0x80) (hhigh : n % 64 + 0x80 ≤ high)
    (bs : List UInt8) :
    (within (n / 64) (owed + 1) low high).run (UInt8.ofNat (n % 64 + 0x80) :: bs) =
      (within n owed 0x80 0xBF).run bs := by
  have hjoined : n / 64 * 64 + (n % 64 + 0x80 - 0x80) = n := by omega
  rw [run_ofNat_cons _ (by omega), step, if_pos ⟨hlow, hhigh⟩, hjoined]
  rfl

/-- The last digit in base 64 completes the character. -/
theorem run_last (hlow : low ≤ n % 64 + 0x80) (hhigh : n % 64 + 0x80 ≤ high) (bs : List UInt8) :
    (within (n / 64) 0 low high).run (UInt8.ofNat (n % 64 + 0x80) :: bs) =
      Char.ofNat n :: start.run bs := by
  have hjoined : n / 64 * 64 + (n % 64 + 0x80 - 0x80) = n := by omega
  rw [run_ofNat_cons _ (by omega), step, if_pos ⟨hlow, hhigh⟩, hjoined]
  rfl

/-! ### First bytes -/

/-- The first byte of two. -/
theorem enter_two (hlow : 0x80 ≤ n) (hhigh : n ≤ 0x7FF) :
    enter (n / 64 + 0xC0) = ([], within (n / 64) 0 0x80 0xBF) := by
  rw [enter, if_neg (by omega), if_neg (by omega), if_pos (by omega), Nat.add_sub_cancel]

/-- The first byte of three lets the second one through that a character has. -/
theorem enter_three (hlow : 0x800 ≤ n) (hhigh : n ≤ 0xFFFF) (hvalid : n < 0xD800 ∨ 0xDFFF < n) :
    ∃ low high, enter (n / 64 / 64 + 0xE0) = ([], within (n / 64 / 64) 1 low high) ∧
      low ≤ n / 64 % 64 + 0x80 ∧ n / 64 % 64 + 0x80 ≤ high := by
  by_cases hzero : n / 64 / 64 = 0
  · rw [hzero]
    exact ⟨0xA0, 0xBF, rfl, by omega, by omega⟩
  · by_cases hsurrogate : n / 64 / 64 = 0xD
    · rw [hsurrogate]
      exact ⟨0x80, 0x9F, rfl, by omega, by omega⟩
    · refine ⟨0x80, 0xBF, ?_, by omega, by omega⟩
      rw [enter, if_neg (by omega), if_neg (by omega), if_neg (by omega), if_neg (by omega),
        if_neg (by omega), if_pos (by omega), Nat.add_sub_cancel]

/-- The first byte of four lets the second one through that a character has. -/
theorem enter_four (hlow : 0x10000 ≤ n) (hhigh : n < 0x110000) :
    ∃ low high, enter (n / 64 / 64 / 64 + 0xF0) = ([], within (n / 64 / 64 / 64) 2 low high) ∧
      low ≤ n / 64 / 64 % 64 + 0x80 ∧ n / 64 / 64 % 64 + 0x80 ≤ high := by
  by_cases hzero : n / 64 / 64 / 64 = 0
  · rw [hzero]
    exact ⟨0x90, 0xBF, rfl, by omega, by omega⟩
  · by_cases hgreatest : n / 64 / 64 / 64 = 4
    · rw [hgreatest]
      exact ⟨0x80, 0x8F, rfl, by omega, by omega⟩
    · refine ⟨0x80, 0xBF, ?_, by omega, by omega⟩
      rw [enter, if_neg (by omega), if_neg (by omega), if_neg (by omega), if_neg (by omega),
        if_neg (by omega), if_neg (by omega), if_neg (by omega), if_pos (by omega),
        Nat.add_sub_cancel]

/-! ### Characters -/

/-- **The bytes of a character are read as the character**, whatever follows. -/
theorem run_utf8EncodeChar (c : Char) (bs : List UInt8) :
    start.run (String.utf8EncodeChar c ++ bs) = c :: start.run bs := by
  have hvalid : c.val.toNat < 0xD800 ∨ 0xDFFF < c.val.toNat ∧ c.val.toNat < 0x110000 := c.valid
  have hchar : Char.ofNat c.val.toNat = c := Char.ofNat_toNat c
  have h4096 : ∀ k : Nat, k / 4096 = k / 64 / 64 := fun k => by omega
  have h262144 : ∀ k : Nat, k / 262144 = k / 64 / 64 / 64 := fun k => by omega
  simp only [String.utf8EncodeChar, h4096, h262144]
  generalize c.val.toNat = n at hvalid hchar
  subst hchar
  split_ifs with hone htwo hthree
  · rw [List.singleton_append, run_ofNat_cons _ (by omega), step, enter, if_pos (by omega)]
    rfl
  · have hhead : n / 64 % 0x20 = n / 64 := Nat.mod_eq_of_lt (by omega)
    rw [hhead, List.cons_append, List.singleton_append, run_ofNat_cons _ (by omega), step,
      enter_two (by omega) htwo]
    exact run_last (by omega) (by omega) bs
  · have hhead : n / 64 / 64 % 0x10 = n / 64 / 64 := Nat.mod_eq_of_lt (by omega)
    obtain ⟨low, high, henter, hlow, hhigh⟩ := enter_three (by omega) hthree (by omega)
    rw [hhead, List.cons_append, List.cons_append, List.singleton_append,
      run_ofNat_cons _ (by omega), step, henter, List.nil_append, run_next 0 hlow hhigh]
    exact run_last (by omega) (by omega) bs
  · have hhead : n / 64 / 64 / 64 % 0x08 = n / 64 / 64 / 64 := Nat.mod_eq_of_lt (by omega)
    obtain ⟨low, high, henter, hlow, hhigh⟩ := enter_four (n := n) (by omega) (by omega)
    rw [hhead, List.cons_append, List.cons_append, List.cons_append, List.singleton_append,
      run_ofNat_cons _ (by omega), step, henter, List.nil_append, run_next 1 hlow hhigh,
      run_next 0 (by omega) (by omega)]
    exact run_last (by omega) (by omega) bs

end DecodeState

/-- **The bytes of a text are read as the text.** -/
theorem decodeLossy_encode (s : List Char) : decodeLossy (encode s) = s := by
  induction s with
  | nil => rfl
  | cons c rest ih =>
      rw [decodeLossy, encode] at ih ⊢
      rw [List.flatMap_cons, DecodeState.run_utf8EncodeChar, ih]

end BucketStore.Text
