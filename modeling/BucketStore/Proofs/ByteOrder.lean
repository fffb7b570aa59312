import BucketStore.Text.Utf8
import Mathlib.Tactic.SplitIfs

/-!
# The Order of Bytes

Texts are ordered by their characters, from the first one on. Their UTF-8 bytes are ordered in the
same way: a greater character never takes fewer bytes, its first byte is greater if it takes more,
and where two characters take the same number of bytes, these are their digits in base 64 but for
constants.

## Main results

* `utf8EncodeChar_append_lt`: characters, whatever follows them.
* `encode_lt_encode`: texts.
-/

namespace BucketStore.Text

/-- Of two numbers, the smaller one has the smaller head in base 64, or the same head and the
smaller last digit. -/
theorem digits_lt {m n : Nat} (h : m < n) :
    m / 64 < n / 64 ∨ m / 64 = n / 64 ∧ m % 64 < n % 64 := by
  omega

/-- Two numbers are compared by their digits in base 64. -/
theorem digits_lex {m n : Nat} (h : m < n) :
    m / 262144 < n / 262144 ∨ m / 262144 = n / 262144 ∧
      (m / 4096 % 64 < n / 4096 % 64 ∨ m / 4096 % 64 = n / 4096 % 64 ∧
        (m / 64 % 64 < n / 64 % 64 ∨ m / 64 % 64 = n / 64 % 64 ∧ m % 64 < n % 64)) := by
  have h4096 : ∀ k : Nat, k / 4096 = k / 64 / 64 := fun k => by omega
  have h262144 : ∀ k : Nat, k / 262144 = k / 64 / 64 / 64 := fun k => by omega
  rw [h4096, h4096, h262144, h262144]
  rcases digits_lt h with hhead | ⟨hhead, hlast⟩
  · rcases digits_lt hhead with hhead | ⟨hhead, hlast⟩
    · rcases digits_lt hhead with hhead | ⟨hhead, hlast⟩
      · exact .inl hhead
      · exact .inr ⟨hhead, .inl hlast⟩
    · rw [hhead]
      exact .inr ⟨rfl, .inr ⟨rfl, .inl hlast⟩⟩
  · rw [hhead]
    exact .inr ⟨rfl, .inr ⟨rfl, .inr ⟨rfl, hlast⟩⟩⟩

/-- **The bytes of a smaller character are smaller**, whatever follows. -/
theorem utf8EncodeChar_append_lt {c d : Char} (h : c < d) (x y : List UInt8) :
    String.utf8EncodeChar c ++ x < String.utf8EncodeChar d ++ y := by
  have hlt : c.val.toNat < d.val.toNat := h
  have hvalid : d.val.toNat < 0x110000 := by
    have hd := d.valid
    simp only [UInt32.isValidChar, Nat.isValidChar] at hd
    omega
  simp only [String.utf8EncodeChar]
  generalize c.val.toNat = m at hlt
  generalize d.val.toNat = n at hlt hvalid
  have hdigits := digits_lex hlt
  have hbyte : ∀ {k : Nat}, k < 256 → (UInt8.ofNat k).toNat = k :=
    fun hk => UInt8.toNat_ofNat_of_lt' hk
  have hm : m / 262144 % 8 = m / 262144 := Nat.mod_eq_of_lt (by omega)
  have hn : n / 262144 % 8 = n / 262144 := Nat.mod_eq_of_lt (by omega)
  -- One case for each pair of lengths. The lengths are told apart by the ranges of the numbers, so
  -- in all of them nothing but arithmetic is left of the comparison.
  split_ifs
  all_goals
    simp only [List.cons_append, List.nil_append, List.cons_lt_cons_iff, UInt8.lt_iff_toNat_lt,
      ← UInt8.toNat_inj]
    simp (disch := omega) only [hm, hn, hbyte]
    omega

/-- **The bytes of a smaller text are smaller.** -/
theorem encode_lt_encode {s t : List Char} (h : s < t) : encode s < encode t := by
  induction s generalizing t with
  | nil =>
      cases t with
      | nil => exact absurd h (List.lt_irrefl _)
      | cons d rest =>
          have hne : String.utf8EncodeChar d ≠ [] := String.utf8EncodeChar_ne_nil
          obtain ⟨b, bytes, hbytes⟩ := List.exists_cons_of_ne_nil hne
          simp only [encode, List.flatMap_nil, List.flatMap_cons, hbytes, List.cons_append]
          exact List.nil_lt_cons ..
  | cons c rest ih =>
      cases t with
      | nil => exact absurd h (List.not_lt_nil _)
      | cons d rest' =>
          rcases List.cons_lt_cons_iff.mp h with hfirst | ⟨rfl, hrest⟩
          · exact utf8EncodeChar_append_lt hfirst _ _
          · exact List.append_left_lt (ih hrest)

end BucketStore.Text
