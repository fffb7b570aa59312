import BucketStore.Proofs.Decoding
import BucketStore.StoreError
import Mathlib.Data.List.Basic

/-!
# Escaped Text Is Unambiguous

A key in a message is written character by character, and each character in one of three **forms**
(`Text.Form`): as itself, as a backslash and a letter of its own, or as its code point in braces. Which
of them it is hangs on the tables of printable and extending characters, and for some characters on
where they stand. Nothing of this is needed here but what no table can change: a control character,
a quote and a backslash are never written as themselves.

So a **writing** of a text (`Text.Writing`) may choose among the forms of each character anew. All the
same there is only one text that it is a writing of. No form is the beginning of another form, of
whatever character: what starts with a backslash tells by the next character which form it is, and the
closing brace ends a code point, since it is no digit. Nor does a text that looks like an escape
come to be mistaken for one, since its backslash is written as an escape.

Bytes that are no text are shown with replacement characters, and many of them alike. But a key that
is text is read as that text, so that two such keys are never shown alike.

## Main results

* `Form.unique`: a form can be told apart from whatever follows.
* `Writing.unique`: a writing has one text.
* `Writing.quotes`: every quote in a writing is escaped.
* `writing_escapeBare`: the texts of messages are writings.
* `display_unambiguous`: keys in messages.
-/

namespace BucketStore

namespace Text

/-! ### Forms and writings -/

/-- The control characters of ASCII. -/
def IsControl (c : Char) : Prop :=
  c.toNat < 0x20 ∨ c.toNat = 0x7F

/-- The quotation mark and the apostrophe. -/
def IsQuote (c : Char) : Prop :=
  c = '"' ∨ c = '\''

instance : DecidablePred IsControl :=
  fun c => inferInstanceAs (Decidable (c.toNat < 0x20 ∨ c.toNat = 0x7F))

instance : DecidablePred IsQuote :=
  fun c => inferInstanceAs (Decidable (c = '"' ∨ c = '\''))

/-- The characters that have a letter of their own behind the backslash, each with its letter. -/
def shortForms : List (Char × Char) :=
  [('\x00', '0'), ('\t', 't'), ('\r', 'r'), ('\n', 'n'), ('\\', '\\'), ('"', '"'), ('\'', '\'')]

/-- The **forms** of a character. -/
inductive Form (c : Char) : List Char → Prop
  /-- A character as itself. -/
  | plain (hcontrol : ¬IsControl c) (hquote : ¬IsQuote c) (hbackslash : c ≠ '\\') :
      Form c [c]
  /-- A backslash and the character's letter. -/
  | short {letter : Char} (hletter : (c, letter) ∈ shortForms) : Form c ['\\', letter]
  /-- The code point in braces. -/
  | coded : Form c (codePointForm c)

/-- A **writing** of a text is one form of each character. -/
inductive Writing : List Char → List Char → Prop
  /-- No text, no writing. -/
  | nil : Writing [] []
  /-- A form of the first character, and a writing of the others. -/
  | cons {c : Char} {s x y : List Char} (hform : Form c x) (hrest : Writing s y) :
      Writing (c :: s) (x ++ y)

/-- The **quote is escaped** where a writing of `s` has it between `before` and `after`: it stands for
a quote of the text, and the backslash before it belongs to nothing that is written before. -/
def QuoteEscaped (s before : List Char) (q : Char) (after : List Char) : Prop :=
  ∃ s₁ x₁ s₂, s = s₁ ++ q :: s₂ ∧ before = x₁ ++ ['\\'] ∧ Writing s₁ x₁ ∧ Writing s₂ after

variable {c d q : Char} {s t u v x y before after : List Char}

/-! ### Code points -/

/-- What stands in a numeral. -/
theorem digitChar_of_mem_toDigits {b n : Nat} (hb : 1 < b) (hc : c ∈ Nat.toDigits b n) :
    ∃ digit < b, c = Nat.digitChar digit := by
  induction n using Nat.strongRecOn with
  | _ n ih =>
      by_cases hlt : n < b
      · rw [Nat.toDigits_of_lt_base hlt] at hc
        exact ⟨n, hlt, List.mem_singleton.mp hc⟩
      · have hle := Nat.le_of_not_lt hlt
        rw [Nat.toDigits_of_base_le hb hle] at hc
        rcases List.mem_append.mp hc with hhead | hlast
        · exact ih (n / b) (Nat.div_lt_self (by omega) hb) hhead
        · exact ⟨n % b, Nat.mod_lt n (by omega), List.mem_singleton.mp hlast⟩

/-- The number that a hexadecimal digit stands for. -/
def hexDigit (c : Char) : Nat :=
  if c.toNat < 'a'.toNat then c.toNat - '0'.toNat else c.toNat - 'a'.toNat + 10

/-- Reading a numeral. -/
theorem hexDigit_toDigits (n : Nat) :
    (Nat.toDigits 16 n).foldl (fun value c => 16 * value + hexDigit c) 0 = n := by
  have hdigits : ∀ i : Fin 16, hexDigit (Nat.digitChar i) = i := by decide
  induction n using Nat.strongRecOn with
  | _ n ih =>
      by_cases hlt : n < 16
      · rw [Nat.toDigits_of_lt_base hlt, List.foldl_cons, List.foldl_nil, hdigits ⟨n, hlt⟩,
          Nat.mul_zero, Nat.zero_add]
      · have hlast := hdigits ⟨n % 16, Nat.mod_lt n (by decide)⟩
        rw [Nat.toDigits_of_base_le (by decide) (Nat.le_of_not_lt hlt), List.foldl_append,
          ih (n / 16) (by omega), List.foldl_cons, List.foldl_nil, hlast]
        exact Nat.div_add_mod n 16

/-- Numerals of different numbers are different. -/
theorem toDigits_injective : Function.Injective (Nat.toDigits 16) :=
  Function.LeftInverse.injective hexDigit_toDigits

/-- A code point in braces is made of characters that are neither controls nor quotes. -/
theorem not_control_of_mem_codePointForm (h : d ∈ codePointForm c) :
    ¬IsControl d ∧ ¬IsQuote d := by
  have hdigits : ∀ i : Fin 16, ¬IsControl (Nat.digitChar i) ∧ ¬IsQuote (Nat.digitChar i) := by
    decide
  simp only [codePointForm, List.mem_cons, List.mem_append, List.not_mem_nil, or_false] at h
  rcases h with rfl | rfl | rfl | h | rfl
  · decide
  · decide
  · decide
  · obtain ⟨digit, hlt, rfl⟩ := digitChar_of_mem_toDigits (by decide) h
    exact hdigits ⟨digit, hlt⟩
  · decide

/-- The closing brace is no digit. -/
theorem brace_not_mem_toDigits (n : Nat) : '\x7d' ∉ Nat.toDigits 16 n := by
  intro h
  have hdigits : ∀ i : Fin 16, '\x7d' ≠ Nat.digitChar i := by decide
  obtain ⟨digit, hlt, hbrace⟩ := digitChar_of_mem_toDigits (by decide) h
  exact hdigits ⟨digit, hlt⟩ hbrace

/-- A code point can be told apart from whatever follows. -/
theorem codePointForm_append_inj (h : codePointForm c ++ u = codePointForm d ++ v) :
    c = d ∧ u = v := by
  simp only [codePointForm, List.cons_append, List.append_assoc, List.nil_append, List.cons.injEq,
    true_and] at h
  have hlength := congrArg (List.idxOf '\x7d') h
  rw [List.idxOf_append_of_notMem (brace_not_mem_toDigits _), List.idxOf_cons_self,
    List.idxOf_append_of_notMem (brace_not_mem_toDigits _), List.idxOf_cons_self] at hlength
  obtain ⟨hdigits, hrest⟩ := List.append_inj h hlength
  exact ⟨Char.toNat_inj.mp (toDigits_injective hdigits), (List.cons.inj hrest).2⟩

/-! ### Telling forms apart -/

namespace Form

/-- A form is not empty. -/
theorem ne_nil (h : Form c x) : x ≠ [] := by
  cases h with
  | plain _ _ _ => exact List.cons_ne_nil _ _
  | short _ => exact List.cons_ne_nil _ _
  | coded => exact List.cons_ne_nil _ _

/-- No control character is left in a form. -/
theorem not_control (h : Form c x) (hd : d ∈ x) : ¬IsControl d := by
  cases h with
  | plain hcontrol _ _ => exact List.mem_singleton.mp hd ▸ hcontrol
  | short hletter =>
      have hletters : ∀ e ∈ shortForms, ¬IsControl e.2 := by decide
      rcases List.mem_cons.mp hd with rfl | hd
      · decide
      · exact List.mem_singleton.mp hd ▸ hletters _ hletter
  | coded => exact (not_control_of_mem_codePointForm hd).1

/-- A quote in a form stands behind a backslash, and is what is written. -/
theorem quote (h : Form c x) (hx : x = before ++ q :: after) (hq : IsQuote q) :
    c = q ∧ before = ['\\'] ∧ after = [] := by
  cases h with
  | plain _ hquote _ =>
      have hmem : q ∈ [c] := hx ▸ List.mem_append_right before List.mem_cons_self
      exact absurd (List.mem_singleton.mp hmem ▸ hq) hquote
  | short hletter =>
      have hletters : ∀ e ∈ shortForms, IsQuote e.2 → e.1 = e.2 := by decide
      match before with
      | [] =>
          obtain ⟨rfl, -⟩ := List.cons.inj hx
          exact absurd hq (by decide)
      | [_] =>
          obtain ⟨hslash, hx⟩ := List.cons.inj hx
          obtain ⟨rfl, rfl⟩ := List.cons.inj hx
          exact ⟨hletters _ hletter hq, by rw [hslash], rfl⟩
      | _ :: _ :: rest =>
          obtain ⟨-, hx⟩ := List.cons.inj hx
          obtain ⟨-, hx⟩ := List.cons.inj hx
          exact absurd hx.symm (List.append_ne_nil_of_right_ne_nil rest (List.cons_ne_nil _ _))
  | coded =>
      have hmem : q ∈ codePointForm c := hx ▸ List.mem_append_right before List.mem_cons_self
      exact absurd hq (not_control_of_mem_codePointForm hmem).2

/-- **A form can be told apart from whatever follows**, and has one character. -/
theorem unique (hc : Form c x) (hd : Form d y) (h : x ++ u = y ++ v) : c = d ∧ u = v := by
  have hletters : ∀ e ∈ shortForms, e.2 ≠ 'u' := by decide
  have hinj : ∀ e ∈ shortForms, ∀ e' ∈ shortForms, e.2 = e'.2 → e.1 = e'.1 := by decide
  cases hc with
  | plain _ _ hbackslash =>
      cases hd with
      | plain _ _ _ => exact List.cons.inj h
      | short _ => exact absurd (List.cons.inj h).1 hbackslash
      | coded => exact absurd (List.cons.inj h).1 hbackslash
  | short hletter =>
      cases hd with
      | plain _ _ hbackslash => exact absurd (List.cons.inj h).1.symm hbackslash
      | short hletter' =>
          obtain ⟨hsame, hrest⟩ := List.cons.inj (List.cons.inj h).2
          exact ⟨hinj _ hletter _ hletter' hsame, hrest⟩
      | coded => exact absurd (List.cons.inj (List.cons.inj h).2).1 (hletters _ hletter)
  | coded =>
      cases hd with
      | plain _ _ hbackslash => exact absurd (List.cons.inj h).1.symm hbackslash
      | short hletter => exact absurd (List.cons.inj (List.cons.inj h).2).1.symm (hletters _ hletter)
      | coded => exact codePointForm_append_inj h

end Form

namespace Writing

/-- What a writing is of: nothing, or a character in some form and more. -/
theorem inv (h : Writing s x) :
    s = [] ∧ x = [] ∨
      ∃ c t y z, s = c :: t ∧ x = y ++ z ∧ Form c y ∧ Writing t z := by
  cases h with
  | nil => exact .inl ⟨rfl, rfl⟩
  | cons hform hrest => exact .inr ⟨_, _, _, _, rfl, rfl, hform, hrest⟩

/-- **A writing has one text.** -/
theorem unique (hs : Writing s x) (ht : Writing t x) : s = t := by
  induction hs generalizing t with
  | nil =>
      rcases ht.inv with ⟨rfl, -⟩ | ⟨d, t', y, z, rfl, hx, hform, -⟩
      · rfl
      · exact absurd (List.append_eq_nil_iff.mp hx.symm).1 hform.ne_nil
  | cons hform _ ih =>
      rcases ht.inv with ⟨rfl, hx⟩ | ⟨d, t', y, z, rfl, hx, hform', hrest'⟩
      · exact absurd (List.append_eq_nil_iff.mp hx).1 hform.ne_nil
      · obtain ⟨rfl, rfl⟩ := hform.unique hform' hx
        rw [ih hrest']

/-- No control character is left in a writing. -/
theorem not_control (h : Writing s x) (hd : d ∈ x) : ¬IsControl d := by
  induction h with
  | nil => cases hd
  | cons hform _ ih =>
      rcases List.mem_append.mp hd with hd | hd
      · exact hform.not_control hd
      · exact ih hd

/-- **Every quote in a writing is escaped.** -/
theorem quotes (h : Writing s x) (hx : x = before ++ q :: after) (hq : IsQuote q) :
    QuoteEscaped s before q after := by
  induction h generalizing before with
  | nil => exact absurd hx.symm (List.append_ne_nil_of_right_ne_nil before (List.cons_ne_nil _ _))
  | @cons c s x y hform hrest ih =>
      rcases List.append_eq_append_iff.mp hx with ⟨rest, rfl, hy⟩ | ⟨rest, rfl, hrest'⟩
      · obtain ⟨s₁, x₁, s₂, rfl, rfl, hs₁, hs₂⟩ := ih hy
        exact ⟨c :: s₁, x ++ x₁, s₂, rfl, (List.append_assoc ..).symm, .cons hform hs₁, hs₂⟩
      · -- The quote is in the first form, or right behind it.
        cases rest with
        | nil =>
            have hfirst : y = [] ++ q :: after := hrest'.symm
            obtain ⟨s₁, x₁, s₂, rfl, hx₁, hs₁, hs₂⟩ := ih hfirst
            exact absurd hx₁.symm (List.append_ne_nil_of_right_ne_nil x₁ (List.cons_ne_nil _ _))
        | cons q' rest =>
            obtain ⟨rfl, rfl⟩ := List.cons.inj hrest'
            obtain ⟨rfl, rfl, rfl⟩ := hform.quote rfl hq
            exact ⟨[], [], s, rfl, rfl, .nil, hrest⟩

end Writing

/-! ### What is written -/

/-- A printable character is no control character. -/
theorem not_control_of_isPrintable (h : isPrintable c = true) : ¬IsControl c := by
  rintro (hlow | hdelete)
  · rw [isPrintable, if_pos (by omega), decide_eq_true_eq] at h
    omega
  · have hrange : inRanges unprintableRanges 0x7F = true := rfl
    rw [isPrintable, hdelete, if_neg (by decide), hrange] at h
    cases h

/-- A choice between two forms is a form. -/
theorem Form.ite {p : Prop} [Decidable p] (hx : p → Form c x) (hy : ¬p → Form c y) :
    Form c (if p then x else y) := by
  by_cases hp : p
  · rw [if_pos hp]
    exact hx hp
  · rw [if_neg hp]
    exact hy hp

/-- A style that escapes both quotes writes each character in one of its forms. -/
theorem form_escapeChar {style : EscapeStyle} (hquotation : style.quotation = true)
    (hapostrophe : style.apostrophe = true) (c : Char) : Form c (style.escapeChar c) := by
  have hletter : ∀ {d letter : Char}, (d, letter) ∈ shortForms → c = d → Form c ['\\', letter] :=
    fun hmem hsame => hsame ▸ .short hmem
  unfold EscapeStyle.escapeChar
  refine .ite (hletter (by decide)) fun _ => ?_
  refine .ite (hletter (by decide)) fun _ => ?_
  refine .ite (hletter (by decide)) fun _ => ?_
  refine .ite (hletter (by decide)) fun _ => ?_
  refine .ite (hletter (by decide)) fun hbackslash => ?_
  refine .ite (fun h => hletter (by decide) h.1) fun hmark => ?_
  refine .ite (fun h => hletter (by decide) h.1) fun hquote => ?_
  refine .ite (fun _ => .coded) fun _ => ?_
  refine .ite (fun hprintable => ?_) fun _ => .coded
  refine .plain (not_control_of_isPrintable hprintable) ?_ hbackslash
  rintro (rfl | rfl)
  · exact hmark ⟨rfl, hquotation⟩
  · exact hquote ⟨rfl, hapostrophe⟩

/-- **The text of a message is a writing** of what it shows. -/
theorem writing_escapeBare (s : List Char) : Writing s (escapeBare s) := by
  have hrest : ∀ rest : List Char, Writing rest (rest.flatMap EscapeStyle.bare.escapeChar) := by
    intro rest
    induction rest with
    | nil => exact .nil
    | cons c rest ih => exact .cons (form_escapeChar rfl rfl c) ih
  cases s with
  | nil => exact .nil
  | cons c rest => exact .cons (form_escapeChar rfl rfl c) (hrest rest)

end Text

/-! ### Keys in messages -/

open Text (IsControl IsQuote QuoteEscaped Writing)

namespace Key

variable {key key' : Key}

/-- The line that shows a key. -/
theorem toList_display (key : Key) : key.display.toList = Text.escapeBare (Text.decodeLossy key) :=
  String.toList_ofList

/-- **A key that is text can be got back** from what it is read as. -/
theorem encode_decodeLossy (h : key.toByteArray.IsValidUTF8) :
    Text.encode (Text.decodeLossy key) = key := by
  obtain ⟨s, hs⟩ := h
  have hkey : key = Text.encode s := by
    rw [← List.toList_data_toByteArray (l := key), hs, List.utf8Encode,
      List.toList_data_toByteArray, Text.encode]
  rw [hkey, Text.decodeLossy_encode]

/-- **Keys that are text are shown apart.** -/
theorem eq_of_display_eq (h : key.toByteArray.IsValidUTF8) (h' : key'.toByteArray.IsValidUTF8)
    (hdisplay : key.display = key'.display) : key = key' := by
  have hsame :
      Text.escapeBare (Text.decodeLossy key) = Text.escapeBare (Text.decodeLossy key') := by
    rw [← toList_display, hdisplay, toList_display]
  have htext : Text.decodeLossy key = Text.decodeLossy key' :=
    (Text.writing_escapeBare _).unique (hsame ▸ Text.writing_escapeBare _)
  rw [← encode_decodeLossy h, htext, encode_decodeLossy h']

end Key

namespace StoreError

variable {bucket : String} {key key' : Key}

/-- Two keys that are text are told apart by any words that end in their places in one bucket. -/
theorem append_place_ne (lead : String) (h : key.toByteArray.IsValidUTF8)
    (h' : key'.toByteArray.IsValidUTF8) (hne : key ≠ key') :
    lead ++ place bucket key ≠ lead ++ place bucket key' := by
  intro hsame
  have hdisplay : key.display = key'.display := by
    rwa [place, place, String.append_right_inj, String.append_right_inj] at hsame
  exact hne (Key.eq_of_display_eq h h' hdisplay)

/-- That a key is there and that one is not are different messages. -/
theorem message_keyExists_ne_keyNotFound :
    (keyExists bucket key).message ≠ (keyNotFound bucket key').message := by
  intro h
  have hlists : "key exists: ".toList ++ (place bucket key).toList =
      "key not found: ".toList ++ (place bucket key').toList := by
    rw [← String.toList_append, ← String.toList_append]
    exact congrArg String.toList h
  have hlead :=
    calc "key exists: ".toList.take 5
      _ = ("key exists: ".toList ++ (place bucket key).toList).take 5 :=
        (List.take_append_of_le_length (by decide)).symm
      _ = ("key not found: ".toList ++ (place bucket key').toList).take 5 := by rw [hlists]
      _ = "key not found: ".toList.take 5 := List.take_append_of_le_length (by decide)
  exact absurd hlead (by decide)

end StoreError

/-- **Keys in messages are legible and unambiguous.** The line that shows a key has no control
character, and each of its quotes is escaped. Keys that are text are told apart by their lines, and
by the messages that name them. It depends on no table of characters: the line is one of the
writings of what the key is read as, and all this is so of every writing. -/
theorem display_unambiguous :
    (∀ key : Key, Writing (Text.decodeLossy key) key.display.toList ∧
      (∀ c ∈ key.display.toList, ¬IsControl c) ∧
      ∀ before q after, key.display.toList = before ++ q :: after → IsQuote q →
        QuoteEscaped (Text.decodeLossy key) before q after) ∧
    (∀ key key' : Key, key.toByteArray.IsValidUTF8 → key'.toByteArray.IsValidUTF8 →
      key.display = key'.display → key = key') ∧
    (∀ (bucket : String) (key key' : Key), key.toByteArray.IsValidUTF8 →
      key'.toByteArray.IsValidUTF8 → key ≠ key' →
        (StoreError.keyExists bucket key).message ≠ (StoreError.keyExists bucket key').message ∧
        (StoreError.keyNotFound bucket key).message ≠ (StoreError.keyNotFound bucket key').message ∧
        (StoreError.keyExists bucket key).message ≠ (StoreError.keyNotFound bucket key').message) ∧
    (∀ s x, Writing s x → (∀ c ∈ x, ¬IsControl c) ∧
      (∀ before q after, x = before ++ q :: after → IsQuote q → QuoteEscaped s before q after) ∧
      ∀ t, Writing t x → s = t) := by
  have hwriting : ∀ key : Key, Writing (Text.decodeLossy key) key.display.toList := fun key =>
    key.toList_display ▸ Text.writing_escapeBare _
  refine ⟨?display, ?keys, ?messages, ?writings⟩
  case display =>
    intro key
    exact ⟨hwriting key, fun c => (hwriting key).not_control,
      fun before q after => (hwriting key).quotes⟩
  case keys =>
    intro key key' h h' hdisplay
    exact Key.eq_of_display_eq h h' hdisplay
  case messages =>
    intro bucket key key' h h' hne
    exact ⟨StoreError.append_place_ne _ h h' hne, StoreError.append_place_ne _ h h' hne,
      StoreError.message_keyExists_ne_keyNotFound⟩
  case writings =>
    intro s x hs
    exact ⟨fun c => hs.not_control, fun before q after => hs.quotes, fun t => hs.unique⟩

/-- A newline, and the text of its escape, which is shown with a backslash more. -/
theorem display_unambiguous_of_newline :
    Key.display [0x0A] ≠ Key.display [0x5C, 0x6E] ∧
      (StoreError.keyNotFound "b" [0x0A]).message ≠
        (StoreError.keyNotFound "b" [0x5C, 0x6E]).message ∧
      QuoteEscaped ['a', '"'] ['a', '\\'] '"' [] ∧
      ¬Writing ['\\', 'n'] ['\\', 'n'] := by
  have hnewline : ByteArray.IsValidUTF8 (List.toByteArray [0x0A]) := ⟨['\n'], rfl⟩
  have hescape : ByteArray.IsValidUTF8 (List.toByteArray [0x5C, 0x6E]) := ⟨['\\', 'n'], rfl⟩
  have hwriting : Writing ['\n'] ['\\', 'n'] := .cons (.short (by decide)) .nil
  refine ⟨fun h => ?_, ?_, ?_, fun h => ?_⟩
  · exact absurd (display_unambiguous.2.1 _ _ hnewline hescape h) (by decide)
  · exact (display_unambiguous.2.2.1 "b" _ _ hnewline hescape (by decide)).2.1
  · exact (display_unambiguous.1 [0x61, 0x22]).2.2 _ _ _ (by decide) (.inl rfl)
  · exact absurd ((display_unambiguous.2.2.2 _ _ h).2.2 _ hwriting) (by decide)

end BucketStore
