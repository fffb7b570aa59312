/-!
# Reading Bytes as Text

Keys and values are byte strings; messages show them as text. `encode` writes characters as UTF-8
and `decodeLossy` reads any bytes: each well-formed sequence gives its character, and each **maximal
ill-formed part** (the longest start of a sequence that the next byte breaks off, or one byte that
starts none) gives one replacement character.
-/

namespace BucketStore.Text

/-- The UTF-8 bytes of a text. -/
def encode (s : List Char) : List UInt8 :=
  s.flatMap String.utf8EncodeChar

/-- The length of a text in UTF-8 bytes. -/
def byteLength (s : List Char) : Nat :=
  (encode s).length

/-- U+FFFD stands for bytes that are no text. -/
def replacement : Char := '\uFFFD'

/-- Where a decoder stands: between characters, or inside a sequence that still owes bytes. -/
inductive DecodeState where
  /-- Between characters. -/
  | start
  /-- Inside a sequence whose bits so far are `bits`: `owed + 1` more bytes are due, and the next one
  must lie between `low` and `high`. -/
  | within (bits : Nat) (owed : Nat) (low high : Nat)
  deriving DecidableEq, Repr

/-- What a byte does between characters: the characters it completes, and the state after it. -/
def DecodeState.enter (b : Nat) : List Char × DecodeState :=
  if b < 0x80 then ([Char.ofNat b], .start)
  else if b < 0xC2 then ([replacement], .start)
  else if b < 0xE0 then ([], .within (b - 0xC0) 0 0x80 0xBF)
  else if b = 0xE0 then ([], .within 0 1 0xA0 0xBF)
  else if b = 0xED then ([], .within 0xD 1 0x80 0x9F)
  else if b < 0xF0 then ([], .within (b - 0xE0) 1 0x80 0xBF)
  else if b = 0xF0 then ([], .within 0 2 0x90 0xBF)
  else if b < 0xF4 then ([], .within (b - 0xF0) 2 0x80 0xBF)
  else if b = 0xF4 then ([], .within 4 2 0x80 0x8F)
  else ([replacement], .start)

/-- One byte: the characters it completes, and the state after it. A byte that breaks a sequence
off completes the sequence's replacement character and is then read anew. -/
def DecodeState.step : DecodeState → Nat → List Char × DecodeState
  | .start, b => enter b
  | .within bits owed low high, b =>
    if low ≤ b ∧ b ≤ high then
      match owed with
      | 0 => ([Char.ofNat (bits * 64 + (b - 0x80))], .start)
      | owed + 1 => ([], .within (bits * 64 + (b - 0x80)) owed 0x80 0xBF)
    else
      (replacement :: (enter b).1, (enter b).2)

/-- The text of the remaining bytes, read from a state; an unfinished sequence at the end gives one
replacement character. -/
def DecodeState.run : DecodeState → List UInt8 → List Char
  | .start, [] => []
  | .within .., [] => [replacement]
  | q, b :: bs => (q.step b.toNat).1 ++ run (q.step b.toNat).2 bs

/-- The text of any bytes, with one replacement character for each maximal ill-formed part. -/
def decodeLossy (bytes : List UInt8) : List Char :=
  DecodeState.start.run bytes

end BucketStore.Text
