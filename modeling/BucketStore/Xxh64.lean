/-!
# The XXH64 Digest

A 64-bit digest of a byte string under a seed. Whole 32-byte stripes feed four **lanes**, which are
then merged; what is left over is folded in by words, a half word and single bytes, and a last
avalanche spreads every bit. All arithmetic is modulo 2^64.
-/

namespace BucketStore.Xxh64

/-- The five odd constants of the digest. -/
def prime1 : UInt64 := 0x9E3779B185EBCA87
def prime2 : UInt64 := 0xC2B2AE3D27D4EB4F
def prime3 : UInt64 := 0x165667B19E3779F9
def prime4 : UInt64 := 0x85EBCA77C2B2AE63
def prime5 : UInt64 := 0x27D4EB2F165667C5

/-- Rotation to the left by `n` bits, for `0 < n < 64`. -/
def rotateLeft (x : UInt64) (n : UInt64) : UInt64 :=
  (x <<< n) ||| (x >>> (64 - n))

/-- The number whose bytes are given, the lowest one first. -/
def littleEndian (bytes : List UInt8) : UInt64 :=
  bytes.foldr (fun b n => (n <<< 8) ||| b.toUInt64) 0

/-- The whole 8-byte words of a byte string, and the bytes left over, fewer than eight. -/
def words : List UInt8 → List UInt64 × List UInt8
  | b₀ :: b₁ :: b₂ :: b₃ :: b₄ :: b₅ :: b₆ :: b₇ :: rest =>
    let (ws, tail) := words rest
    (littleEndian [b₀, b₁, b₂, b₃, b₄, b₅, b₆, b₇] :: ws, tail)
  | tail => ([], tail)

/-- One lane takes in one word. -/
def round (lane word : UInt64) : UInt64 :=
  rotateLeft (lane + word * prime2) 31 * prime1

/-- The four lanes. -/
structure Lanes where
  /-- The lane of the first word of a stripe. -/
  first : UInt64
  /-- The lane of the second word. -/
  second : UInt64
  /-- The lane of the third word. -/
  third : UInt64
  /-- The lane of the fourth word. -/
  fourth : UInt64
  deriving DecidableEq, Repr

/-- The lanes before any stripe. -/
def Lanes.ofSeed (seed : UInt64) : Lanes :=
  ⟨seed + prime1 + prime2, seed + prime2, seed, seed - prime1⟩

/-- All whole stripes of four words, and the words left over. -/
def Lanes.absorb (v : Lanes) : List UInt64 → Lanes × List UInt64
  | w₀ :: w₁ :: w₂ :: w₃ :: rest =>
    absorb ⟨round v.first w₀, round v.second w₁, round v.third w₂, round v.fourth w₃⟩ rest
  | rest => (v, rest)

/-- One lane joins the digest. -/
def mergeLane (h lane : UInt64) : UInt64 :=
  (h ^^^ round 0 lane) * prime1 + prime4

/-- The four lanes as one word. -/
def Lanes.merge (v : Lanes) : UInt64 :=
  let h := rotateLeft v.first 1 + rotateLeft v.second 7 + rotateLeft v.third 12
    + rotateLeft v.fourth 18
  [v.first, v.second, v.third, v.fourth].foldl mergeLane h

/-- A word that no stripe took in joins the digest. -/
def foldWord (h word : UInt64) : UInt64 :=
  rotateLeft (h ^^^ round 0 word) 27 * prime1 + prime4

/-- A half word joins the digest. -/
def foldHalf (h half : UInt64) : UInt64 :=
  rotateLeft (h ^^^ half * prime1) 23 * prime2 + prime3

/-- A single byte joins the digest. -/
def foldByte (h : UInt64) (b : UInt8) : UInt64 :=
  rotateLeft (h ^^^ b.toUInt64 * prime5) 11 * prime1

/-- The last bytes, fewer than eight: a half word first if there are four. -/
def foldTail (h : UInt64) (tail : List UInt8) : UInt64 :=
  match tail with
  | b₀ :: b₁ :: b₂ :: b₃ :: rest =>
    rest.foldl foldByte (foldHalf h (littleEndian [b₀, b₁, b₂, b₃]))
  | rest => rest.foldl foldByte h

/-- Every bit of the word comes to depend on every other. -/
def avalanche (h : UInt64) : UInt64 :=
  let h := (h ^^^ (h >>> 33)) * prime2
  let h := (h ^^^ (h >>> 29)) * prime3
  h ^^^ (h >>> 32)

/-- The **digest** of a byte string under a seed. -/
def digest (seed : UInt64) (bytes : List UInt8) : UInt64 :=
  let (ws, tail) := words bytes
  let (start, rest) :=
    if 4 ≤ ws.length then
      let (v, rest) := (Lanes.ofSeed seed).absorb ws
      (v.merge, rest)
    else (seed + prime5, ws)
  let h := start + UInt64.ofNat bytes.length
  avalanche (foldTail (rest.foldl foldWord h) tail)

end BucketStore.Xxh64
