/-!
# Decimals

A decimal is read as the binary64 number **nearest** to it, and of two equally near ones as the one
with the even significand.

A binary fraction is written with the fewest decimal digits that still identify it. The reals that
round to a binary64 value form its **rounding interval**; among the grids of multiples of a power of
ten, the coarsest one that has a point in the interval fixes the number of digits, and of the grid's
points in the interval the one nearest to the value is taken.

* `Magnitude.shortest` selects the digits by exact arithmetic on naturals;
* `text` lays them out **positionally**, never with an exponent;
* `nearestBits` rounds a fraction of naturals, and `read` a decimal with an exponent.
-/

namespace BucketStore.Decimal

/-- The number of fractions under one exponent, 2^52. -/
def fractions : Nat := 0x10000000000000

/-- The absolute value of a finite, non-zero binary64 number: `significand * 2 ^ exponent`. -/
structure Magnitude where
  /-- The significand, a positive integer. -/
  significand : Nat
  /-- The exponent of two. -/
  exponent : Int
  /-- Whether the value is a power of two whose neighbour below is only half as far away as its
  neighbour above. -/
  edge : Bool
  deriving DecidableEq, Repr

namespace Magnitude

/-- The magnitude that a biased exponent and a fraction stand for. -/
def ofFields (biased fraction : Nat) : Magnitude :=
  if biased = 0 then ⟨fraction, -1074, false⟩
  else ⟨fractions + fraction, (biased : Int) - 1075, fraction = 0 ∧ 1 < biased⟩

/-- The quotient of a quarter of the unit in the last place by `10 ^ scale`, as a fraction of
naturals. -/
def quarterUnit (x : Magnitude) (scale : Int) : Nat × Nat :=
  (Nat.pow 2 (x.exponent - 2).toNat * Nat.pow 10 (-scale).toNat,
    Nat.pow 2 (2 - x.exponent).toNat * Nat.pow 10 scale.toNat)

/-- The lower end of the rounding interval, in quarter units. -/
def low (x : Magnitude) : Nat :=
  if x.edge then 4 * x.significand - 1 else 4 * x.significand - 2

/-- The upper end of the rounding interval, in quarter units. -/
def high (x : Magnitude) : Nat :=
  4 * x.significand + 2

/-- The ends belong to the interval exactly when the significand is even, since halfway values
round to even. -/
def closed (x : Magnitude) : Bool :=
  x.significand % 2 = 0

/-- Whether `digits * 10 ^ scale` lies in the rounding interval. -/
def contains (x : Magnitude) (digits : Nat) (scale : Int) : Bool :=
  let (p, q) := x.quarterUnit scale
  if x.closed then x.low * p ≤ digits * q && digits * q ≤ x.high * p
  else x.low * p < digits * q && digits * q < x.high * p

/-- The point of the grid of multiples of `10 ^ scale` that stands for the value: of its two
neighbours on the grid the nearer one in the interval, and at equal distance the upper one. -/
def onGrid? (x : Magnitude) (scale : Int) : Option Nat :=
  let (p, q) := x.quarterUnit scale
  let below := 4 * x.significand * p / q
  match x.contains below scale, x.contains (below + 1) scale with
  | true, true =>
    if 8 * x.significand * p < (2 * below + 1) * q then some below else some (below + 1)
  | true, false => some below
  | false, true => some (below + 1)
  | false, false => none

/-- The shortest decimal `digits * 10 ^ scale`. The search goes from the grid above the greatest
value down to the grid on which every value lies. -/
def shortest (x : Magnitude) : Nat × Int :=
  let tried := (List.range 1384).findSome? fun (n : Nat) =>
    let scale := 309 - (n : Int)
    (x.onGrid? scale).map fun digits => (digits, scale)
  tried.getD (0, 0)

end Magnitude

/-- Digits and a scale, laid out with a point where one is due and no exponent. -/
def positional (digits : List Char) (scale : Int) : List Char :=
  if 0 ≤ scale then digits ++ List.replicate scale.toNat '0'
  else
    let places := (-scale).toNat
    if places < digits.length then
      digits.take (digits.length - places) ++ '.' :: digits.drop (digits.length - places)
    else '0' :: '.' :: (List.replicate (places - digits.length) '0' ++ digits)

/-- A binary64 number in the fewest digits that identify it, positionally; a negative zero keeps its
sign. -/
def text (x : Float) : String :=
  let bits := x.toBits.toNat
  let biased := bits / fractions % 0x800
  let fraction := bits % fractions
  if biased = 0x7FF ∧ fraction ≠ 0 then "NaN"
  else
    let sign := if bits < 0x8000000000000000 then [] else ['-']
    let body :=
      if biased = 0x7FF then ['i', 'n', 'f']
      else if biased = 0 ∧ fraction = 0 then ['0']
      else
        let (digits, scale) := (Magnitude.ofFields biased fraction).shortest
        positional (Nat.toDigits 10 digits) scale
    String.ofList (sign ++ body)

/-! ### Reading -/

/-- The bits of positive infinity. -/
def infinityBits : Nat := 0x7FF * fractions

/-- The bits of the binary64 number nearest to a fraction. The unit in the last place is chosen so that
the quotient has 53 binary digits, or fewer where it would be finer than the finest unit. -/
def nearestBits (num den : Nat) : Nat :=
  let order := (num.log2 : Int) - den.log2
  let scaled (exponent : Int) : Nat × Nat :=
    (num * Nat.pow 2 (-exponent).toNat, den * Nat.pow 2 exponent.toNat)
  let fine := max (-1074) (order - 53)
  let exponent := if (scaled fine).1 / (scaled fine).2 < 2 * fractions then fine else fine + 1
  let (p, q) := scaled exponent
  let below := p / q
  let rest := 2 * (p % q)
  let nearest := if q < rest ∨ (rest = q ∧ below % 2 = 1) then below + 1 else below
  min infinityBits ((exponent + 1074).toNat * fractions + nearest)

/-- The binary64 number nearest to `digits * 10 ^ exponent`. A decimal of more than 310 digits before
the point is beyond all finite numbers, and one with more than 330 zeros after it is next to
nothing. -/
def read (digits : Nat) (exponent : Int) : Float :=
  let size := exponent + (Nat.toDigits 10 digits).length
  let bits :=
    if digits = 0 ∨ size < -330 then 0
    else if 310 < size then infinityBits
    else nearestBits (digits * Nat.pow 10 exponent.toNat) (Nat.pow 10 (-exponent).toNat)
  Float.ofBits (UInt64.ofNat bits)

/-- The binary64 number nearest to an integer. -/
def ofInt (n : Int) : Float :=
  if n < 0 then -(read n.natAbs 0) else read n.natAbs 0

end BucketStore.Decimal
