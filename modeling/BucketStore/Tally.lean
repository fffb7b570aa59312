import BucketStore.Key

/-!
# Tallies

A **tally** is a number kept as the text of a value: an optional sign and ASCII digits, between
`Tally.least` and `Tally.greatest`. Adding to a tally stops at the greatest number; taking away stops
at zero.

* `Tally.ofValue?` reads a value, with leading zeros allowed and nothing around the digits;
* `Tally.toValue` writes the one canonical text of a number;
* `Adjustment.apply` is the arithmetic.
-/

namespace BucketStore

namespace Tally

/-- The greatest tally, 2^63 - 1. -/
def greatest : Int := 9223372036854775807

/-- The least tally, -2^63. -/
def least : Int := -9223372036854775808

/-- Whether a byte is an ASCII digit. -/
def isDigit (b : UInt8) : Bool :=
  0x30 ≤ b && b ≤ 0x39

/-- The number that digits stand for, the most significant one first. -/
def ofDigits (digits : List UInt8) : Nat :=
  digits.foldl (fun n b => n * 10 + (b.toNat - 0x30)) 0

/-- The number that digits stand for; there has to be a digit, and nothing else. -/
def natural? (bytes : List UInt8) : Option Nat :=
  if bytes ≠ [] ∧ bytes.all isDigit then some (ofDigits bytes) else none

/-- The number that a value stands for, whatever its size. -/
def integer? : List UInt8 → Option Int
  | 0x2B :: digits => (natural? digits).map Int.ofNat
  | 0x2D :: digits => (natural? digits).map fun n => -(n : Int)
  | digits => (natural? digits).map Int.ofNat

/-- The tally that a value stands for. -/
def ofValue? (value : Value) : Option Int :=
  (integer? value).filter fun n => least ≤ n && n ≤ greatest

/-- The digits of a number, most significant first and without leading zeros. -/
def digits (n : Nat) : List UInt8 :=
  (Nat.toDigits 10 n).map fun c => c.toNat.toUInt8

/-- The **canonical text** of a number: a minus sign if it is negative, and its digits. -/
def toValue (n : Int) : Value :=
  if n < 0 then 0x2D :: digits n.natAbs else digits n.natAbs

end Tally

/-- A change to a tally. -/
inductive Adjustment where
  /-- Add an amount. -/
  | up (amount : Nat)
  /-- Take an amount away. -/
  | down (amount : Nat)
  deriving DecidableEq, Repr

/-- The tally after a change. No amount is taken as more than the greatest tally; the result of adding
stops at the greatest tally, and the result of taking away stops at zero. -/
def Adjustment.apply : Adjustment → Int → Int
  | .up amount, n => min Tally.greatest (n + min (amount : Int) Tally.greatest)
  | .down amount, n => max 0 (n - min (amount : Int) Tally.greatest)

end BucketStore
