/-!
# Numerals

A **numeral** is a row of digits in some base of at most sixteen, the most significant digit first.
-/

namespace BucketStore.Text

/-- The value of a hexadecimal digit of either case. -/
def hexDigit? (c : Char) : Option Nat :=
  if '0' ≤ c ∧ c ≤ '9' then some (c.toNat - 0x30)
  else if 'a' ≤ c ∧ c ≤ 'f' then some (c.toNat - 0x57)
  else if 'A' ≤ c ∧ c ≤ 'F' then some (c.toNat - 0x37)
  else none

/-- The value of a digit in a base. -/
def digit? (base : Nat) (c : Char) : Option Nat :=
  (hexDigit? c).filter (· < base)

/-- Whether a character is a digit in a base. -/
def isDigit (base : Nat) (c : Char) : Bool :=
  (digit? base c).isSome

/-- The number that a numeral stands for; there has to be a digit, and nothing else. -/
def numeral? (base : Nat) (s : List Char) : Option Nat :=
  if s = [] then none
  else s.foldlM (fun n c => (digit? base c).map (n * base + ·)) 0

end BucketStore.Text
