import BucketStore.Decimal
import BucketStore.Text.Numeral
import BucketStore.Toml.Reader
import BucketStore.Toml.Value

/-!
# Numbers, Truth Values, Dates and Times

A value that is neither quoted nor bracketed is one **token**: the longest row of letters, digits, signs,
points, underscores and colons. Each kind of scalar is a condition on the whole token, so a token is
never read in part.
-/

namespace BucketStore.Toml

namespace Scalar

/-! ### Integers -/

/-- The digits of a numeral in which single underscores may stand between digits. -/
def ungroup? (digit : Char → Bool) : List Char → Option (List Char)
  | [] => none
  | [c] => if digit c then some [c] else none
  | c :: '_' :: rest => if digit c then (ungroup? digit rest).map (c :: ·) else none
  | c :: rest => if digit c then (ungroup? digit rest).map (c :: ·) else none

/-- The digits of a numeral in a base. -/
def digits? (base : Nat) (token : List Char) : Option (List Char) :=
  ungroup? (Text.isDigit base) token

/-- The digits of a decimal numeral without superfluous zeros in front. -/
def wholeDigits? (token : List Char) : Option (List Char) :=
  (digits? 10 token).filter fun ds => ds = ['0'] ∨ ds.head? ≠ some '0'

/-- Whether a sign is a minus, and the token after the sign. A missing sign is a plus. -/
def sign : List Char → Bool × List Char
  | '-' :: rest => (true, rest)
  | '+' :: rest => (false, rest)
  | token => (false, token)

/-- The integer of a sign and an absolute value. -/
def signed (negative : Bool) (n : Nat) : Int :=
  if negative then -(n : Int) else n

/-- The integers that a document may hold. -/
def inRange (n : Int) : Bool :=
  -0x8000000000000000 ≤ n && n ≤ 0x7FFFFFFFFFFFFFFF

/-- The integer of a token: a decimal with an optional sign, or a hexadecimal, octal or binary numeral
after its mark. -/
def integer? (token : List Char) : Option Int := do
  let n ← match token with
    | '0' :: 'x' :: rest => ((digits? 16 rest).bind (Text.numeral? 16)).map Int.ofNat
    | '0' :: 'o' :: rest => ((digits? 8 rest).bind (Text.numeral? 8)).map Int.ofNat
    | '0' :: 'b' :: rest => ((digits? 2 rest).bind (Text.numeral? 2)).map Int.ofNat
    | _ =>
      let (negative, rest) := sign token
      ((wholeDigits? rest).bind (Text.numeral? 10)).map (signed negative)
  guard (inRange n)
  some n

/-! ### Floats -/

/-- The number after the mark of an exponent. -/
def exponent? (token : List Char) : Option Int :=
  let (negative, rest) := sign token
  ((digits? 10 rest).bind (Text.numeral? 10)).map (signed negative)

/-- The absolute value of a float: digits, then a point and digits or an exponent or both. -/
def magnitude? (token : List Char) : Option Float := do
  let isMark (c : Char) : Bool := c = 'e' || c = 'E'
  let mantissa := token.takeWhile (!isMark ·)
  let scale ← match token.dropWhile (!isMark ·) with
    | [] => some none
    | _ :: rest => (exponent? rest).map some
  let whole ← wholeDigits? (mantissa.takeWhile (· ≠ '.'))
  let places ← match mantissa.dropWhile (· ≠ '.') with
    | [] => some none
    | _ :: rest => (digits? 10 rest).map some
  guard (scale ≠ none ∨ places ≠ none)
  let places := places.getD []
  let n ← Text.numeral? 10 (whole ++ places)
  some (Decimal.read n (scale.getD 0 - places.length))

/-- The float of a token. A positive number beyond all finite ones is refused. -/
def float? (token : List Char) : Option Float :=
  let (negative, rest) := sign token
  let apply (x : Float) : Float := if negative then -x else x
  if rest = ['i', 'n', 'f'] then some (apply (1 / 0))
  else if rest = ['n', 'a', 'n'] then some (apply (0 / 0))
  else do
    let x := apply (← magnitude? rest)
    guard (x.toBits.toNat ≠ Decimal.infinityBits)
    some x

/-! ### Dates and times -/

/-- A number of a fixed count of decimal digits, which lies between two bounds. -/
def field? (count least greatest : Nat) (token : List Char) : Option Nat := do
  guard (token.length = count)
  let n ← Text.numeral? 10 token
  guard (least ≤ n ∧ n ≤ greatest)
  some n

/-- Whether a year has a 29th of February. -/
def isLeap (year : Nat) : Bool :=
  (year % 4 = 0 && year % 100 ≠ 0) || year % 400 = 0

/-- The number of days in a month. -/
def daysIn (year month : Nat) : Nat :=
  if month = 2 then if isLeap year then 29 else 28
  else if month = 4 ∨ month = 6 ∨ month = 9 ∨ month = 11 then 30
  else 31

/-- Whether a token is a date: year, month and day between hyphens. -/
def isDate (token : List Char) : Bool :=
  let valid : Option Unit := do
    let year ← field? 4 0 9999 (token.take 4)
    let month ← field? 2 1 12 ((token.drop 5).take 2)
    let _ ← field? 2 1 (daysIn year month) (token.drop 8)
    guard ((token.drop 4).head? = some '-' ∧ (token.drop 7).head? = some '-')
  valid.isSome

/-- Whether a token is a time: hour, minute and second between colons, and perhaps a fraction of the
second. -/
def isTime (token : List Char) : Bool :=
  let valid : Option Unit := do
    let _ ← field? 2 0 23 (token.take 2)
    let _ ← field? 2 0 59 ((token.drop 3).take 2)
    let _ ← field? 2 0 60 ((token.drop 6).take 2)
    guard ((token.drop 2).head? = some ':' ∧ (token.drop 5).head? = some ':')
    match token.drop 8 with
    | [] => some ()
    | point :: fraction =>
      guard (point = '.' ∧ fraction ≠ [] ∧ fraction.all (Text.isDigit 10))
  valid.isSome

/-- Whether a token is the difference to universal time: the letter Z, or a sign, hours and minutes. -/
def isOffset : List Char → Bool
  | [c] => c = 'Z' || c = 'z'
  | c :: rest =>
    let valid : Option Unit := do
      guard (c = '+' ∨ c = '-')
      let _ ← field? 2 0 23 (rest.take 2)
      let _ ← field? 2 0 59 (rest.drop 3)
      guard ((rest.drop 2).head? = some ':')
    valid.isSome
  | [] => false

/-- Whether a token is a time with or without an offset. -/
def isOffsetTime (token : List Char) : Bool :=
  let inTime (c : Char) : Bool := Text.isDigit 10 c || c = ':' || c = '.'
  let offset := token.dropWhile inTime
  isTime (token.takeWhile inTime) && (offset = [] || isOffset offset)

/-- Whether a token is a date and a time with the letter T between them. -/
def isDateTime (token : List Char) : Bool :=
  isDate (token.take 10) &&
    match token.drop 10 with
    | [] => true
    | mark :: time => (mark = 'T' || mark = 't') && isOffsetTime time

/-! ### Tokens -/

/-- The characters of a token. -/
def isToken (c : Char) : Bool :=
  c.isAlphanum || c = '+' || c = '-' || c = '_' || c = '.' || c = ':'

/-- The value of a token. -/
def ofToken? (token : List Char) : Option Value :=
  if token = ['t', 'r', 'u', 'e'] then some (.boolean true)
  else if token = ['f', 'a', 'l', 's', 'e'] then some (.boolean false)
  else if isDateTime token || isTime token then some (.datetime (String.ofList token))
  else match integer? token with
    | some n => some (.integer n)
    | none => (float? token).map .float

end Scalar

open Reader

/-- Takes a scalar. A date may be followed by one blank and a time, and a digit after that blank can only
belong to a time. -/
def scalar : Reader Value := do
  let token ← takeWhile Scalar.isToken
  let text ← get
  match Scalar.isDate token, text with
  | true, ' ' :: c :: _ =>
    if Text.isDigit 10 c then
      set text.tail
      let time ← takeWhile Scalar.isToken
      guard (Scalar.isOffsetTime time)
      return .datetime (String.ofList (token ++ ' ' :: time))
    else Scalar.ofToken? token
  | _, _ => Scalar.ofToken? token

end BucketStore.Toml
