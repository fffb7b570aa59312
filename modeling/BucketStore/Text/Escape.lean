import BucketStore.Text.Extender

/-!
# Escaped Text

Messages write text so that every character can be seen. NUL, tab, newline, carriage return and the
backslash have two-character forms; which quotes and which extending characters are escaped is a
matter of **style**; what is not printable is written as its code point in braces.
-/

namespace BucketStore.Text

/-- What a style of escaping adds to the forms that all styles share. -/
structure EscapeStyle where
  /-- Whether an apostrophe is escaped. -/
  apostrophe : Bool
  /-- Whether a quotation mark is escaped. -/
  quotation : Bool
  /-- Whether an extending character is written as its code point. -/
  extender : Bool
  deriving DecidableEq, Repr

namespace EscapeStyle

/-- Inside quotation marks an apostrophe stands for itself. -/
def quoted : EscapeStyle := ⟨false, true, true⟩

/-- Between apostrophes a quotation mark stands for itself. -/
def single : EscapeStyle := ⟨true, false, true⟩

/-- Without marks around it, text escapes both of them. -/
def bare : EscapeStyle := ⟨true, true, false⟩

end EscapeStyle

/-- The digits of a code point, lowercase hexadecimal and without leading zeros, in braces. -/
def codePointForm (c : Char) : List Char :=
  '\\' :: 'u' :: '\x7b' :: (Nat.toDigits 16 c.toNat ++ ['\x7d'])

/-- The **escaped form** of one character. -/
def EscapeStyle.escapeChar (style : EscapeStyle) (c : Char) : List Char :=
  if c = '\x00' then ['\\', '0']
  else if c = '\t' then ['\\', 't']
  else if c = '\r' then ['\\', 'r']
  else if c = '\n' then ['\\', 'n']
  else if c = '\\' then ['\\', '\\']
  else if c = '"' ∧ style.quotation then ['\\', '"']
  else if c = '\'' ∧ style.apostrophe then ['\\', '\'']
  else if style.extender ∧ isExtender c then codePointForm c
  else if isPrintable c then [c]
  else codePointForm c

/-- Text in quotation marks. -/
def quote (s : List Char) : List Char :=
  '"' :: (s.flatMap EscapeStyle.quoted.escapeChar ++ ['"'])

/-- A character between apostrophes. -/
def quoteChar (c : Char) : List Char :=
  '\'' :: (EscapeStyle.single.escapeChar c ++ ['\''])

/-- Text without marks: an extending character is escaped only where it comes first, since there it
has nothing to be drawn on. -/
def escapeBare : List Char → List Char
  | [] => []
  | c :: rest =>
    EscapeStyle.escapeChar { EscapeStyle.bare with extender := true } c ++
      rest.flatMap EscapeStyle.bare.escapeChar

end BucketStore.Text
