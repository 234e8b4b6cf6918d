import BoundSql.Text.CodePoint
import BoundSql.Text.Hex
import BoundSql.Text.Printable
set_option autoImplicit false

/-!
# Quoted texts

How a text, or a string of bytes, is shown between quotes.  Single quotes are used unless the
text holds a single quote and no double quote.  The quote in use and the backslash get a
backslash, tab, line feed and carriage return have escapes of their own, and a character that is
not printable is written by its code point in two, four or eight hexadecimal digits, as is the half
of a surrogate pair.
-/

namespace BoundSql.Text

/-- The quote that a text is shown in. -/
def quoteFor (cs : List Char) : Char :=
  if cs.contains '\'' && !cs.contains '"' then '"' else '\''

/-- A code point as an escape of the least of the three widths. -/
def codePointEscape (n : Nat) : List Char :=
  if n < 0x100 then '\\' :: 'x' :: hexFixed 2 n
  else if n < 0x10000 then '\\' :: 'u' :: hexFixed 4 n
  else '\\' :: 'U' :: hexFixed 8 n

/-- One character of a text between the quotes `quote`. -/
def quotedChar (quote c : Char) : List Char :=
  if c = quote ∨ c = '\\' then ['\\', c]
  else if c = '\t' then ['\\', 't']
  else if c = '\n' then ['\\', 'n']
  else if c = '\r' then ['\\', 'r']
  else if isPrintable c then [c]
  else codePointEscape c.toNat

/-- A text between quotes, as a list of characters. -/
def quotedChars (cs : List Char) : List Char :=
  let q := quoteFor cs
  q :: (cs.flatMap (quotedChar q) ++ [q])

/-- A text between quotes. -/
def quoted (s : String) : String := String.ofList (quotedChars s.toList)

/-- One code point of a text between the quotes `quote`. -/
def quotedPoint (quote : Char) : CodePoint → List Char
  | .char c => quotedChar quote c
  | .surrogate n => codePointEscape (CodePoint.surrogate n).code

/-- A text of code points between quotes. -/
def quotedText (t : Text) : String :=
  let q := quoteFor (chars t)
  String.ofList (q :: (t.flatMap (quotedPoint q) ++ [q]))

/-- One byte between the quotes `quote`: only printable ASCII characters stand for
themselves. -/
def quotedByte (quote : Char) (b : UInt8) : List Char :=
  let c := Char.ofNat b.toNat
  if c = quote ∨ c = '\\' then ['\\', c]
  else if c = '\t' then ['\\', 't']
  else if c = '\n' then ['\\', 'n']
  else if c = '\r' then ['\\', 'r']
  else if 32 ≤ b.toNat ∧ b.toNat < 127 then [c]
  else '\\' :: 'x' :: hexFixed 2 b.toNat

/-- A string of bytes between quotes, with the letter that marks it. -/
def quotedBytes (bs : List UInt8) : String :=
  let q := quoteFor (bs.map fun b => Char.ofNat b.toNat)
  String.ofList ('b' :: q :: (bs.flatMap (quotedByte q) ++ [q]))

/-- A text of characters is shown like the string that holds them. -/
theorem quotedText_ofString (s : String) : quotedText (ofString s) = quoted s := by
  have h (q : Char) (cs : List Char) :
      (ofChars cs).flatMap (quotedPoint q) = cs.flatMap (quotedChar q) := by
    induction cs with
    | nil => rfl
    | cons c cs ih => simpa [ofChars, quotedPoint] using ih
  simp [quotedText, quoted, quotedChars, ofString, h]

theorem quotedChars_nil : quotedChars [] = ['\'', '\''] := by decide

/-- The quote in use never stands alone between the quotes. -/
theorem quotedChar_quote (q : Char) : quotedChar q q = ['\\', q] := by simp [quotedChar]

end BoundSql.Text
