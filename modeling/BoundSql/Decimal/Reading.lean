import BoundSql.Decimal.Binary
import BoundSql.Text.Blank
import BoundSql.Text.Digit
import BoundSql.Text.Hex
set_option autoImplicit false

/-!
# Reading numbers from text

Integers in any base and floating point numbers as a user may write them: blanks around the
number, a sign, digits of any script, and single underscores between digits.

Texts come from values here and not from a source, so more is allowed than in a literal of the
language: a sign, blanks, and digits of other scripts, which are replaced by their values first
(`normalNumeral`).  What is left has the form of a literal, and words for infinity and for what is
not a number are numbers too.
-/

namespace BoundSql.Decimal

open BoundSql.Text (digitsValue isDigitOf)

/-- Digits with the single underscores between them taken out; `after` says whether a digit stands
in front. -/
def plainDigits (isDigit : Char → Bool) (after : Bool) : List Char → Option (List Char)
  | [] => if after then some [] else none
  | c :: cs =>
      if isDigit c then (plainDigits isDigit true cs).map (c :: ·)
      else if c = '_' && after then
        match cs with
        | d :: _ => if isDigit d then plainDigits isDigit false cs else none
        | [] => none
      else none

/-- A text without blanks at its ends and with the digits of ASCII. -/
def normalNumeral (s : String) : List Char := Text.asciiDigits (Text.trim s.toList)

/-- Splits the sign from a numeral. -/
def splitSign : List Char → Bool × List Char
  | '-' :: cs => (true, cs)
  | '+' :: cs => (false, cs)
  | cs => (false, cs)

/-- The base that marks at the front of a numeral tell. -/
def markedBase? : List Char → Option (Nat × List Char)
  | '0' :: c :: cs =>
      if c = 'x' || c = 'X' then some (16, cs)
      else if c = 'o' || c = 'O' then some (8, cs)
      else if c = 'b' || c = 'B' then some (2, cs)
      else none
  | _ => none

/-- The digits of a numeral and their base.  In base zero the marks of the numeral decide, and a
numeral without marks has no zeros in front. -/
def baseAndDigits (base : Nat) (cs : List Char) : Option (Nat × List Char) := do
  let strip (cs : List Char) : List Char :=
    match cs with
    | '_' :: rest => rest
    | cs => cs
  match markedBase? cs with
  | some (b, rest) => if base = 0 || base = b then pure (b, strip rest) else pure (base, cs)
  | none =>
      if base = 0 then
        if cs.head? = some '0' && cs.any fun c => c != '0' && c != '_' then none
        else pure (10, cs)
      else pure (base, cs)

/-- The digits of the integer that a text stands for, with their base and sign. -/
def integerDigits? (base : Nat) (s : String) : Option (Bool × Nat × List Char) := do
  let (negative, cs) := splitSign (normalNumeral s)
  let (base, cs) ← baseAndDigits base cs
  let digits ← plainDigits (isDigitOf base) false cs
  pure (negative, base, digits)

/-- A character of a run of digits. -/
def isRunChar (c : Char) : Bool := c.isDigit || c == '_'

/-- The number that a decimal numeral without sign stands for. -/
def unsignedFloat? (cs : List Char) : Option Float := do
  let whole := cs.takeWhile isRunChar
  let rest := cs.drop whole.length
  let (fraction, rest) := match rest with
    | '.' :: rest =>
        let fraction := rest.takeWhile isRunChar
        (fraction, rest.drop fraction.length)
    | rest => ([], rest)
  if whole.isEmpty && fraction.isEmpty then none
  else
    let digits (cs : List Char) := if cs.isEmpty then some [] else plainDigits Char.isDigit false cs
    let whole ← digits whole
    let fraction ← digits fraction
    let exponent : Int ← match rest with
      | [] => some 0
      | e :: rest =>
          if e = 'e' || e = 'E' then do
            let (negative, ds) := splitSign rest
            let ds ← plainDigits Char.isDigit false ds
            some (signed negative (digitsValue 10 ds))
          else none
    some (nearest (digitsValue 10 (whole ++ fraction)) (exponent - (fraction.length : Int)))

/-- Not a number. -/
def notANumber : Float := Float.ofBits 0x7FF8000000000000

/-- The floating point number that a text stands for. -/
def floatOfText? (s : String) : Option Float := do
  let (negative, cs) := splitSign (normalNumeral s)
  let word := (String.ofList cs).toLower
  if word = "inf" || word = "infinity" then some (withSign negative infinity)
  else if word = "nan" then some notANumber
  else (unsignedFloat? cs).map (withSign negative)

end BoundSql.Decimal
