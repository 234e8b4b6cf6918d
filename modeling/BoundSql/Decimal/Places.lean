import BoundSql.Decimal.Shortest
set_option autoImplicit false

/-!
# Decimal numerals with a fixed number of digits

A positive number `num / den` written with a fixed number of places behind the point, or with a
fixed number of digits and an exponent.  Both round the exact value, a tie to the even digit.

A numeral is made in two steps: the digits, as a natural number, and then the place of the point
among them (`pointed`), where zeros are put in on either side as needed.  The shortest text of a
floating point number is made in the same way from its shortest digits, with an exponent if the
point would stand far away from them.
-/

namespace BoundSql.Decimal

/-- A text of digits with the point set so that `places` digits stand behind it. -/
def pointed (digits : Nat) (places : Nat) : String × String :=
  let text := (natText digits).toList
  let text := List.replicate (places + 1 - text.length) '0' ++ text
  let whole := text.length - places
  (String.ofList (text.take whole), String.ofList (text.drop whole))

/-- The digits in front of the point and the `places` digits behind it. -/
def fixed (num den places : Nat) : String × String :=
  pointed (roundDiv (num * Nat.pow 10 places) den) places

/-- The digits of a number with one digit in front of the point and `places` behind it, and the
exponent of ten. -/
def scientific (num den places : Nat) : Nat × Int :=
  if num = 0 then (0, 0)
  else
    let lead := leadingExponent num den
    let (a, b) := scaleTen num den (lead - places)
    let d := roundDiv a b
    if d = Nat.pow 10 (places + 1) then (Nat.pow 10 places, lead + 1) else (d, lead)

/-- The text of an exponent: its sign and at least two digits. -/
def exponentText (e : Int) : String :=
  let digits := natText e.natAbs
  (if e < 0 then "-" else "+") ++ (if digits.length < 2 then "0" ++ digits else digits)

/-- A number as a text without its sign: positional for exponents of ten from -4 to 15, with at
least one digit behind the point, and with an exponent outside of these. -/
def shortestText (d : Digits) : String :=
  let text := (natText d.digits).toList
  let count := text.length
  let lead : Int := d.exponent + count - 1
  if -4 ≤ lead ∧ lead < 16 then
    if 0 ≤ d.exponent then
      String.ofList (text ++ List.replicate d.exponent.toNat '0') ++ ".0"
    else
      let (whole, fraction) := pointed d.digits d.exponent.natAbs
      whole ++ "." ++ fraction
  else
    let fraction := text.drop 1
    String.ofList (text.take 1) ++ (if fraction.isEmpty then "" else "." ++ String.ofList fraction)
      ++ "e" ++ exponentText lead

/-- The text of a floating point number, from which it reads back. -/
def floatText (x : Float) : String :=
  match Binary.ofFloat x with
  | .nan => "nan"
  | .infinite negative => if negative then "-inf" else "inf"
  | .finite negative mantissa exponent =>
      let sign := if negative then "-" else ""
      if mantissa = 0 then sign ++ "0.0" else sign ++ shortestText (shortest mantissa exponent)

end BoundSql.Decimal
