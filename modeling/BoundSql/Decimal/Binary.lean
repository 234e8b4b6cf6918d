import BoundSql.Decimal.Nearest
set_option autoImplicit false

/-!
# Floating point numbers taken apart

A finite floating point number is a sign, a mantissa and an exponent of two.  Everything exact
that is said about such numbers (their digits, their integer part, their order among integers) is
computed from these three.

What is asked of a number afterwards is arithmetic of integers, so that remainders, roots and
comparisons with integers of any size are computed exactly, and rounded once at the end where the
result has to be a floating point number (`nearestRatio`).  What is not finite has no parts, and is
a case of its own everywhere.
-/

namespace BoundSql.Decimal

/-- A floating point number taken apart. -/
inductive Binary where
  | nan
  | infinite (negative : Bool)
  /-- the number `± mantissa · 2^exponent` -/
  | finite (negative : Bool) (mantissa : Nat) (exponent : Int)
  deriving DecidableEq, Repr, Inhabited

/-- Takes a floating point number apart. -/
def Binary.ofFloat (x : Float) : Binary :=
  let bits := x.toBits.toNat
  let negative : Bool := Nat.pow 2 63 ≤ bits
  let biased : Nat := bits / Nat.pow 2 52 % Nat.pow 2 11
  let fraction : Nat := bits % Nat.pow 2 52
  if biased = 2047 then if fraction = 0 then .infinite negative else .nan
  else if biased = 0 then .finite negative fraction (-1074)
  else .finite negative (Nat.pow 2 52 + fraction) ((biased : Int) - 1075)

/-- The number `mantissa · 2^exponent` as a quotient of natural numbers. -/
def ratio (mantissa : Nat) (exponent : Int) : Nat × Nat :=
  if 0 ≤ exponent then (mantissa * Nat.pow 2 exponent.toNat, 1)
  else (mantissa, Nat.pow 2 exponent.natAbs)

/-- An integer with the given sign. -/
def signed (negative : Bool) (n : Nat) : Int := if negative then -(n : Int) else n

/-- The integer part of a finite number, without its fraction. -/
def truncated? (x : Float) : Option Int :=
  match Binary.ofFloat x with
  | .finite negative mantissa exponent =>
      let (num, den) := ratio mantissa exponent
      some (signed negative (num / den))
  | _ => none

/-- Whether a number is finite and has no fraction. -/
def isInteger (x : Float) : Bool :=
  match Binary.ofFloat x with
  | .finite _ mantissa exponent =>
      let (num, den) := ratio mantissa exponent
      num % den = 0
  | _ => false

/-- A finite number as a quotient in lowest terms. -/
def lowestTerms? (x : Float) : Option (Int × Nat) :=
  match Binary.ofFloat x with
  | .finite negative mantissa exponent =>
      let (num, den) := ratio mantissa exponent
      let g := Nat.gcd num den
      some (signed negative (num / g), den / g)
  | _ => none

/-- The order of a finite number and an integer, by exact comparison. -/
def compareInt? (x : Float) (n : Int) : Option Ordering :=
  match Binary.ofFloat x with
  | .finite negative mantissa exponent =>
      let (num, den) := ratio mantissa exponent
      some (compare (signed negative num) (n * den))
  | .infinite negative => some (if negative then .lt else .gt)
  | .nan => none

/-- Whether the sign bit of a number is set, which it may be for zero too. -/
def isNegative (x : Float) : Bool := Nat.pow 2 63 ≤ x.toBits.toNat

/-- The negative of a floating point number if the flag is set. -/
def withSign (negative : Bool) (x : Float) : Float := if negative then -x else x

/-- The floating point number nearest to an integer, if that is finite. -/
def ofInt? (n : Int) : Option Float :=
  let x := nearestRatio n.natAbs 1
  if x.isFinite then some (withSign (n < 0) x) else none

/-- The remainder of two finite numbers with the sign of the first, computed exactly. -/
def remainder (x y : Float) : Float :=
  match Binary.ofFloat x, Binary.ofFloat y with
  | .finite negative m e, .finite _ m' e' =>
      let low := min e e'
      let a := m * Nat.pow 2 (e - low).toNat
      let b := m' * Nat.pow 2 (e' - low).toNat
      let (num, den) := ratio (a % b) low
      withSign negative (nearestRatio num den)
  | _, .infinite _ => x
  | _, _ => x - x

/-- The natural square root, rounded down, by halving the distance between `low` and `high`, whose
squares lie around the number; `fuel` bounds the number of halvings. -/
def rootBetween (n : Nat) : (fuel low high : Nat) → Nat
  | 0, low, _ => low
  | fuel + 1, low, high =>
      if low + 1 < high then
        let middle := (low + high) / 2
        if middle * middle ≤ n then rootBetween n fuel middle high
        else rootBetween n fuel low middle
      else low

/-- The natural square root, rounded down. -/
def root (n : Nat) : Nat := rootBetween n (Nat.log2 n + 2) 0 (Nat.pow 2 (Nat.log2 n / 2 + 1))

/-- The floating point number nearest to the square root of the sum of two squares.  The root is
taken with many more bits than the result has, and a last one tells whether it was exact. -/
def hypotenuse (x y : Float) : Float :=
  match Binary.ofFloat x, Binary.ofFloat y with
  | .finite _ m e, .finite _ m' e' =>
      let low := min e e'
      let a := m * Nat.pow 2 (e - low).toNat
      let b := m' * Nat.pow 2 (e' - low).toNat
      let square := (a * a + b * b) * Nat.pow 2 128
      let r := root square
      let (num, den) := ratio (2 * r + (if r * r = square then 0 else 1)) (low - 65)
      nearestRatio num den
  | .infinite _, _ | _, .infinite _ => infinity
  | _, _ => x + y

end BoundSql.Decimal
