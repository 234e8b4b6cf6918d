import BoundSql.Decimal.Binary
import BoundSql.Value.Basic
set_option autoImplicit false

/-!
# Numbers among values

The numbers that values are, truth values included, and how numbers of different kinds compare:
by their exact values.  Ranges are rows of integers at equal distances.

A truth value is an integer in all of arithmetic.  Comparing an integer with a floating point number
compares their exact values, so that large integers do not become equal to their neighbours by
rounding.  A number that is none is equal to nothing, not even to itself, and comes before nothing.
-/

namespace BoundSql.Value

/-- The integer that a value is, a truth value being zero or one. -/
def asInt? : Val → Option Int
  | .int n => some n
  | .bool b => some (if b then 1 else 0)
  | _ => none

/-- The floating point number that equals no number. -/
def notANumber : Float := 0 / 0

/-- A number of one of the three kinds. -/
inductive Number where
  | int (n : Int)
  | float (x : Float)
  | complex (re im : Float)
  deriving Inhabited

/-- The number that a value is. -/
def asNumber? : Val → Option Number
  | .int n => some (.int n)
  | .bool b => some (.int (if b then 1 else 0))
  | .float x => some (.float x)
  | .nan _ => some (.float notANumber)
  | .complex re im => some (.complex re im)
  | _ => none

/-- The floating point number that a value is. -/
def asFloat? (v : Val) : Option Float :=
  match v with
  | .float x => some x
  | .nan _ => some notANumber
  | _ => none

/-- A floating point number as a value. -/
def floatVal (x : Float) : Eval Val := if x.isNaN then Eval.makeNaN else pure (.float x)

/-- A number as a value. -/
def Number.toVal : Number → Eval Val
  | .int n => pure (.int n)
  | .float x => floatVal x
  | .complex re im => pure (.complex re im)

/-- Whether a floating point number equals an integer. -/
def floatEqualsInt (x : Float) (n : Int) : Bool := Decimal.compareInt? x n == some .eq

/-- Equality of numbers. -/
def Number.equal : Number → Number → Bool
  | .int m, .int n => m == n
  | .int m, .float y => floatEqualsInt y m
  | .float x, .int n => floatEqualsInt x n
  | .float x, .float y => x == y
  | .complex a b, .complex c d => a == c && b == d
  | .complex a b, .int n => b == 0 && floatEqualsInt a n
  | .int n, .complex a b => b == 0 && floatEqualsInt a n
  | .complex a b, .float x => b == 0 && a == x
  | .float x, .complex a b => b == 0 && a == x

/-- The four ways to ask for an order. -/
inductive Order where
  | lt | le | gt | ge
  deriving DecidableEq, Repr, Inhabited

/-- Whether an order holds, given how two things compare. -/
def Order.holds (o : Order) (c : Ordering) : Bool :=
  match o with
  | .lt => c == .lt
  | .le => c != .gt
  | .gt => c == .gt
  | .ge => c != .lt

/-- How two numbers compare; a number that is not comparable answers with nothing, and complex
numbers have no order at all. -/
def Number.compare? : Number → Number → Option (Option Ordering)
  | .int m, .int n => some (some (compare m n))
  | .int m, .float y => some ((Decimal.compareInt? y m).map Ordering.swap)
  | .float x, .int n => some (Decimal.compareInt? x n)
  | .float x, .float y =>
      some (if x < y then some .lt else if x == y then some .eq else if y < x then some .gt
        else none)
  | _, _ => none

/-! ## Ranges -/

/-- The number of elements of a range. -/
def rangeLength (start stop step : Int) : Nat :=
  if 0 < step then ((stop - start + step - 1) / step).toNat
  else if step < 0 then ((start - stop - step - 1) / (-step)).toNat
  else 0

/-- The element of a range at an index. -/
def rangeAt (start step : Int) (i : Nat) : Int := start + step * i

theorem Number.equal_int (m n : Int) : Number.equal (.int m) (.int n) = (m == n) := rfl

end BoundSql.Value
