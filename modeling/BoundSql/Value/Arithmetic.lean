import BoundSql.Expr.Tree
import BoundSql.Decimal.Shortest
import BoundSql.Value.Compare
set_option autoImplicit false

/-!
# Arithmetic

Integers have no bounds, and their division and remainder round toward minus infinity.  An
integer meets a floating point number as the floating point number nearest to it.  The exact
quotient of two integers is rounded once.

Results that would be very large are refused before they are computed, since they would not fit into
memory (`shiftBound`, `productBound`).  Whether an operation fails, and how, depends on the kinds of
both numbers: dividing by zero fails for all kinds, while a floating point result that is too large
is infinite for some operations and a failure for others.
-/

namespace BoundSql.Value

open BoundSql.Expr (BinaryOp UnaryOp)
open BoundSql.Decimal (withSign)

/-- The floating point number nearest to an integer. -/
def floatOfInt (n : Int) : Eval Float := Eval.orFail .overflow (Decimal.ofInt? n)

/-! ## Integers -/

/-- The complement of an integer. -/
def complement (n : Int) : Int := -n - 1

/-- The bits that two integers have in common, in two's complement. -/
def bitAnd (m n : Int) : Int :=
  match decide (m < 0), decide (n < 0) with
  | false, false => (m.toNat &&& n.toNat : Nat)
  | false, true => m - (m.toNat &&& (complement n).toNat : Nat)
  | true, false => n - (n.toNat &&& (complement m).toNat : Nat)
  | true, true => complement ((complement m).toNat ||| (complement n).toNat : Nat)

/-- The bits that at least one of two integers has, in two's complement. -/
def bitOr (m n : Int) : Int := complement (bitAnd (complement m) (complement n))

/-- The bits that exactly one of two integers has, in two's complement. -/
def bitXor (m n : Int) : Int := bitOr m n - bitAnd m n

/-- The number of bits that no integer reaches. -/
def bitBound : Nat := Nat.pow 2 32

/-- The least shift that is not even tried. -/
def shiftBound : Nat := 30 * Nat.pow 2 61

/-- An operation on integers, except for powers and exact division. -/
def intOp (op : BinaryOp) (m n : Int) : Eval Int :=
  match op with
  | .add => pure (m + n)
  | .sub => pure (m - n)
  | .mul => pure (m * n)
  | .floorDiv => if n = 0 then Eval.fail .divisionByZero else pure (Int.fdiv m n)
  | .mod => if n = 0 then Eval.fail .divisionByZero else pure (Int.fmod m n)
  | .bitAnd => pure (bitAnd m n)
  | .bitOr => pure (bitOr m n)
  | .bitXor => pure (bitXor m n)
  | .shiftLeft =>
      if n < 0 then Eval.fail .wrongValue
      else if m = 0 then pure 0
      else if shiftBound ≤ n.toNat then Eval.fail .overflow
      else if bitBound ≤ n.toNat then Eval.fail .tooLarge
      else pure (m * Int.pow 2 n.toNat)
  | .shiftRight =>
      if n < 0 then Eval.fail .wrongValue
      else if bitBound ≤ n.toNat then pure (if m < 0 then -1 else 0)
      else pure (Int.fdiv m (Int.pow 2 n.toNat))
  | _ => Eval.fail .wrongType

/-- The exact quotient of two integers, rounded to a floating point number. -/
def intQuotient (m n : Int) : Eval Float :=
  if n = 0 then Eval.fail .divisionByZero
  else
    let x := Decimal.nearestRatio m.natAbs n.natAbs
    if x.isFinite then pure (withSign (decide (m < 0) != decide (n < 0)) x)
    else Eval.fail .overflow

/-! ## Floating point numbers -/

/-- The remainder with the sign of the divisor. -/
def floatMod (x y : Float) : Eval Float :=
  if y == 0 then Eval.fail .divisionByZero
  else
    let r := Decimal.remainder x y
    if r == 0 then pure (withSign (decide (y < 0)) 0)
    else if decide (y < 0) != decide (r < 0) then pure (r + y)
    else pure r

/-- The quotient rounded toward minus infinity. -/
def floatFloorDiv (x y : Float) : Eval Float :=
  if y == 0 then Eval.fail .divisionByZero
  else
    let r := Decimal.remainder x y
    let q := (x - r) / y
    let q := if !(r == 0) && decide (y < 0) != decide (r < 0) then q - 1 else q
    if q == 0 then pure (withSign (Decimal.isNegative (x / y)) 0)
    else
      let f := q.floor
      pure (if 0.5 < q - f then f + 1 else f)

/-- Whether a number is infinite. -/
def isInfinite (x : Float) : Bool := !x.isFinite && !x.isNaN

/-! ## Complex numbers -/

/-- The product of two complex numbers. -/
def complexMul (a b c d : Float) : Float × Float := (a * c - b * d, a * d + b * c)

/-- The quotient of two complex numbers, the second of which is not zero.  The larger part of the
divisor is divided by first. -/
def complexDiv (a b c d : Float) : Float × Float :=
  if d.abs ≤ c.abs then
    let ratio := d / c
    let denom := c + d * ratio
    ((a + b * ratio) / denom, (b - a * ratio) / denom)
  else if c.abs ≤ d.abs then
    let ratio := c / d
    let denom := c * ratio + d
    ((a * ratio + b) / denom, (b * ratio - a) / denom)
  else (0 / 0, 0 / 0)

/-- A natural power of a complex number `x`, times `acc`, by repeated squaring; `fuel` bounds the
bits of the exponent. -/
def complexNatPow : (fuel n : Nat) → (x acc : Float × Float) → Float × Float
  | 0, _, _, acc => acc
  | fuel + 1, n, x, acc =>
      if n = 0 then acc
      else
        let acc := if n % 2 = 1 then complexMul acc.1 acc.2 x.1 x.2 else acc
        complexNatPow fuel (n / 2) (complexMul x.1 x.2 x.1 x.2) acc

/-- The largest size of an exponent for which a power is a product. -/
def productBound : Float := 100

/-- A power of complex numbers: a product for a small whole exponent, and otherwise by size and
angle. -/
def complexPow (a b c d : Float) : Eval Number := do
  let (re, im) ←
    if d == 0 && c.abs ≤ productBound && Decimal.isInteger c then do
      let n := (Decimal.truncated? c).getD 0
      let p := complexNatPow 8 n.natAbs (a, b) (1, 0)
      if 0 < n then pure p
      else if p.1 == 0 && p.2 == 0 then Eval.fail .divisionByZero
      else pure (complexDiv 1 0 p.1 p.2)
    else if a == 0 && b == 0 then
      if d != 0 || c < 0 then Eval.fail .divisionByZero else pure (0, 0)
    else
      let size := Decimal.hypotenuse a b
      let angle := Float.atan2 b a
      let phase := angle * c
      let length := Float.pow size c
      let (length, phase) :=
        if d != 0 then (length * Float.exp (-angle * d), phase + d * Float.log size)
        else (length, phase)
      pure (length * Float.cos phase, length * Float.sin phase)
  if isInfinite re || isInfinite im then Eval.fail .overflow else pure (.complex re im)

/-- An operation on complex numbers. -/
def complexOp (op : BinaryOp) (a b c d : Float) : Eval Number :=
  match op with
  | .add => pure (.complex (a + c) (b + d))
  | .sub => pure (.complex (a - c) (b - d))
  | .mul =>
      let (re, im) := complexMul a b c d
      pure (.complex re im)
  | .div =>
      if c == 0 && d == 0 then Eval.fail .divisionByZero
      else
        let (re, im) := complexDiv a b c d
        pure (.complex re im)
  | .pow => complexPow a b c d
  | _ => Eval.fail .wrongType

/-- A power of floating point numbers.  A negative base with a broken exponent has a complex
power. -/
def floatPow (x y : Float) : Eval Number :=
  if x == 0 && y < 0 && y.isFinite then Eval.fail .divisionByZero
  else if x < 0 && x.isFinite && y.isFinite && !Decimal.isInteger y then complexPow x 0 y 0
  else
    let z := Float.pow x y
    if isInfinite z && x.isFinite && y.isFinite then Eval.fail .overflow else pure (.float z)

/-- An operation on floating point numbers. -/
def floatOp (op : BinaryOp) (x y : Float) : Eval Number :=
  match op with
  | .add => pure (.float (x + y))
  | .sub => pure (.float (x - y))
  | .mul => pure (.float (x * y))
  | .div => if y == 0 then Eval.fail .divisionByZero else pure (.float (x / y))
  | .floorDiv => do pure (.float (← floatFloorDiv x y))
  | .mod => do pure (.float (← floatMod x y))
  | .pow => floatPow x y
  | _ => Eval.fail .wrongType

/-! ## Numbers -/

/-- The real and the imaginary part of a number. -/
def Number.parts : Number → Eval (Float × Float)
  | .int n => do pure (← floatOfInt n, 0)
  | .float x => pure (x, 0)
  | .complex re im => pure (re, im)

/-- A power of an integer.  The powers of zero, one and minus one stay small whatever the
exponent. -/
def naturalPow (m : Int) (n : Nat) : Eval Int :=
  if m.natAbs ≤ 1 then pure (if n = 0 then 1 else if n % 2 = 0 then m * m else m)
  else if bitBound ≤ m.natAbs.log2 * n then Eval.fail .tooLarge
  else pure (Int.pow m n)

/-- A power of integers; a negative exponent leads to floating point numbers. -/
def intPow (m n : Int) : Eval Number :=
  if 0 ≤ n then do pure (.int (← naturalPow m n.toNat))
  else if m = 0 then Eval.fail .divisionByZero
  else do floatPow (← floatOfInt m) (← floatOfInt n)

/-- An operation on numbers. -/
def numberOp (op : BinaryOp) : Number → Number → Eval Number
  | .int m, .int n =>
      match op with
      | .div => do pure (.float (← intQuotient m n))
      | .pow => intPow m n
      | op => do pure (.int (← intOp op m n))
  | .int m, .float y => do floatOp op (← floatOfInt m) y
  | .float x, .int n => do floatOp op x (← floatOfInt n)
  | .float x, .float y => floatOp op x y
  | m, n => do
      let (a, b) ← m.parts
      let (c, d) ← n.parts
      complexOp op a b c d

/-- An operation with one operand on a number. -/
def numberUnary (op : UnaryOp) : Number → Eval Number
  | .int n =>
      pure (.int (match op with
        | .negate => -n
        | .plus => n
        | .invert => complement n))
  | .float x =>
      match op with
      | .negate => pure (.float (-x))
      | .plus => pure (.float x)
      | .invert => Eval.fail .wrongType
  | .complex re im =>
      match op with
      | .negate => pure (.complex (-re) (-im))
      | .plus => pure (.complex re im)
      | .invert => Eval.fail .wrongType

/-- The size of a number. -/
def absolute : Number → Eval Number
  | .int n => pure (.int n.natAbs)
  | .float x => pure (.float x.abs)
  | .complex re im =>
      let size := Decimal.hypotenuse re im
      if isInfinite size && re.isFinite && im.isFinite then Eval.fail .overflow
      else pure (.float size)

/-! ## Rounding -/

/-- A finite floating point number without its fraction. -/
def intOfFloat (x : Float) : Eval Int :=
  match Decimal.truncated? x with
  | some n => pure n
  | none => if x.isNaN then Eval.fail .wrongValue else Eval.fail .overflow

/-- The integer nearest to a floating point number, a tie to the even neighbour. -/
def roundedInt (x : Float) : Eval Int :=
  match Decimal.Binary.ofFloat x with
  | .finite negative mantissa exponent =>
      let (num, den) := Decimal.ratio mantissa exponent
      pure (Decimal.signed negative (Decimal.roundDiv num den))
  | .nan => Eval.fail .wrongValue
  | .infinite _ => Eval.fail .overflow

/-- A floating point number rounded to a number of places behind the point. -/
def roundedFloat (x : Float) (places : Int) : Eval Float :=
  match Decimal.Binary.ofFloat x with
  | .finite negative mantissa exponent =>
      if 330 < places then pure x
      else if places < -310 then pure (withSign negative 0)
      else
        let (num, den) := Decimal.ratio mantissa exponent
        let (a, b) := Decimal.scaleTen num den (-places)
        let y := Decimal.nearest (Decimal.roundDiv a b) (-places)
        if y.isFinite then pure (withSign negative y) else Eval.fail .overflow
  | _ => pure x

/-- An integer rounded to a number of places, which matters only if they stand in front of the
point. -/
def roundedPlaces (n : Int) (places : Int) : Int :=
  if 0 ≤ places then n
  else if n.natAbs.log2 + 1 < places.natAbs then 0
  else
    let unit := Nat.pow 10 places.natAbs
    Decimal.signed (decide (n < 0)) (Decimal.roundDiv n.natAbs unit * unit)

theorem bitOr_eq (m n : Int) :
    bitOr m n = complement (bitAnd (complement m) (complement n)) := rfl

end BoundSql.Value
