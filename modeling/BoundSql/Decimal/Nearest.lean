set_option autoImplicit false

/-!
# The nearest floating point number

Quotients of natural numbers and decimal numerals as binary floating point numbers of 64 bits,
rounded to the nearest such number; a tie goes to the even neighbour.  All of it is done in
natural numbers, and only the last step puts the bits together.

Rounding once matters.  A numeral with many digits is a quotient of two large integers, and dividing
two rounded numbers would round three times.  Results that are too large are infinite and those that
are too small lose bits or become zero, as the format has it.  `roundDiv_near` and `roundDiv_mul`
say what the division that all of this rests on comes to.
-/

namespace BoundSql.Decimal

/-- `num / den` rounded to the nearest natural number, a tie to the even neighbour. -/
def roundDiv (num den : Nat) : Nat :=
  let q := num / den
  let r := num % den
  if 2 * r < den then q
  else if den < 2 * r then q + 1
  else if q % 2 = 0 then q else q + 1

/-- Positive infinity. -/
def infinity : Float := Float.ofBits 0x7FF0000000000000

/-- The floating point number `mantissa · 2^exponent`, for a mantissa of at most 53 bits that
has 53 bits unless the exponent is the least one. -/
def assemble (mantissa : Nat) (exponent : Int) : Float :=
  if mantissa < Nat.pow 2 52 then Float.ofBits mantissa.toUInt64
  else
    let biased := (exponent + 1075).toNat
    if 2047 ≤ biased then infinity
    else Float.ofBits (biased * Nat.pow 2 52 + (mantissa - Nat.pow 2 52)).toUInt64

/-- `num / den` times `2^(-exponent)`, rounded. -/
def scaledRound (num den : Nat) (exponent : Int) : Nat :=
  if 0 ≤ exponent then roundDiv num (den * Nat.pow 2 exponent.toNat)
  else roundDiv (num * Nat.pow 2 exponent.natAbs) den

/-- Whether `2^k ≤ num / den`. -/
def powLe (num den : Nat) (k : Int) : Bool :=
  if 0 ≤ k then den * Nat.pow 2 k.toNat ≤ num else den ≤ num * Nat.pow 2 k.natAbs

/-- The floating point number nearest to `num / den`. -/
def nearestRatio (num den : Nat) : Float :=
  if num = 0 ∨ den = 0 then Float.ofBits 0
  else
    let estimate : Int := (Nat.log2 num : Int) - (Nat.log2 den : Int)
    let k := if powLe num den estimate then estimate else estimate - 1
    let exponent := max (k - 52) (-1074)
    let mantissa := scaledRound num den exponent
    if mantissa = Nat.pow 2 53 then assemble (Nat.pow 2 52) (exponent + 1)
    else assemble mantissa exponent

/-- An upper bound of the number of decimal digits of a natural number. -/
def digitBound (n : Nat) : Nat := Nat.log2 n / 3 + 1

/-- The floating point number nearest to `mantissa · 10^exponent`.  Exponents far outside the
range of the format are cut off first, so that no power of ten is formed that cannot matter. -/
def nearest (mantissa : Nat) (exponent : Int) : Float :=
  if mantissa = 0 then Float.ofBits 0
  else if 400 < exponent then infinity
  else if exponent + (digitBound mantissa : Int) < -400 then Float.ofBits 0
  else if 0 ≤ exponent then nearestRatio (mantissa * Nat.pow 10 exponent.toNat) 1
  else nearestRatio mantissa (Nat.pow 10 exponent.natAbs)

/-- The rounded quotient is within half a unit of the quotient. -/
theorem roundDiv_near (num den : Nat) (h : 0 < den) :
    2 * (roundDiv num den * den) ≤ 2 * num + den
      ∧ 2 * num ≤ 2 * (roundDiv num den * den) + den := by
  have hd := Nat.div_add_mod num den
  have hm := Nat.mod_lt num h
  have e : den * (num / den) = num / den * den := Nat.mul_comm _ _
  have e' : (num / den + 1) * den = num / den * den + den := Nat.succ_mul _ _
  simp only [roundDiv]
  split
  · omega
  · split
    · omega
    · split <;> omega

/-- A multiple of the divisor is divided exactly. -/
theorem roundDiv_mul (q den : Nat) (h : 0 < den) : roundDiv (q * den) den = q := by
  simp [roundDiv, Nat.mul_div_cancel q h, h]

end BoundSql.Decimal
