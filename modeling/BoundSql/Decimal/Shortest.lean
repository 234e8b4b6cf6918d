import BoundSql.Decimal.Binary
set_option autoImplicit false

/-!
# The shortest digits of a floating point number

The fewest decimal digits from which a positive floating point number reads back.  A decimal
reads back if it lies in the interval of the reals that round to the number, whose ends belong to
it if the mantissa is even.  For one digit, two digits and so on the two neighbours of the number
on that decimal grid are tried; of two neighbours that read back the nearer is taken.
-/

namespace BoundSql.Decimal

/-- A positive decimal number `digits · 10^exponent`. -/
structure Digits where
  digits : Nat
  exponent : Int
  deriving DecidableEq, Repr, Inhabited

/-- The text of a natural number. -/
def natText (n : Nat) : String := Nat.repr n

/-- The number of decimal digits of a natural number. -/
def digitCount (n : Nat) : Nat := (natText n).length

/-- Whether `10^k ≤ num / den`. -/
def tenPowLe (num den : Nat) (k : Int) : Bool :=
  if 0 ≤ k then den * Nat.pow 10 k.toNat ≤ num else den ≤ num * Nat.pow 10 k.natAbs

/-- The exponent of the leading digit of `num / den`. -/
def leadingExponent (num den : Nat) : Int :=
  let estimate : Int := (digitCount num : Int) - (digitCount den : Int)
  if tenPowLe num den estimate then estimate else estimate - 1

/-- `num / den` divided by `10^k`, as a quotient. -/
def scaleTen (num den : Nat) (k : Int) : Nat × Nat :=
  if 0 ≤ k then (num, den * Nat.pow 10 k.toNat) else (num * Nat.pow 10 k.natAbs, den)

/-- Whether the decimal `d · 10^k` lies between `low / den` and `high / den`. -/
def liesWithin (closed : Bool) (low high den : Nat) (d : Nat) (k : Int) : Bool :=
  let (a, b) := if 0 ≤ k then (d * Nat.pow 10 k.toNat * den, 1) else (d * den, Nat.pow 10 k.natAbs)
  if closed then low * b ≤ a && a ≤ high * b else low * b < a && a < high * b

/-- Drops the zeros at the end of the digits. -/
def Digits.trimmed (d : Digits) : (fuel : Nat) → Digits
  | 0 => d
  | fuel + 1 =>
      if d.digits % 10 = 0 then Digits.trimmed ⟨d.digits / 10, d.exponent + 1⟩ fuel else d

/-- The neighbours of `num / den` on the grid with `places` digits: the one below, and whether
the one above is nearer (a tie goes to the even digit). -/
def gridNeighbours (num den : Nat) (k : Int) : Nat × Bool :=
  let (a, b) := scaleTen num den k
  let d := a / b
  let r := a % b
  (d, decide (b < 2 * r) || (decide (b = 2 * r) && d % 2 == 1))

/-- The first grid, counted in digits, on which a neighbour reads back; `left` more grids are
tried after `places` digits. -/
def searchGrid (closed : Bool) (num low high den : Nat) (lead : Int) :
    (left places : Nat) → Digits
  | 0, places =>
      let k := lead - (places : Int) + 1
      let (a, b) := scaleTen num den k
      ⟨roundDiv a b, k⟩
  | left + 1, places =>
      let k := lead - (places : Int) + 1
      let (d, upIsNearer) := gridNeighbours num den k
      let below := liesWithin closed low high den d k
      let above := liesWithin closed low high den (d + 1) k
      if below && above then ⟨if upIsNearer then d + 1 else d, k⟩
      else if below then ⟨d, k⟩
      else if above then ⟨d + 1, k⟩
      else searchGrid closed num low high den lead left (places + 1)

/-- The shortest digits of the positive number `mantissa · 2^exponent`.  All of it is counted in
quarters of the unit of the mantissa, so that the ends of the interval are whole. -/
def shortest (mantissa : Nat) (exponent : Int) : Digits :=
  let (num, den) := ratio (4 * mantissa) exponent
  let (unit, _) := ratio 1 exponent
  let below := if mantissa = Nat.pow 2 52 ∧ -1074 < exponent then unit else 2 * unit
  let lead := leadingExponent num (4 * den)
  (searchGrid (mantissa % 2 == 0) num (num - below) (num + 2 * unit) (4 * den) lead 16 1).trimmed
    20

end BoundSql.Decimal
