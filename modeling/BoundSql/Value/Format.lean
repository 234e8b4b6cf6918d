import BoundSql.Text.Format
import BoundSql.Value.Arithmetic
import BoundSql.Value.Show
set_option autoImplicit false

/-!
# Formatting values

Lays out texts, integers and floating point numbers as a format says.  Values of other kinds know
the empty format only, which stands for their plain text.

Floating point numbers are laid out from exact digits, which are rounded once to the number of
places that is asked for, a tie to the even digit.  A precision without a presentation means
significant digits, and the shortest digits are used if there is none.  A format that does not fit
the kind of the value is refused.
-/

namespace BoundSql.Value

open BoundSql.Text (Format)

/-- Lays out a text. -/
def formatText (f : Format) (s : Text) : Eval Text := do
  if f.sign.isSome || f.plainZero || f.alternate || f.grouping.isSome
      || f.align == some .inside || !(f.presentation.all (· == 's')) then
    Eval.fail .wrongValue
  else
    let cs := match f.precision with
      | some n => s.take n
      | none => s
    Eval.room (f.width.getD 0)
    pure ({ f with zeros := false, fill := some f.fillPoint }.pad .left [] cs)

/-- The digits of a natural number in a base up to sixteen, the highest first. -/
def digitsIn (base n : Nat) : List Char := Nat.toDigits base n

/-- The code point of a number; `excess` is what becomes of a number that none has. -/
def pointOf (excess : Fault) (n : Int) : Eval Text.CodePoint :=
  if n < 0 then Eval.fail excess else Eval.orFail excess (Text.CodePoint.ofNat? n.toNat)

/-- Lays out an integer by its own presentations. -/
def formatInt (f : Format) (presentation : Char) (n : Int) : Eval Text := do
  if f.precision.isSome || f.plainZero then Eval.fail .wrongValue
  Eval.room (f.width.getD 0)
  let negative := decide (n < 0)
  let inBase (base : Nat) (marks : String) (upper : Bool) : Eval Text :=
    if f.grouping == some ',' then Eval.fail .wrongValue
    else
      let shift (cs : List Char) := if upper then cs.map Char.toUpper else cs
      let marks := if f.alternate then shift marks.toList else []
      pure (f.number negative marks (shift (digitsIn base n.natAbs)) [] 4)
  match presentation with
  | 'b' => inBase 2 "0b" false
  | 'o' => inBase 8 "0o" false
  | 'x' => inBase 16 "0x" false
  | 'X' => inBase 16 "0x" true
  | 'c' =>
      if f.sign.isSome || f.alternate || f.grouping.isSome then Eval.fail .wrongValue
      else do pure (f.pad .right [] [← pointOf .overflow n])
  | 'n' =>
      if f.grouping.isSome then Eval.fail .wrongValue
      else do
        let digits ← intText n.natAbs
        pure (f.number negative [] digits.toList [] 3)
  | _ => do
      let digits ← intText n.natAbs
      pure (f.number negative [] digits.toList [] 3)

/-- Drops zeros at the end of the digits behind a point. -/
def dropZeros (cs : List Char) : List Char := (cs.reverse.dropWhile (· == '0')).reverse

/-- The digits of a number in front of the point, and what follows: point, fraction, exponent. -/
structure Laid where
  whole : List Char
  rest : List Char
  deriving DecidableEq, Repr, Inhabited

/-- A fraction behind its point; an empty one has a point only if the format asks for it. -/
def fractionText (alternate : Bool) (cs : List Char) : List Char :=
  if cs.isEmpty then if alternate then ['.'] else [] else '.' :: cs

/-- Positional notation with a fixed number of places. -/
def laidFixed (num den places : Nat) (alternate : Bool) : Laid :=
  let (whole, fraction) := Decimal.fixed num den places
  ⟨whole.toList, fractionText alternate fraction.toList⟩

/-- Notation with an exponent and a fixed number of places. -/
def laidScientific (num den places : Nat) (alternate : Bool) (mark : Char) : Laid :=
  let (digits, exponent) := Decimal.scientific num den places
  let (whole, fraction) := Decimal.pointed digits places
  ⟨whole.toList,
    fractionText alternate fraction.toList ++ mark :: (Decimal.exponentText exponent).toList⟩

/-- The notation that suits the size of a number, with a number of digits in all.  `pointed`
keeps a digit behind the point. -/
def laidGeneral (num den digits : Nat) (alternate pointed : Bool) (mark : Char) : Laid :=
  let digits := if digits = 0 then 1 else digits
  let (ds, exponent) := Decimal.scientific num den (digits - 1)
  let bound : Int := if pointed then (digits : Int) - 1 else digits
  let trim (cs : List Char) := if alternate then cs else dropZeros cs
  if exponent < -4 ∨ bound ≤ exponent then
    let (whole, fraction) := Decimal.pointed ds (digits - 1)
    ⟨whole.toList,
      fractionText alternate (trim fraction.toList)
        ++ mark :: (Decimal.exponentText exponent).toList⟩
  else
    let places := ((digits : Int) - 1 - exponent).toNat
    let (whole, fraction) := Decimal.pointed ds places
    let fraction := trim fraction.toList
    ⟨whole.toList,
      if fraction.isEmpty && pointed then ['.', '0'] else fractionText alternate fraction⟩

/-- The shortest digits of a number, laid out. -/
def laidShortest (alternate : Bool) (x : Float) : Laid :=
  let cs := (Decimal.floatText x.abs).toList
  let whole := cs.takeWhile Char.isDigit
  let rest := cs.drop whole.length
  ⟨whole, if alternate && !rest.contains '.' then '.' :: rest else rest⟩

/-- Whether all digits that a number was laid out with are zeros. -/
def Laid.isZero (l : Laid) : Bool :=
  (l.whole ++ l.rest.takeWhile fun c => c.isDigit || c == '.').all fun c => c == '0' || c == '.'

/-- The least precision that is refused. -/
def precisionBound : Nat := Nat.pow 2 31

/-- The shortest digits of a number without a zero behind the point, laid out. -/
def laidBare (alternate : Bool) (x : Float) : Laid :=
  let l := laidShortest alternate x
  if l.rest = ['.', '0'] then ⟨l.whole, if alternate then ['.'] else []⟩ else l

/-- Lays out a floating point number by its presentation; `pointed` keeps a digit behind the point
where no presentation is given. -/
def layoutFloat (pointed : Bool) (f : Format) (x : Float) : Eval Text := do
  if f.presentation == some 'n' && f.grouping.isSome then Eval.fail .wrongValue
  if f.precision.any (precisionBound ≤ ·) then Eval.fail .wrongValue
  Eval.room (f.width.getD 0)
  Eval.room (f.precision.getD 0)
  let upper := f.presentation.any Char.isUpper
  let places := f.precision.getD 6
  let percent := f.presentation == some '%'
  let mark := if upper then 'E' else 'e'
  let x := if percent then x * 100 else x
  match Decimal.Binary.ofFloat x with
  | .finite negative mantissa exponent => do
      let (num, den) := Decimal.ratio mantissa exponent
      let laid : Laid ← match f.presentation with
        | none =>
            pure (match f.precision with
              | none => if pointed then laidShortest f.alternate x else laidBare f.alternate x
              | some n => laidGeneral num den n f.alternate pointed mark)
        | some 'e' | some 'E' => pure (laidScientific num den places f.alternate mark)
        | some 'f' | some 'F' | some '%' => pure (laidFixed num den places f.alternate)
        | some 'g' | some 'G' | some 'n' => pure (laidGeneral num den places f.alternate false mark)
        | some _ => Eval.fail .wrongValue
      let negative := negative && !(f.plainZero && laid.isZero)
      let rest := if percent then laid.rest ++ ['%'] else laid.rest
      pure (f.number negative [] laid.whole rest 3)
  | special => do
      if f.presentation.any fun c => !"eEfFgGn%".toList.contains c then Eval.fail .wrongValue
      let word := match special with
        | .nan => "nan"
        | _ => "inf"
      let word := if upper then word.toUpper else word
      let rest := if percent then ['%'] else []
      let f := { f with grouping := none }
      pure (f.number (special == .infinite true) [] word.toList rest 3)

/-- Lays out a floating point number. -/
def formatFloat (f : Format) (x : Float) : Eval Text := layoutFloat true f x

/-- Lays out a complex number: its parts, the second one with a sign, and the width around both.
Without a presentation the parts stand in parentheses, and a real part that is zero is left out. -/
def formatComplex (f : Format) (re im : Float) : Eval Text := do
  if f.presentation.any fun c => !"eEfFgGn".toList.contains c then Eval.fail .wrongValue
  if f.fillPoint = .char '0' || f.align == some .inside then Eval.fail .wrongValue
  let part := { f with fill := none, align := none, zeros := false, width := none }
  let isBare := f.presentation.isNone && re == 0 && !Decimal.isNegative re
  let real ← if isBare then pure [] else layoutFloat false part re
  let imaginary ← layoutFloat false (if isBare then part else { part with sign := some .plus }) im
  let whole := real ++ imaginary ++ [.char 'j']
  let whole := if isBare || f.presentation.isSome then whole else .char '(' :: whole ++ [.char ')']
  Eval.room (f.width.getD 0)
  pure (f.pad .right [] whole)

/-- Presentations that lay out an integer as a floating point number. -/
def isFloatPresentation (c : Char) : Bool := "eEfFgG%".toList.contains c

/-- Lays out a value; the format is given as text. -/
def formatValue (v : Val) (format : Text) : Eval Text := do
  if format.isEmpty then textOf v
  else
    match v with
    | .str s => do formatText (← Eval.orFail .wrongValue (Format.read? format)) s
    | .float _ | .nan _ => do
        let x := (asFloat? v).getD 0
        formatFloat (← Eval.orFail .wrongValue (Format.read? format)) x
    | .int _ | .bool _ => do
        let n := (asInt? v).getD 0
        let f ← Eval.orFail .wrongValue (Format.read? format)
        match f.presentation with
        | none => formatInt f 'd' n
        | some c =>
            if "bcdnoxX".toList.contains c then formatInt f c n
            else if isFloatPresentation c then do formatFloat f (← floatOfInt n)
            else Eval.fail .wrongValue
    | .complex re im => do formatComplex (← Eval.orFail .wrongValue (Format.read? format)) re im
    | _ => Eval.fail .wrongType

end BoundSql.Value
