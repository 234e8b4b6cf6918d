import BoundSql.Text.CodePoint
import BoundSql.Text.Digit
set_option autoImplicit false

/-!
# Formats

A format says how a value is laid out as text: fill character, alignment, sign, width, grouping of
digits, precision and presentation.

Reading a format is separate from using it: `read?` takes the text of a format apart, and what
cannot be read is refused whatever is to be laid out.  Not every part makes sense for every value,
and that is decided by the kind of the value elsewhere.  Padding and grouping are shared by all
kinds and stand here (`pad`, `grouped`).
-/

namespace BoundSql.Text

/-- Where padding goes. -/
inductive Align where
  | left | right | center
  /-- between the sign and the digits -/
  | inside
  deriving DecidableEq, Repr, Inhabited

/-- What stands in front of a number that is not negative. -/
inductive SignStyle where
  | minusOnly | plus | blank
  deriving DecidableEq, Repr, Inhabited

/-- A format. -/
structure Format where
  fill : Option CodePoint := none
  align : Option Align := none
  sign : Option SignStyle := none
  /-- a zero that rounding made loses its sign -/
  plainZero : Bool := false
  /-- the longer form of the presentation -/
  alternate : Bool := false
  /-- a zero in front of the width -/
  zeros : Bool := false
  width : Option Nat := none
  grouping : Option Char := none
  precision : Option Nat := none
  presentation : Option Char := none
  deriving DecidableEq, Repr, Inhabited

namespace Format

/-- The alignment that a character stands for. -/
def alignOf? (c : CodePoint) : Option Align :=
  match c with
  | .char '<' => some .left
  | .char '>' => some .right
  | .char '^' => some .center
  | .char '=' => some .inside
  | _ => none

/-- Reads fill and alignment. -/
def readAlign (f : Format) (cs : Text) : Format × Text :=
  match cs with
  | a :: b :: rest =>
      match alignOf? b with
      | some align => ({ f with fill := some a, align := some align }, rest)
      | none =>
          match alignOf? a with
          | some align => ({ f with align := some align }, b :: rest)
          | none => (f, cs)
  | [a] =>
      match alignOf? a with
      | some align => ({ f with align := some align }, [])
      | none => (f, cs)
  | [] => (f, cs)

/-- Reads the style of the sign. -/
def readSign (f : Format) (cs : Text) : Format × Text :=
  match cs with
  | .char '+' :: rest => ({ f with sign := some .plus }, rest)
  | .char '-' :: rest => ({ f with sign := some .minusOnly }, rest)
  | .char ' ' :: rest => ({ f with sign := some .blank }, rest)
  | cs => (f, cs)

/-- Drops a character from the front, if it stands there. -/
def readFlag (c : Char) (cs : Text) : Bool × Text :=
  match cs with
  | d :: rest => if d = .char c then (true, rest) else (false, cs)
  | [] => (false, [])

/-- The value of a decimal digit of any script. -/
def digitOf? (c : CodePoint) : Option Nat := c.char?.bind decimalDigit?

/-- Reads a number without sign, if one stands there; `digit?` tells the values of the digits. -/
def readNumber (digit? : CodePoint → Option Nat) (cs : Text) : Option Nat × Text :=
  let ds := cs.takeWhile fun c => (digit? c).isSome
  if ds.isEmpty then (none, cs)
  else (some (ds.foldl (fun n c => n * 10 + (digit? c).getD 0) 0), cs.drop ds.length)

/-- Reads the grouping of digits; there can be only one. -/
def readGrouping (f : Format) (cs : Text) : Option (Format × Text) :=
  match cs with
  | .char ',' :: rest =>
      match rest with
      | .char ',' :: _ | .char '_' :: _ => none
      | rest => some ({ f with grouping := some ',' }, rest)
  | .char '_' :: rest =>
      match rest with
      | .char ',' :: _ | .char '_' :: _ => none
      | rest => some ({ f with grouping := some '_' }, rest)
  | cs => some (f, cs)

/-- The least number that is too large for a width or a precision. -/
def sizeBound : Nat := Nat.pow 2 63

/-- Reads a format. -/
def read? (cs : Text) : Option Format := do
  let (f, cs) := readAlign {} cs
  let (f, cs) := readSign f cs
  let (plainZero, cs) := readFlag 'z' cs
  let (alternate, cs) := readFlag '#' cs
  let (zeros, cs) := if f.fill.isNone then readFlag '0' cs else (false, cs)
  let (width, cs) := readNumber digitOf? cs
  if width.any (sizeBound ≤ ·) then none
  let (f, cs) ← readGrouping { f with plainZero, alternate, zeros, width } cs
  let (f, cs) ← match cs with
    | .char '.' :: rest =>
        match readNumber digitOf? rest with
        | (some n, rest) =>
            if sizeBound ≤ n then none else some ({ f with precision := some n }, rest)
        | (none, _) => none
    | cs => some (f, cs)
  match cs with
  | [] => some f
  | [c] => some { f with presentation := some (c.char?.getD '\ufffd') }
  | _ => none

/-- The code point that fills up the width. -/
def fillPoint (f : Format) : CodePoint := f.fill.getD (if f.zeros then '0' else ' ')

/-- The alignment, given the one that the kind of value has by itself. -/
def alignment (f : Format) (default : Align) : Align :=
  f.align.getD (if f.zeros && default == .right then .inside else default)

/-- Pads a text to the width; `lead` is the part that stays in front of padding inside. -/
def pad (f : Format) (default : Align) (lead body : Text) : Text :=
  let missing := f.width.getD 0 - (lead.length + body.length)
  let fill (n : Nat) : Text := List.replicate n f.fillPoint
  match f.alignment default with
  | .left => lead ++ body ++ fill missing
  | .right => fill missing ++ (lead ++ body)
  | .center => fill (missing / 2) ++ (lead ++ body) ++ fill (missing - missing / 2)
  | .inside => lead ++ fill missing ++ body

/-- Digits in groups of the given size, counted from the end. -/
def grouped (size : Nat) (mark : Char) (digits : List Char) : List Char :=
  (digits.reverse.mapIdx fun i c => if i ≠ 0 ∧ i % size = 0 then [c, mark] else [c]).reverse
    |>.flatMap (fun cs => cs)

/-- The least number of digits, not below `count`, that takes up `width` characters when they
stand in groups. -/
def groupedCount (size width : Nat) : (fuel count : Nat) → Nat
  | 0, count => count
  | fuel + 1, count =>
      if width ≤ count + (count - 1) / size then count
      else groupedCount size width fuel (count + 1)

/-- The sign of a number. -/
def signText (f : Format) (negative : Bool) : List Char :=
  if negative then ['-']
  else
    match f.sign with
    | some .plus => ['+']
    | some .blank => [' ']
    | _ => []

/-- Lays out a number: its sign, marks of its base, the digits in front of the point, and whatever
follows them. -/
def number (f : Format) (negative : Bool) (marks digits rest : List Char) (groupSize : Nat) :
    Text :=
  let lead := f.signText negative ++ marks
  let digits := match f.grouping with
    | none => digits
    | some mark =>
        let room := if f.alignment .right = .inside ∧ f.fillPoint = .char '0' then
            f.width.getD 0 - (lead.length + rest.length)
          else 0
        let count := groupedCount groupSize room room digits.length
        grouped groupSize mark (List.replicate (count - digits.length) '0' ++ digits)
  f.pad .right (ofChars lead) (ofChars (digits ++ rest))

theorem length_pad (f : Format) (default : Align) (lead body : Text) :
    (f.pad default lead body).length = max (f.width.getD 0) (lead.length + body.length) := by
  simp only [pad]
  split <;> simp only [List.length_append, List.length_replicate] <;> omega

end Format

end BoundSql.Text
