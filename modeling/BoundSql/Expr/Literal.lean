import BoundSql.Decimal.Nearest
import BoundSql.Expr.Token
import BoundSql.Text.CharacterNames
import BoundSql.Text.Hex
set_option autoImplicit false

/-!
# Literals

Reads numerals and the escapes of text literals.  A numeral may hold single underscores between
its digits; it may be followed by a word only if that word is one that can stand behind a number.

A numeral is read together with the check of what follows it, since a word that touches a numeral is
either one of a few keywords or a mistake.  Escapes are read after a literal has been cut off: what
they stand for depends on its letters, and for a string of bytes there are fewer of them.  A
backslash in front of any other character is a character by itself, while an escape that is begun
and not completed makes the source unacceptable.
-/

namespace BoundSql.Expr

open BoundSql.Text (CodePoint digitsValue isDigitOf)

/-! ## Numerals -/

/-- A character that can stand in a name, as far as the shape of the text tells. -/
def isWordChar (c : Char) : Bool := c.isAlphanum || c == '_' || 0x80 ≤ c.toNat

/-- The text begins with a character that satisfies `p`. -/
def headIs (p : Char → Bool) (cs : List Char) : Bool := cs.head?.any p

/-- The longest run of digits, with single underscores between them, and the text behind it.  An
underscore that no digit follows is refused. -/
def digitRun (base : Nat) : List Char → Option (List Char × List Char)
  | [] => some ([], [])
  | c :: cs =>
      if isDigitOf base c then (digitRun base cs).map fun r => (c :: r.1, r.2)
      else if c = '_' then
        if headIs (isDigitOf base) cs then digitRun base cs else none
      else some ([], c :: cs)

/-- The text begins with the given word, and the word ends there. -/
def beginsWithWord (word : String) (cs : List Char) : Bool :=
  word.toList.isPrefixOf cs && !headIs isWordChar (cs.drop word.length)

/-- Words that may follow a numeral at once. -/
def wordsBehindNumeral : List String := ["and", "else", "for", "or", "not"]

/-- A character that goes on with a word behind the letter `i`. -/
def isBehindI (c : Char) : Bool := c == 'f' || c == 'n' || c == 's'

/-- A numeral may end in front of this text. -/
def endsNumeral (cs : List Char) : Bool :=
  !headIs isWordChar cs || (headIs (· == 'i') cs && headIs isBehindI cs.tail)
    || wordsBehindNumeral.any (beginsWithWord · cs)

/-- Ends a numeral that stands for a constant. -/
def numeralEnd (c : Constant) (cs : List Char) : Option (Constant × List Char) :=
  if endsNumeral cs then some (c, cs) else none

/-- More decimal digits than this are refused in an integer. -/
def integerDigitLimit : Nat := 4300

/-- A letter in either case, or one of two characters that mean the same. -/
def isEither (lower upper c : Char) : Bool := c == lower || c == upper

/-- The digits of a numeral in base two, eight or sixteen, and its end. -/
def basedDigits (base : Nat) (cs : List Char) : Option (Constant × List Char) :=
  if headIs (isDigitOf base) cs then do
    let (digits, rest) ← digitRun base cs
    if headIs Char.isDigit rest then none else numeralEnd (.int (digitsValue base digits)) rest
  else none

/-- A numeral in base two, eight or sixteen, behind its two marking characters.  One underscore
may stand in front of the first digit. -/
def basedNumeral (base : Nat) (cs : List Char) : Option (Constant × List Char) :=
  if headIs (· == '_') cs then basedDigits base cs.tail else basedDigits base cs

/-- What is known of a decimal numeral in front of its end. -/
structure Numeral where
  whole : List Char
  fraction : List Char := []
  exponent : Int := 0
  isFloat : Bool := false
  deriving DecidableEq, Repr, Inhabited

/-- The value of a numeral as a floating point number. -/
def Numeral.toFloat (n : Numeral) : Float :=
  Decimal.nearest (digitsValue 10 (n.whole ++ n.fraction))
    (n.exponent - (n.fraction.length : Int))

/-- Ends a numeral: an imaginary unit may follow.  An integer must not begin with a zero unless
all its digits are zeros; only in front of a word that begins like an exponent such digits stand,
and then for a floating point number. -/
def Numeral.finish (n : Numeral) (rest : List Char) : Option (Constant × List Char) :=
  if headIs (isEither 'j' 'J') rest then numeralEnd (.imaginary n.toFloat) rest.tail
  else if n.isFloat then numeralEnd (.float n.toFloat) rest
  else if n.whole.all (· == '0') then numeralEnd (.int 0) rest
  else if n.whole.head? = some '0' then
    if headIs (· == 'e') rest then numeralEnd (.float n.toFloat) rest else none
  else if integerDigitLimit < n.whole.length then none
  else numeralEnd (.int (digitsValue 10 n.whole)) rest

/-- Reads the digits of an exponent and ends the numeral. -/
def Numeral.exponentDigits (n : Numeral) (sign : Int) (cs : List Char) :
    Option (Constant × List Char) :=
  if headIs Char.isDigit cs then do
    let (digits, rest) ← digitRun 10 cs
    let n := { n with exponent := sign * (digitsValue 10 digits : Int), isFloat := true }
    n.finish rest
  else none

/-- Reads an exponent behind its letter. -/
def Numeral.behindLetter (n : Numeral) (cs : List Char) : Option (Constant × List Char) :=
  if headIs (· == '+') cs then n.exponentDigits 1 cs.tail
  else if headIs (· == '-') cs then n.exponentDigits (-1) cs.tail
  else n.exponentDigits 1 cs

/-- An exponent begins: its letter has a sign or a digit behind it, or else it may still begin a
word. -/
def beginsExponent (cs : List Char) : Bool :=
  headIs (isEither 'e' 'E') cs && headIs (fun c => isEither '+' '-' c || c.isDigit) cs.tail

/-- Reads the exponent of a numeral, if there is one. -/
def Numeral.readExponent (n : Numeral) (cs : List Char) : Option (Constant × List Char) :=
  if beginsExponent cs then n.behindLetter cs.tail else n.finish cs

/-- Reads what follows the point of a decimal numeral. -/
def behindPoint (whole cs : List Char) : Option (Constant × List Char) :=
  if headIs Char.isDigit cs then do
    let (fraction, rest) ← digitRun 10 cs
    Numeral.readExponent { whole, fraction, isFloat := true } rest
  else Numeral.readExponent { whole, isFloat := true } cs

/-- Reads what follows the digits in front of the point of a decimal numeral. -/
def behindWhole (whole cs : List Char) : Option (Constant × List Char) :=
  if headIs (· == '.') cs then behindPoint whole cs.tail else Numeral.readExponent { whole } cs

/-- Reads a decimal numeral whose first character is a digit or a point before a digit. -/
def decimalNumeral (cs : List Char) : Option (Constant × List Char) := do
  let (whole, rest) ← digitRun 10 cs
  behindWhole whole rest

/-- The text begins with a zero and one of the letters that mark a base. -/
def beginsBased (lower upper : Char) (cs : List Char) : Bool :=
  headIs (· == '0') cs && headIs (isEither lower upper) cs.tail

/-- Reads a numeral. -/
def numeral (cs : List Char) : Option (Constant × List Char) :=
  if beginsBased 'x' 'X' cs then basedNumeral 16 cs.tail.tail
  else if beginsBased 'o' 'O' cs then basedNumeral 8 cs.tail.tail
  else if beginsBased 'b' 'B' cs then basedNumeral 2 cs.tail.tail
  else decimalNumeral cs

/-! ## Escapes -/

/-- The character of an escape that consists of one letter. -/
def simpleEscape? (c : Char) : Option Char :=
  match c with
  | '\\' => some '\\'
  | '\'' => some '\''
  | '"' => some '"'
  | 'a' => some '\x07'
  | 'b' => some '\x08'
  | 'f' => some '\x0c'
  | 'n' => some '\n'
  | 'r' => some '\r'
  | 't' => some '\t'
  | 'v' => some '\x0b'
  | _ => none

/-- Exactly `width` hexadecimal digits at the beginning of a text. -/
def hexEscape (width : Nat) (cs : List Char) : Option (Nat × List Char) :=
  let digits := cs.take width
  if digits.length = width ∧ digits.all (isDigitOf 16) then
    some (digitsValue 16 digits, cs.drop width)
  else none

/-- Up to three octal digits, the first of which is known to be there. -/
def octalEscape (cs : List Char) : Nat × List Char :=
  let digits := (cs.take 3).takeWhile (isDigitOf 8)
  (digitsValue 8 digits, cs.drop digits.length)

/-- The text in front of the next closing brace, and the text behind the brace. -/
def upToBrace : List Char → Option (List Char × List Char)
  | [] => none
  | c :: cs => if c = '\x7d' then some ([], cs) else (upToBrace cs).map fun r => (c :: r.1, r.2)

/-- The code point that the number of an escape means, in front of the text behind it. -/
def numberedPoint (r : Nat × List Char) : Option (Text × List Char) :=
  (CodePoint.ofNat? r.1).map fun c => ([c], r.2)

/-- One escape of a text literal, behind its backslash: the code points it stands for, and the
text behind it.  An escape that is not known stands for itself. -/
def textEscape (cs : List Char) : Option (Text × List Char) :=
  match cs with
  | [] => some (['\\'], [])
  | c :: rest =>
      match simpleEscape? c with
      | some d => some ([d], rest)
      | none =>
          if c = '\n' then some ([], rest)
          else if isDigitOf 8 c then numberedPoint (octalEscape cs)
          else if c = 'x' then (hexEscape 2 rest).bind numberedPoint
          else if c = 'u' then (hexEscape 4 rest).bind numberedPoint
          else if c = 'U' then (hexEscape 8 rest).bind numberedPoint
          else if c = 'N' then
            match rest with
            | '\x7b' :: rest => do
                let (name, rest) ← upToBrace rest
                let d ← Text.characterNamed? name
                some ([d], rest)
            | _ => none
          else some (['\\', c], rest)

/-- Replaces the escapes of a text literal; the number of steps is bounded by `fuel`. -/
def unescapeWith : (fuel : Nat) → List Char → Option Text
  | 0, cs => some (Text.ofChars cs)
  | fuel + 1, cs =>
      match cs with
      | [] => some []
      | '\\' :: rest => do
          let (ds, rest) ← textEscape rest
          let tail ← unescapeWith fuel rest
          some (ds ++ tail)
      | c :: rest => (unescapeWith fuel rest).map (.char c :: ·)

/-- Replaces the escapes of a text literal. -/
def unescape (cs : List Char) : Option Text := unescapeWith (cs.length + 1) cs

/-- One escape of a bytes literal, behind its backslash. -/
def byteEscape (cs : List Char) : Option (List Nat × List Char) :=
  match cs with
  | [] => some ([0x5c], [])
  | c :: rest =>
      match simpleEscape? c with
      | some d => some ([d.toNat], rest)
      | none =>
          if c = '\n' then some ([], rest)
          else if isDigitOf 8 c then
            let (n, rest) := octalEscape cs
            some ([n], rest)
          else if c = 'x' then (hexEscape 2 rest).map fun r => ([r.1], r.2)
          else some ([0x5c, c.toNat], rest)

/-- Replaces the escapes of a bytes literal; the number of steps is bounded by `fuel`. -/
def unescapeBytesWith : (fuel : Nat) → List Char → Option (List Nat)
  | 0, cs => some (cs.map Char.toNat)
  | fuel + 1, cs =>
      match cs with
      | [] => some []
      | '\\' :: rest => do
          let (ds, rest) ← byteEscape rest
          let tail ← unescapeBytesWith fuel rest
          some (ds ++ tail)
      | c :: rest => (unescapeBytesWith fuel rest).map (c.toNat :: ·)

/-- The value of a literal that is not formatted. -/
def TextLiteral.value? (t : TextLiteral) : Option Constant :=
  if t.isBytes then
    if t.body.all fun c => c.toNat < 0x80 then
      if t.isRaw then some (.bytes (t.body.map fun c => c.toNat.toUInt8))
      else (unescapeBytesWith (t.body.length + 1) t.body).map fun ns =>
        .bytes (ns.map Nat.toUInt8)
    else none
  else if t.isRaw then some (.str (Text.ofChars t.body))
  else (unescape t.body).map .str

theorem unescapeWith_nil (fuel : Nat) : unescapeWith fuel [] = some [] := by
  cases fuel <;> rfl

end BoundSql.Expr
