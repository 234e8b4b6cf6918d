import BoundSql.Value.Collection
import BoundSql.Value.Format
set_option autoImplicit false

/-!
# Texts with percent signs

A text with percent signs is a pattern into which values are put: each sign begins a directive that
says which value comes next and how it is laid out.

Directives are read one after the other while values are taken from the supply, a tuple or a
mapping, so that a mistake in the pattern is found after the directives in front of it were laid
out.  Values that are left over are a mistake as well.  Texts and strings of bytes have patterns of
the same form but know different directives.
-/

namespace BoundSql.Value

open BoundSql.Text (CodePoint Format)

/-- The values that a pattern draws from: a row from which one value after the other is taken,
and perhaps a mapping that directives with keys refer to. -/
structure Supply where
  row : List Val
  mapping : Option Entries
  deriving Inhabited

/-- Takes the next value of a row. -/
def Supply.take (s : Supply) : Eval (Val × Supply) :=
  match s.row with
  | v :: rest => pure (v, { s with row := rest })
  | [] => Eval.fail .wrongType

/-- The flags of a directive. -/
structure Flags where
  left : Bool := false
  plus : Bool := false
  blank : Bool := false
  alternate : Bool := false
  zeros : Bool := false
  deriving DecidableEq, Repr, Inhabited

/-- Reads the flags of a directive. -/
def readFlags (f : Flags) : Text → Flags × Text
  | [] => (f, [])
  | c :: cs =>
      match c with
      | .char '-' => readFlags { f with left := true } cs
      | .char '+' => readFlags { f with plus := true } cs
      | .char ' ' => readFlags { f with blank := true } cs
      | .char '#' => readFlags { f with alternate := true } cs
      | .char '0' => readFlags { f with zeros := true } cs
      | _ => (f, c :: cs)

/-- The value of a digit of the ASCII range. -/
def asciiDigit? (c : CodePoint) : Option Nat :=
  if c.passes Char.isDigit then some (c.code - 48) else none

/-- Reads a width or a precision, which may be taken from the values; it has to stay below a
bound. -/
def readSize (bound : Nat) (s : Supply) (cs : Text) : Eval (Option Int × Supply × Text) := do
  match cs with
  | .char '*' :: rest => do
      let (v, s) ← s.take
      let n ← Eval.orFail .wrongType (asInt? v)
      if n < -bound ∨ bound ≤ n then Eval.fail .overflow
      pure (some n, s, rest)
  | cs =>
      match Format.readNumber asciiDigit? cs with
      | (some n, rest) => do
          if bound ≤ n then Eval.fail .wrongValue
          pure (some n, s, rest)
      | (none, rest) => pure (none, s, rest)

/-- The key of a directive, up to its closing parenthesis, with nested ones inside it. -/
def readKey (depth : Nat) : Text → Option (Text × Text)
  | [] => none
  | c :: cs =>
      if c = .char ')' then
        match depth with
        | 0 => some ([], cs)
        | depth + 1 => (readKey depth cs).map fun r => (c :: r.1, r.2)
      else (readKey (if c = .char '(' then depth + 1 else depth) cs).map fun r => (c :: r.1, r.2)

/-- The layout of a directive. -/
def layout (f : Flags) (width : Option Int) : Format :=
  let left := f.left || width.any (· < 0)
  { align := some (if left then .left else .right)
    sign := if f.plus then some .plus else if f.blank then some .blank else none
    alternate := f.alternate
    width := width.map Int.natAbs }

/-- The layout of a directive for a number, which may be filled up with zeros. -/
def numberLayout (f : Flags) (width : Option Int) : Format :=
  let l := layout f width
  if f.zeros && l.align == some .right then { l with align := some .inside, fill := some '0' }
  else l

/-- The integer that a directive for integers means by a value. -/
def directiveInt (allowFloat : Bool) (v : Val) : Eval Int := do
  match asFloat? v with
  | some x => if allowFloat then intOfFloat x else Eval.fail .wrongType
  | none => Eval.orFail .wrongType (asInt? v)

/-- The floating point number that a directive means by a value. -/
def directiveFloat (v : Val) : Eval Float := do
  match asFloat? v with
  | some x => pure x
  | none => do floatOfInt (← Eval.orFail .wrongType (asInt? v))

/-- Lays out an integer with at least `precision` digits. -/
def directiveDigits (l : Format) (precision : Option Nat) (n : Int) (digits marks : List Char) :
    Text :=
  let digits := List.replicate (precision.getD 0 - digits.length) '0' ++ digits
  l.number (decide (n < 0)) (if l.alternate then marks else []) digits [] 3

/-- What a pattern is made of. -/
inductive PatternKind where
  | text
  /-- bytes, each as the character with its number -/
  | bytes
  deriving DecidableEq, Repr, Inhabited

/-- The bytes that a directive in a pattern of bytes means by a value. -/
def directiveBytes (v : Val) : Eval Text :=
  match v with
  | .bytes bs => pure (bs.map fun b => .char (Char.ofNat b.toNat))
  | _ => Eval.fail .wrongType

/-- The character that a directive means by a value: its only one, or the one with its number. -/
def directivePoint (pattern : PatternKind) (v : Val) : Eval CodePoint := do
  match pattern, v with
  | .text, .str [c] => pure c
  | .text, .str _ => Eval.fail .wrongType
  | .bytes, .bytes [b] => pure (.char (Char.ofNat b.toNat))
  | pattern, v => do
      let n ← Eval.orFail .wrongType (asInt? v)
      match pattern with
      | .text =>
          if n < -Eval.indexBound ∨ Eval.indexBound ≤ n then Eval.fail .wrongType
          pointOf .overflow n
      | .bytes =>
          if 0 ≤ n ∧ n < 256 then pointOf .overflow n else Eval.fail .overflow

/-- The text of one directive. -/
def directiveText (pattern : PatternKind) (f : Flags) (width : Option Int)
    (precision : Option Nat) (kind : Char) (v : Val) : Eval Text := do
  let padded (s : Text) : Text := { layout f width with sign := none }.pad .right [] s
  let plain (s : Text) : Text :=
    padded (match precision with
      | some n => s.take n
      | none => s)
  Eval.room (width.getD 0).natAbs
  let numeric := numberLayout f width
  match kind with
  | 'b' =>
      if pattern = .bytes then do pure (plain (← directiveBytes v)) else Eval.fail .wrongValue
  | 's' =>
      if pattern = .bytes then do pure (plain (← directiveBytes v))
      else do pure (plain (← textOf v))
  | 'r' =>
      if pattern = .bytes then do pure (plain (asciiOnly (← shown v)))
      else do pure (plain (← shown v))
  | 'a' => do pure (plain (asciiOnly (← shown v)))
  | 'd' | 'i' | 'u' => do
      let n ← directiveInt true v
      Eval.room (precision.getD 0)
      let digits ← intText n.natAbs
      pure (directiveDigits numeric precision n digits.toList [])
  | 'x' => do
      let n ← directiveInt false v
      Eval.room (precision.getD 0)
      pure (directiveDigits numeric precision n (digitsIn 16 n.natAbs) ['0', 'x'])
  | 'X' => do
      let n ← directiveInt false v
      Eval.room (precision.getD 0)
      pure (directiveDigits numeric precision n ((digitsIn 16 n.natAbs).map Char.toUpper)
        ['0', 'X'])
  | 'o' => do
      let n ← directiveInt false v
      Eval.room (precision.getD 0)
      pure (directiveDigits numeric precision n (digitsIn 8 n.natAbs) ['0', 'o'])
  | 'c' => do pure (padded [← directivePoint pattern v])
  | kind =>
      if "eEfFgG".toList.contains kind then do
        let x ← directiveFloat v
        formatFloat { numeric with precision := some (precision.getD 6), presentation := some kind }
          x
      else Eval.fail .wrongValue

/-- The characters with the numbers of bytes, as bytes. -/
def bytesOfText (s : Text) : List UInt8 := s.map (·.code.toUInt8)

/-- The key that a directive refers to. -/
def patternKey (pattern : PatternKind) (key : Text) : Val :=
  match pattern with
  | .text => .str key
  | .bytes => .bytes (bytesOfText key)

/-- The texts of a pattern with values put in; `fuel` bounds the number of steps. -/
def percentTexts (pattern : PatternKind) :
    (fuel : Nat) → Supply → Text → Eval (List Text × Supply)
  | 0, s, _ => pure ([], s)
  | fuel + 1, s, cs => do
      match cs with
      | [] => pure ([], s)
      | .char '%' :: .char '%' :: rest => do
          let (texts, s) ← percentTexts pattern fuel s rest
          pure ("%" :: texts, s)
      | .char '%' :: rest => do
          let (keyed, s, rest) ← match rest with
            | .char '(' :: rest => do
                let entries ← Eval.orFail .wrongType s.mapping
                let (key, rest) ← Eval.orFail .wrongValue (readKey 0 rest)
                match ← lookupEntry entries (patternKey pattern key) with
                | some (_, v) => pure (true, { s with row := [v] }, rest)
                | none => Eval.fail .missingKey
            | rest => pure (false, s, rest)
          let (flags, rest) := readFlags {} rest
          let (width, s, rest) ← readSize Format.sizeBound s rest
          let (precision, s, rest) ← match rest with
            | .char '.' :: rest => do
                let (n, s, rest) ← readSize precisionBound s rest
                pure (some (n.getD 0).toNat, s, rest)
            | rest => pure (none, s, rest)
          let rest := match rest with
            | c :: tail => if c.passes ("hlL".toList.contains ·) then tail else rest
            | [] => rest
          match rest with
          | [] => Eval.fail .wrongValue
          | .char '%' :: rest => do
              let (texts, s) ← percentTexts pattern fuel s rest
              pure ("%" :: texts, s)
          | kind :: rest => do
              let (v, s) ← s.take
              let text ← directiveText pattern flags width precision (kind.char?.getD '\ufffd') v
              let s := if keyed then { s with row := [] } else s
              let (texts, s) ← percentTexts pattern fuel s rest
              pure (text :: texts, s)
      | c :: rest => do
          let (texts, s) ← percentTexts pattern fuel s rest
          pure ([c] :: texts, s)

/-- A pattern with values put in.  A value that no directive takes is refused, unless it can be
read by index or key as a whole. -/
def percentFormat (pattern : PatternKind) (cs : Text) (v : Val) : Eval Text := do
  let mapping ← match v with
    | .object address => do
        match ← Eval.load address with
        | .dict entries => pure (some entries)
        | _ => pure none
    | _ => pure none
  let row := match v with
    | .tuple items => items
    | v => [v]
  let indexed := [Class.list, .dict, .range] ++ if pattern = .text then [.bytes] else []
  let mayIgnore := indexed.contains (← classOf v)
  let (texts, rest) ← percentTexts pattern (cs.length + 1) ⟨row, mapping⟩ cs
  if !mayIgnore && !rest.row.isEmpty then Eval.fail .wrongType
  pure texts.flatten

end BoundSql.Value
