import BoundSql.Expr.Tree
set_option autoImplicit false

/-!
# Patterns with fields for texts

A literal pattern with percent signs that puts the texts of a row of items one behind the other
says the same as a formatted text with one replacement field for each item, and is evaluated like
one: item after item, each turned into text before the next one is evaluated.

Which patterns are turned into formatted texts can be told from the pattern alone: every directive
lays out text, and there are as many of them as items.  Flags and sizes are carried over.  Any other
pattern is an operator like others, and its row of items is made before the pattern is looked at.
-/

namespace BoundSql.Expr

open BoundSql.Text (CodePoint)

/-- The conversion that a letter of a pattern asks for. -/
def conversionOf? (c : CodePoint) : Option Conversion :=
  match c with
  | .char 's' => some .str
  | .char 'r' => some .repr
  | .char 'a' => some .ascii
  | _ => none

/-- Fewer digits than this make up a size in a pattern for texts. -/
def sizeDigits : Nat := 3

/-- The digits at the front of a text, if there are few of them. -/
def readFewDigits? (cs : Text) : Option (Text × Text) :=
  let ds := cs.takeWhile (·.passes Char.isDigit)
  if ds.length < sizeDigits then some (ds, cs.drop ds.length) else none

/-- Reads a field behind its percent sign: its conversion and its format, and the text behind it.
A width without the flag for the left side puts the text to the right. -/
def readTextField? (cs : Text) : Option (Conversion × Text × Text) := do
  let flags := cs.takeWhile (·.passes ("-+ #0".toList.contains ·))
  let (width, cs) ← readFewDigits? (cs.drop flags.length)
  let (precision, cs) ← match cs with
    | .char '.' :: rest => do
        let (ds, rest) ← readFewDigits? rest
        some (CodePoint.char '.' :: (if ds.isEmpty then [.char '0'] else ds), rest)
    | cs => some ([], cs)
  match cs with
  | c :: rest => do
      let side : Text := if width.isEmpty || flags.contains (.char '-') then [] else [.char '>']
      some (← conversionOf? c, side ++ width ++ precision, rest)
  | [] => none

/-- Literal text at the front of a pattern, in which a doubled percent sign is one, and the rest
from a single percent sign on; `fuel` bounds the length. -/
def literalText : (fuel : Nat) → Text → Text × Text
  | 0, cs => ([], cs)
  | fuel + 1, cs =>
      match cs with
      | [] => ([], [])
      | .char '%' :: .char '%' :: rest =>
          let (text, rest) := literalText fuel rest
          (.char '%' :: text, rest)
      | .char '%' :: rest => ([], .char '%' :: rest)
      | c :: rest =>
          let (text, rest) := literalText fuel rest
          (c :: text, rest)

/-- The pieces of the formatted text that a pattern for the given items stands for, if all of its
fields are for texts and each item has one; `fuel` bounds the length. -/
def patternPieces? : (fuel : Nat) → Text → List Tree → Option (List FormatPiece)
  | 0, _, _ => none
  | fuel + 1, cs, items =>
      let (text, rest) := literalText (cs.length + 1) cs
      let front : List FormatPiece := if text.isEmpty then [] else [.text text]
      match rest, items with
      | [], [] => some front
      | [], _ :: _ | _ :: _, [] => none
      | _ :: field, item :: items => do
          let (conversion, format, rest) ← readTextField? field
          let format : List FormatPiece := if format.isEmpty then [] else [.text format]
          some (front ++ .field item conversion format :: (← patternPieces? fuel rest items))

/-- The pieces that a pattern applied to an expression stands for. -/
def Tree.patternPieces? (pattern : Text) : Tree → Option (List FormatPiece)
  | .tuple items =>
      if items.any fun
        | .star _ => true
        | _ => false
      then none
      else Expr.patternPieces? (pattern.length + 1) pattern items
  | _ => none

theorem literalText_nil (fuel : Nat) : literalText fuel [] = ([], []) := by
  cases fuel <;> rfl

end BoundSql.Expr
