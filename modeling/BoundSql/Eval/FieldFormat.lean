import BoundSql.Eval.Engine
import BoundSql.Value.Attribute
import BoundSql.Value.Format
set_option autoImplicit false

/-!
# Texts with replacement fields

A text whose fields, between braces, name a value by position or by name, follow its attributes
and elements, and lay it out.  The format of a field may hold fields too, but no deeper ones.
Positions are either all written or all counted.

The text is read from left to right while it is filled, so that a mistake behind a field is found
after the field has been evaluated and shown.  Values come from the arguments of a call or from a
mapping (`Source`), and a field may go on from a value by attributes and by subscripts, which are
keys as they are written and integers where they look like one.
-/

namespace BoundSql.Eval

open BoundSql.Value
open BoundSql.Text (CodePoint)

/-- How the fields of a text have been numbered so far. -/
inductive Numbering where
  | undecided
  | counted (next : Nat)
  | written
  deriving DecidableEq, Repr, Inhabited

/-- Where the values of fields come from.  Without a row, no field may have a position. -/
structure Source where
  row : Option (List Val)
  byName : Text → Eval Val

/-- A field: its name, its conversion and its format. -/
structure Field where
  name : Text
  conversion : Option CodePoint
  format : Text
  deriving DecidableEq, Repr, Inhabited

/-! ## Taking fields apart -/

/-- The name of a field and what follows it, from the mark on that ends it: the mark of a
conversion or a format, or the closing brace.  Marks and braces between brackets belong to the
name. -/
def fieldName (inBrackets : Bool) : Text → Option (Text × Text)
  | [] => none
  | c :: cs =>
      let more (inBrackets : Bool) : Option (Text × Text) :=
        (fieldName inBrackets cs).map fun r => (c :: r.1, r.2)
      if inBrackets then more (c != .char ']')
      else if c = .char '\x7b' then none
      else if c = .char '\x7d' ∨ c = .char ':' ∨ c = .char '!' then some ([], c :: cs)
      else more (c == .char '[')

/-- The format of a field up to the brace that closes the field; `depth` counts the braces open
inside. -/
def fieldFormat (depth : Nat) : Text → Option (Text × Text)
  | [] => none
  | c :: cs =>
      let more (depth : Nat) : Option (Text × Text) :=
        (fieldFormat depth cs).map fun r => (c :: r.1, r.2)
      if c = .char '\x7d' then
        match depth with
        | 0 => some ([], cs)
        | depth + 1 => more depth
      else more (if c = .char '\x7b' then depth + 1 else depth)

/-- Reads a field behind its opening brace, and answers with the text behind its closing one. -/
def Field.read? (cs : Text) : Option (Field × Text) := do
  let (name, rest) ← fieldName false cs
  match rest with
  | .char '\x7d' :: rest => some (⟨name, none, []⟩, rest)
  | .char ':' :: rest => do
      let (format, rest) ← fieldFormat 0 rest
      some (⟨name, none, format⟩, rest)
  | _ :: c :: .char '\x7d' :: rest => some (⟨name, some c, []⟩, rest)
  | _ :: c :: .char ':' :: rest => do
      let (format, rest) ← fieldFormat 0 rest
      some (⟨name, some c, format⟩, rest)
  | _ => none

/-! ## The values of fields -/

/-- The number that a name is, if it has nothing but digits; digits that make too large a number
are refused, whatever follows them. -/
def fieldNumber? (value : Nat) : Text → Eval (Option Nat)
  | [] => pure (some value)
  | c :: cs => do
      match Text.Format.digitOf? c with
      | none => pure none
      | some d =>
          let value := value * 10 + d
          if Eval.indexBound ≤ value then Eval.fail .wrongValue else fieldNumber? value cs

/-- The value at a position. -/
def Source.valueAt (s : Source) (i : Nat) : Eval Val := do
  let row ← Eval.orFail .wrongValue s.row
  Eval.orFail .outOfRange row[i]?

/-- The value that a position or a name stands for. -/
def firstValue (s : Source) (n : Numbering) (first : Text) : Eval (Val × Numbering) := do
  if first.isEmpty then
    match n with
    | .written => Eval.fail .wrongValue
    | .undecided => do pure (← s.valueAt 0, .counted 1)
    | .counted next => do pure (← s.valueAt next, .counted (next + 1))
  else
    match ← fieldNumber? 0 first with
    | none => do pure (← s.byName first, n)
    | some i =>
        match n with
        | .counted _ => Eval.fail .wrongValue
        | _ => do pure (← s.valueAt i, .written)

/-- A mark that ends the name of an attribute. -/
def endsAttribute (c : CodePoint) : Bool := c == .char '.' || c == .char '['

/-- Follows attributes and elements; `fuel` bounds their number. -/
def followPath : (fuel : Nat) → Val → Text → Eval Val
  | 0, v, _ => pure v
  | fuel + 1, v, path => do
      match path with
      | [] => pure v
      | .char '.' :: rest => do
          let name := rest.takeWhile (!endsAttribute ·)
          if name.isEmpty then Eval.fail .wrongValue
          followPath fuel (← readAttribute v (Text.plain name)) (rest.drop name.length)
      | .char '[' :: rest => do
          let name := rest.takeWhile (· != .char ']')
          if name.length = rest.length then Eval.fail .wrongValue
          let number ← fieldNumber? 0 name
          if name.isEmpty then Eval.fail .wrongValue
          let index : Val := match number with
            | some n => .int n
            | none => .str name
          followPath fuel (← readItem v index) (rest.drop (name.length + 1))
      | _ => Eval.fail .wrongValue

/-- The value of a field. -/
def fieldValue (s : Source) (n : Numbering) (f : Field) : Eval (Val × Numbering) := do
  let first := f.name.takeWhile (!endsAttribute ·)
  let (v, n) ← firstValue s n first
  pure (← followPath (f.name.length + 1) v (f.name.drop first.length), n)

/-- Turns the value of a field into text, if the field asks for it. -/
def converted (conversion : Option CodePoint) (v : Val) : Eval Val := do
  match conversion with
  | none => pure v
  | some (.char 's') => do pure (.str (← textOf v))
  | some (.char 'r') => do pure (.str (← shown v))
  | some (.char 'a') => do pure (.str (asciiOnly (← shown v)))
  | some _ => Eval.fail .wrongValue

/-! ## Texts -/

/-- A text with its fields replaced.  `depth` counts how much deeper fields may stand, and `fuel`
bounds the number of steps. -/
def fillFields (s : Source) : (depth fuel : Nat) → Numbering → Text → Eval (Text × Numbering)
  | 0, _, _, _ => Eval.fail .wrongValue
  | _, 0, n, _ => pure ([], n)
  | depth + 1, fuel + 1, n, cs => do
      match cs with
      | [] => pure ([], n)
      | c :: rest =>
          let literally (c : CodePoint) (rest : Text) : Eval (Text × Numbering) := do
            let (text, n) ← fillFields s (depth + 1) fuel n rest
            pure (c :: text, n)
          if c = .char '\x7b' ∨ c = .char '\x7d' then
            match rest with
            | [] => Eval.fail .wrongValue
            | d :: tail =>
                if d = c then literally c tail
                else if c = .char '\x7d' then Eval.fail .wrongValue
                else do
                  let (f, rest) ← Eval.orFail .wrongValue (Field.read? rest)
                  let (v, n) ← fieldValue s n f
                  let v ← converted f.conversion v
                  let (format, n) ←
                    if f.format.contains (.char '\x7b') then fillFields s depth fuel n f.format
                    else pure (f.format, n)
                  let front ← formatValue v format
                  let (text, n) ← fillFields s (depth + 1) fuel n rest
                  pure (front ++ text, n)
          else literally c rest
termination_by depth fuel => (depth, fuel)

/-- A text with its fields replaced by arguments. -/
def fieldText (s : Text) (args : List Val) (keywords : Keywords) : Eval Text := do
  let byName (id : Text) : Eval Val := Eval.orFail .missingKey (keywords.lookup (Text.plain id))
  pure (← fillFields ⟨some args, byName⟩ 2 (s.length + 1) .undecided s).1

/-- A text with its fields replaced by the values of a mapping. -/
def fieldTextOf (s : Text) (mapping : Val) : Eval Text := do
  let byName (id : Text) : Eval Val := readItem mapping (.str id)
  pure (← fillFields ⟨none, byName⟩ 2 (s.length + 1) .undecided s).1

end BoundSql.Eval
