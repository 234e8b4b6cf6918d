import BoundSql.Expr.Lexer
import BoundSql.Expr.Tree
set_option autoImplicit false

/-!
# Formatted texts

A formatted text is literal text with replacement fields between braces; a doubled brace is a
brace.  A field holds an expression, perhaps an equals sign that repeats the source, perhaps a
conversion, and perhaps a format, which may hold fields of its own but none nested any deeper.
The text of an expression holds neither a backslash nor a comment.

The source of a field is found by its brackets and its quotes, and is then cut into tokens like any
other source.  Fields are parts of the tree, and their conversions and formats are kept beside them;
laying out is left to evaluation.  Literals that stand side by side are joined when all of them have
been read, formatted or not.
-/

namespace BoundSql.Expr

/-! ## Literal text -/

/-- How a run of literal text ended: at a doubled brace, or at a brace or the end of the text. -/
structure LiteralRun where
  text : List Char
  doubled : Bool
  rest : List Char
  deriving DecidableEq, Repr, Inhabited

/-- The run with more text in front. -/
def LiteralRun.after (front : List Char) (r : LiteralRun) : LiteralRun :=
  { r with text := front ++ r.text }

/-- What a brace in literal text means.  Doubling counts only in the outermost text, where a
lone closing brace is refused. -/
def braceRun (outermost : Bool) (brace : Char) (rest : List Char) : Option LiteralRun :=
  if outermost then
    match rest with
    | c :: tail =>
        if c = brace then some ⟨[brace], true, tail⟩
        else if brace = '\x7d' then none
        else some ⟨[], false, brace :: rest⟩
    | [] => if brace = '\x7d' then none else some ⟨[], false, [brace]⟩
  else some ⟨[], false, brace :: rest⟩

/-- Reads literal text up to a brace; the number of steps is bounded by `fuel`.  The braces
around the name of a character belong to its escape. -/
def literalRun (raw outermost : Bool) : (fuel : Nat) → List Char → Option LiteralRun
  | 0, _ => none
  | fuel + 1, cs =>
      match cs with
      | [] => some ⟨[], false, []⟩
      | c :: rest =>
          if raw = false ∧ c = '\\' then
            match rest with
            | [] => some ⟨[c], false, []⟩
            | d :: rest =>
                if d = 'N' then
                  match rest with
                  | '\x7b' :: rest => do
                      let (name, rest) ← upToBrace rest
                      let r ← literalRun raw outermost fuel rest
                      some (r.after (c :: d :: '\x7b' :: (name ++ ['\x7d'])))
                  | _ => none
                else if d = '\x7b' ∨ d = '\x7d' then
                  (braceRun outermost d rest).map (·.after [c])
                else (literalRun raw outermost fuel rest).map (·.after [c, d])
          else if c = '\x7b' ∨ c = '\x7d' then braceRun outermost c rest
          else (literalRun raw outermost fuel rest).map (·.after [c])

/-! ## The expression of a field -/

/-- The text of the expression of a field, and the text from the character on that ends it:
an exclamation mark, a colon, an equals sign or a closing brace outside all brackets and string
literals.  `quote` is the string literal that is open, with whether its delimiter is triple. -/
def fieldSource (quote : Option (Char × Bool)) (stack : List Char) :
    (fuel : Nat) → List Char → Option (List Char × List Char)
  | 0, _ => none
  | fuel + 1, cs =>
      match cs with
      | [] => none
      | c :: rest =>
          let continueWith (quote : Option (Char × Bool)) (stack : List Char)
              (front rest : List Char) : Option (List Char × List Char) :=
            (fieldSource quote stack fuel rest).map fun r => (front ++ r.1, r.2)
          if c = '\\' then none
          else
            match quote with
            | some (q, triple) =>
                if c = q then
                  if triple then
                    match rest with
                    | a :: b :: tail =>
                        if a = q ∧ b = q then continueWith none stack [c, a, b] tail
                        else continueWith quote stack [c] rest
                    | _ => continueWith quote stack [c] rest
                  else continueWith none stack [c] rest
                else continueWith quote stack [c] rest
            | none =>
                if c = '\'' ∨ c = '"' then
                  match rest with
                  | a :: b :: tail =>
                      if a = c ∧ b = c then continueWith (some (c, true)) stack [c, a, b] tail
                      else continueWith (some (c, false)) stack [c] rest
                  | _ => continueWith (some (c, false)) stack [c] rest
                else if c = '(' ∨ c = '[' ∨ c = '\x7b' then
                  if nestingLimit ≤ stack.length then none
                  else
                    let d := if c = '(' then ')' else if c = '[' then ']' else '\x7d'
                    continueWith none (d :: stack) [c] rest
                else if c = '#' then none
                else if stack.isEmpty ∧ (c = '!' ∨ c = '=' ∨ c = '<' ∨ c = '>') ∧
                    headIs (· == '=') rest then
                  continueWith none stack [c, '='] rest.tail
                else if stack.isEmpty ∧ (c = '!' ∨ c = ':' ∨ c = '\x7d' ∨ c = '=') then
                  some ([], cs)
                else if c = ')' ∨ c = ']' ∨ c = '\x7d' then
                  match stack with
                  | d :: outer => if c = d then continueWith none outer [c] rest else none
                  | [] => none
                else continueWith none stack [c] rest

/-- A character that separates tokens inside an expression. -/
def isTokenBlank (c : Char) : Bool := c == ' ' || c == '\t' || c == '\n' || c == '\x0c'

/-- A blank of the ASCII range. -/
def isAsciiBlank (c : Char) : Bool := isTokenBlank c || c == '\r' || c == '\x0b'

/-- The conversion behind an exclamation mark, if there is one. -/
def readConversion (cs : List Char) : Option (Option Conversion × List Char) :=
  match cs with
  | '!' :: rest =>
      match rest with
      | 's' :: rest => some (some .str, rest)
      | 'r' :: rest => some (some .repr, rest)
      | 'a' :: rest => some (some .ascii, rest)
      | _ => none
  | _ => some (none, cs)

/-! ## Fields and texts -/

/-- Fields may stand in a text and in the formats of its fields, and nowhere deeper. -/
def fieldDepthLimit : Nat := 2

/-- The pieces of a formatted text and the text behind them.  `read` reads the expression of a
field, `depth` counts the fields around the text, and the number of steps is bounded by
`fuel`. -/
def formatPieces (read : List Char → Option Tree) (raw : Bool) :
    (fuel depth : Nat) → List Char → Option (List FormatPiece × List Char)
  | 0, _, _ => none
  | fuel + 1, depth, cs => do
      let run ← literalRun raw (depth == 0) (cs.length + 1) cs
      let text ← if raw then some (Text.ofChars run.text) else unescape run.text
      let front : List FormatPiece := if text.isEmpty then [] else [.text text]
      if run.doubled then
        let (pieces, rest) ← formatPieces read raw fuel depth run.rest
        some (front ++ pieces, rest)
      else
        match run.rest with
        | '\x7b' :: rest => do
            if fieldDepthLimit ≤ depth then none
            else
              let (source, rest) ← fieldSource none [] (rest.length + 1) rest
              if source.all isTokenBlank then none
              else
                let value ← read ('(' :: (source ++ [')']))
                let (shown, rest) : Option (List Char) × List Char := match rest with
                  | '=' :: tail =>
                      let blanks := tail.takeWhile isAsciiBlank
                      (some (source ++ '=' :: blanks), tail.drop blanks.length)
                  | rest => (none, rest)
                let (conversion, rest) ← readConversion rest
                let (format, rest) ← match rest with
                  | ':' :: rest => do
                      let (pieces, rest) ← formatPieces read raw fuel (depth + 1) rest
                      some (some pieces, rest)
                  | rest => some (none, rest)
                match rest with
                | '\x7d' :: rest => do
                    let conversion := match conversion with
                      | some c => c
                      | none => if shown.isSome && format.isNone then .repr else .none
                    let shownText : List FormatPiece := match shown with
                      | some cs => [.text (Text.ofChars cs)]
                      | none => []
                    let (pieces, rest) ← formatPieces read raw fuel depth rest
                    some (front ++ shownText ++ .field value conversion (format.getD []) :: pieces,
                      rest)
                | _ => none
        | rest => some (front, rest)

/-- The pieces of a whole formatted text. -/
def formattedText (read : List Char → Option Tree) (raw : Bool) (cs : List Char) :
    Option (List FormatPiece) := do
  let (pieces, rest) ← formatPieces read raw (cs.length + 1) 0 cs
  if rest.isEmpty then some pieces else none

/-- Adjacent text literals as one expression.  Bytes and text do not mix. -/
def joinLiterals (read : List Char → Option Tree) (literals : List TextLiteral) :
    Option Tree := do
  if literals.all (·.isBytes) then
    let values ← literals.mapM (·.value?)
    some (.const (.bytes (values.flatMap fun
      | .bytes bs => bs
      | _ => [])))
  else if literals.any (·.isBytes) then none
  else
    let pieces ← literals.mapM fun t =>
      if t.isFormatted then formattedText read t.isRaw t.body
      else
        t.value?.map fun
          | .str s => [FormatPiece.text s]
          | _ => []
    if literals.any (·.isFormatted) then some (.formatted pieces.flatten)
    else
      some (.const (.str (pieces.flatten.flatMap fun
        | .text s => s
        | .field .. => [])))

end BoundSql.Expr
