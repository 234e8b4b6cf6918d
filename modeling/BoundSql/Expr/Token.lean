import BoundSql.Text.CodePoint
set_option autoImplicit false

/-!
# Tokens of the expression language

A token is a name, a keyword, a numeral with its value, a text literal, a symbol, or the end of a
line outside all brackets.  Names are in their normal form already, so that two spellings of one
name are one token.  Text literals are kept as they are written: their escapes are read when it is
known which literals stand side by side, and formatted ones have expressions in them that are read
like any source.

Each token bounds how many levels of nesting it can open, and so a row of tokens bounds the depth of
its tree (`levelBound`).
-/

namespace BoundSql.Expr

/-- The value that a literal stands for. -/
inductive Constant where
  | none
  | ellipsis
  | bool (value : Bool)
  | int (value : Nat)
  | float (value : Float)
  | imaginary (value : Float)
  | str (value : Text)
  | bytes (value : List UInt8)
  deriving Repr, Inhabited

/-- A string literal before its escapes are read: what its letters say, and the text between its
delimiters. -/
structure TextLiteral where
  isBytes : Bool := false
  isRaw : Bool := false
  isFormatted : Bool := false
  body : List Char
  deriving DecidableEq, Repr, Inhabited

/-- A token. -/
inductive Token where
  /-- a name, in its normal form -/
  | name (id : String)
  | keyword (word : String)
  | number (value : Constant)
  | text (literal : TextLiteral)
  /-- an operator or a delimiter -/
  | mark (symbol : String)
  /-- the end of a line outside all brackets -/
  | newline
  deriving Repr, Inhabited

/-- How many levels of nesting a token may open.  Commas and closing brackets open none; a text
literal may hold sources of its own. -/
def Token.levels : Token → Nat
  | mark s => if s = "," || s = ")" || s = "]" || s = "\x7d" then 0 else 1
  | text t => t.body.length + 1
  | _ => 1

/-- A bound of the levels of nesting in a row of tokens. -/
def levelBound : List Token → Nat
  | [] => 1
  | t :: ts => t.levels + levelBound ts

/-- The reserved words. -/
def keywords : List String :=
  ["False", "None", "True", "and", "as", "assert", "async", "await", "break", "class",
    "continue", "def", "del", "elif", "else", "except", "finally", "for", "from", "global", "if",
    "import", "in", "is", "lambda", "nonlocal", "not", "or", "pass", "raise", "return", "try",
    "while", "with", "yield"]

/-- Operators and delimiters, longer ones before those they begin with. -/
def symbols : List String :=
  ["**=", "//=", "<<=", ">>=", "...", "!=", "%=", "&=", "**", "*=", "+=", "-=", "->", "//", "/=",
    ":=", "<<", "<=", "<>", "==", ">=", ">>", "@=", "^=", "|=", "%", "&", "(", ")", "*", "+", ",",
    "-", ".", "/", ":", ";", "<", "=", ">", "@", "[", "]", "^", "\x7b", "|", "\x7d", "~"]

end BoundSql.Expr
