import BoundSql.Expr.Literal
import BoundSql.Text.Identifier
import BoundSql.Text.Normal
set_option autoImplicit false

/-!
# Cutting a source into tokens

Blanks and comments separate tokens.  The end of a line is a token of its own outside all
brackets and counts for nothing inside them.  Only so many brackets may be open at once.

The lexer is one loop over fronts (`front`): each round cuts off one token, a blank, a comment or a
joined line, and keeps account of the open brackets.  `tokens` is the whole row, if there is one.
`tokensAhead` is what can be cut off before the lexer fails; whoever reads a source token by token
has got that far by then, and may have run out of room on the way.
-/

namespace BoundSql.Expr

/-- How many brackets may be open at once. -/
def nestingLimit : Nat := 200

/-- Line ends of every kind as line feeds. -/
def unixLines : List Char → List Char
  | [] => []
  | '\r' :: '\n' :: cs => '\n' :: unixLines cs
  | '\r' :: cs => '\n' :: unixLines cs
  | c :: cs => c :: unixLines cs

/-- What the letters in front of a quote say about a text literal; `none` if they are not the
beginning of one. -/
def literalLetters? : List Char → Option TextLiteral
  | [] => some { body := [] }
  | [c] =>
      if c = 'b' || c = 'B' then some { isBytes := true, body := [] }
      else if c = 'r' || c = 'R' then some { isRaw := true, body := [] }
      else if c = 'f' || c = 'F' then some { isFormatted := true, body := [] }
      else if c = 'u' || c = 'U' then some { body := [] }
      else none
  | [c, d] =>
      let raw := c = 'r' || c = 'R' || d = 'r' || d = 'R'
      let bytes := c = 'b' || c = 'B' || d = 'b' || d = 'B'
      let formatted := c = 'f' || c = 'F' || d = 'f' || d = 'F'
      if raw && bytes then some { isBytes := true, isRaw := true, body := [] }
      else if raw && formatted then some { isRaw := true, isFormatted := true, body := [] }
      else none
  | _ => none

/-- The text begins with two of the given quotes. -/
def beginsPair (quote : Char) (cs : List Char) : Bool :=
  headIs (· == quote) cs && headIs (· == quote) cs.tail

/-- The text up to the delimiter that ends a text literal, and the text behind it.  A backslash
takes the next character along; a line feed ends no literal with single delimiters. -/
def literalBody (quote : Char) (triple : Bool) : List Char → Option (List Char × List Char)
  | [] => none
  | c :: cs =>
      if c = '\\' then
        match cs with
        | [] => none
        | d :: ds => (literalBody quote triple ds).map fun r => (c :: d :: r.1, r.2)
      else if c = quote ∧ (triple = true → beginsPair quote cs = true) then
        some ([], if triple then cs.tail.tail else cs)
      else if c = '\n' ∧ triple = false then none
      else (literalBody quote triple cs).map fun r => (c :: r.1, r.2)

/-- The body of a text literal behind its opening quote, and the text behind the literal. -/
def quotedLiteral (quote : Char) (cs : List Char) : Option (List Char × List Char) :=
  if beginsPair quote cs then literalBody quote true cs.tail.tail else literalBody quote false cs

/-- A word as a token: a reserved word or a name in normal form. -/
def wordToken (word : List Char) : Option Token :=
  let s := String.ofList word
  if keywords.contains s then some (.keyword s)
  else if Text.isIdentifier word then some (.name (String.ofList (Text.normalName word)))
  else none

/-- The symbol that a text begins with. -/
def symbol? (cs : List Char) : Option String := symbols.find? fun s => s.toList.isPrefixOf cs

/-- Reads a text literal behind its opening quote. -/
def textLiteral (letters : TextLiteral) (quote : Char) (cs : List Char) :
    Option (Token × List Char) :=
  (quotedLiteral quote cs).map fun r => (.text { letters with body := r.1 }, r.2)

/-- Reads what follows a word.  The word may be the letters in front of a text literal. -/
def behindWord (word cs : List Char) : Option (Token × List Char) :=
  match literalLetters? word with
  | some letters =>
      if headIs (· == '\'') cs then textLiteral letters '\'' cs.tail
      else if headIs (· == '"') cs then textLiteral letters '"' cs.tail
      else (wordToken word).map fun t => (t, cs)
  | none => (wordToken word).map fun t => (t, cs)

/-- Reads the token that a text begins with; blanks, comments and line ends are not tokens of
this kind. -/
def token (cs : List Char) : Option (Token × List Char) :=
  match cs with
  | [] => none
  | c :: rest =>
      if c = '\'' || c = '"' then textLiteral { body := [] } c rest
      else if c.isDigit || (c = '.' && headIs Char.isDigit rest) then
        (numeral cs).map fun r => (.number r.1, r.2)
      else if isWordChar c then behindWord (cs.takeWhile isWordChar) (cs.dropWhile isWordChar)
      else (symbol? cs).map fun s => (.mark s, cs.drop s.length)

/-- Keeps account of the open brackets, the innermost first; a bracket that closes the wrong one
and one that is nested too deep are refused. -/
def trackBrackets (stack : List String) : Token → Option (List String)
  | .mark s =>
      if s = "(" || s = "[" || s = "\x7b" then
        if nestingLimit ≤ stack.length then none
        else some ((if s = "(" then ")" else if s = "[" then "]" else "\x7d") :: stack)
      else if s = ")" || s = "]" || s = "\x7d" then
        match stack with
        | t :: outer => if s = t then some outer else none
        | [] => none
      else some stack
  | _ => some stack

/-- What stands at the front of a text. -/
inductive Front where
  /-- blanks, a comment or a line that goes on behind its end -/
  | space
  /-- the end of a line -/
  | lineEnd
  | token (t : Token)
  deriving Repr, Inhabited

/-- The brackets that are open behind the front of a text. -/
def Front.track (stack : List String) : Front → Option (List String)
  | token t => trackBrackets stack t
  | _ => some stack

/-- The tokens that the front of a text stands for: the end of a line counts outside all
brackets. -/
def Front.tokens (stack : List String) : Front → List Token
  | space => []
  | lineEnd => if stack.isEmpty then [.newline] else []
  | token t => [t]

/-- The front of a text, and the text behind it.  A comment ends in front of the end of its line,
and a backslash joins a line with the next one, which must not be empty. -/
def front : List Char → Option (Front × List Char)
  | [] => none
  | c :: rest =>
      if c = ' ' || c = '\t' || c = '\x0c' then some (.space, rest)
      else if c = '#' then some (.space, rest.dropWhile (· != '\n'))
      else if c = '\n' then some (.lineEnd, rest)
      else if c = '\\' then
        if headIs (· == '\n') rest && !rest.tail.isEmpty then some (.space, rest.tail) else none
      else (Expr.token (c :: rest)).map fun r => (.token r.1, r.2)

/-- The tokens of a text, in reverse behind `done`.  `stack` holds the brackets that are open,
and the number of steps is bounded by `fuel`. -/
def tokensWith : (fuel : Nat) → (stack : List String) → (done : List Token) → List Char →
    Option (List Token)
  | 0, _, _, _ => none
  | fuel + 1, stack, done, cs =>
      if cs.isEmpty then if stack.isEmpty then some done.reverse else none
      else do
        let (front, rest) ← front cs
        let stack' ← front.track stack
        tokensWith fuel stack' (front.tokens stack ++ done) rest

/-- The tokens of a source; none if some part of it is no token or a bracket has no partner. -/
def tokens (source : List Char) : Option (List Token) :=
  if source.contains '\x00' then none
  else
    let cs := unixLines source
    tokensWith (cs.length + 1) [] [] cs

/-- The tokens in front of the first part of a text that is refused. -/
def tokensInFront : (fuel : Nat) → (stack : List String) → List Char → List Token
  | 0, _, _ => []
  | fuel + 1, stack, cs =>
      match front cs with
      | none => []
      | some (front, rest) =>
          match front.track stack with
          | none => []
          | some stack' => front.tokens stack ++ tokensInFront fuel stack' rest

/-- The tokens of a source up to the first part that is refused, whether there is one or not.  They
are what a reader has taken before it learns that the source has no tokens. -/
def tokensAhead (source : List Char) : List Token :=
  if source.contains '\x00' then []
  else
    let cs := unixLines source
    tokensInFront (cs.length + 1) [] cs

end BoundSql.Expr
