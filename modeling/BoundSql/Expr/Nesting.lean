import BoundSql.Expr.Token
set_option autoImplicit false

/-!
# How deep a row of tokens is nested

Whoever reads an expression by the rules of a grammar enters one rule inside the other, and can only
enter so many.  A bracket costs most of them, since every item inside it is again an expression,
which any operator might join; an operator costs a few for its right operand, and a sign only one.

Here the rules are counted along a row of tokens, without reading it: a stack holds the brackets
that are open, and the operators whose right operand has been begun in the innermost of them.  The
numbers belong to one grammar with one rule for each rank of operators.  Starred items and clauses
enter it at lower ranks than other items, and are counted as if they did not.
-/

namespace BoundSql.Expr

/-- How many rules are entered on the way from an expression to a name in it. -/
def wordRules : Nat := 25

/-- How many rules are entered from a bracket on to the items inside it: the first one, the second
one, and any further one.  A bracket behind an operand begins a call or a subscript. -/
structure ItemRules where
  first : Nat
  second : Nat
  further : Nat
  deriving DecidableEq, Repr, Inhabited

/-- The rules behind an opening bracket. -/
def itemRules (symbol : String) (behindOperand : Bool) : ItemRules :=
  if behindOperand then if symbol = "(" then ⟨24, 28, 28⟩ else ⟨24, 27, 27⟩
  else if symbol = "(" then ⟨28, 30, 31⟩ else ⟨29, 30, 30⟩

/-- An operator whose right operand has been begun: how loosely it binds, and how many rules it
costs.  The loosest operators have the lowest rank. -/
structure Pending where
  rank : Nat
  rules : Nat
  deriving DecidableEq, Repr, Inhabited

/-- What is open inside a bracket. -/
structure Frame where
  /-- the rules that are entered in front of the bracket -/
  outer : Nat := 0
  items : ItemRules := ⟨0, 0, 0⟩
  commas : Nat := 0
  /-- between `lambda` and its colon -/
  parameters : Bool := false
  /-- between `for` and `in` -/
  target : Bool := false
  pending : List Pending := []
  deriving DecidableEq, Repr, Inhabited

/-- How many rules are entered where the next token stands. -/
def Frame.rules (f : Frame) : Nat :=
  let item := match f.commas with
    | 0 => f.items.first
    | 1 => f.items.second
    | _ => f.items.further
  f.pending.foldr (fun operator rules => operator.rules + rules) (f.outer + item)

/-- Begins the right operand of a binary operator, behind the operands of all that bind tighter. -/
def Frame.operand (f : Frame) (rank rules : Nat) : Frame :=
  { f with pending := ⟨rank, rules⟩ :: f.pending.filter (·.rank < rank) }

/-- Begins the operand of an operator that stands in front of it or binds to the right. -/
def Frame.nested (f : Frame) (rank rules : Nat) : Frame :=
  { f with pending := ⟨rank, rules⟩ :: f.pending }

/-- The comparisons. -/
def comparisons : List String := ["<", ">", "==", "!=", "<=", ">=", "<>"]

/-- The words that are operands. -/
def operandWords : List String := ["None", "True", "False"]

/-- Whether a token ends an operand. -/
def Token.endsOperand : Token → Bool
  | .name _ | .number _ | .text _ => true
  | .keyword word => operandWords.contains word
  | .mark s => s = ")" || s = "]" || s = "\x7d"
  | .newline => false

/-- The frame behind a word. -/
def Frame.word (f : Frame) (word : String) : Frame :=
  match word with
  | "or" => f.operand 1 2
  | "and" => f.operand 2 2
  | "not" => f.nested 3 1
  | "is" => f.operand 4 3
  | "in" =>
      if f.target then { f with target := false, pending := [] } else f.operand 4 3
  | "if" => { f with pending := f.pending.filter (·.rank < 1) }
  | "else" => { f with pending := ⟨0, 1⟩ :: f.pending.filter (·.rank < 1) }
  | "for" => { f with target := true, pending := [] }
  | _ => f

/-- The frame behind an operator or a delimiter that is no bracket. -/
def Frame.symbol (f : Frame) (symbol : String) (behindOperand : Bool) : Frame :=
  if symbol = "," then { f with commas := f.commas + 1, pending := [] }
  else if symbol = ":=" then f.nested 0 1
  else if symbol = ":" || symbol = "=" then
    { f with pending := if f.parameters then [⟨0, 8⟩] else [] }
  else if symbol = "**" then if behindOperand then f.nested 6 2 else f
  else if comparisons.contains symbol then f.operand 4 3
  else if behindOperand then f.operand 5 0
  else if symbol = "-" || symbol = "+" || symbol = "~" then f.nested 6 1
  else f

/-- The open brackets behind a token, the innermost first, given those in front of it. -/
def Token.open (behindOperand : Bool) (f : Frame) (outer : List Frame) : Token → List Frame
  | .keyword "lambda" => { outer := f.rules, parameters := true } :: f :: outer
  | .keyword word => f.word word :: outer
  | .mark ":" =>
      match f.parameters, outer with
      | true, g :: outer => g.nested 0 2 :: outer
      | _, _ => f.symbol ":" behindOperand :: outer
  | .mark s =>
      if s = "(" || s = "[" || s = "\x7b" then
        { outer := f.rules, items := itemRules s behindOperand } :: f :: outer
      else if s = ")" || s = "]" || s = "\x7d" then
        match outer with
        | [] => [f]
        | g :: outer => g :: outer
      else f.symbol s behindOperand :: outer
  | _ => f :: outer

/-- How many rules are entered at most along a row of tokens.  `behindOperand` says whether an
operand ends in front of it. -/
def rulesFrom (behindOperand : Bool) (f : Frame) (outer : List Frame) : List Token → Nat
  | [] => f.rules
  | t :: ts =>
      match t.open behindOperand f outer with
      | [] => f.rules
      | g :: outer => max f.rules (rulesFrom t.endsOperand g outer ts)

/-- How many rules of the grammar are entered one inside the other to read a row of tokens. -/
def rulesOf (ts : List Token) : Nat := wordRules + rulesFrom false {} [] ts

end BoundSql.Expr
