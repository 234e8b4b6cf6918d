import BoundSql.Expr.Reader
import BoundSql.Expr.Scope
set_option autoImplicit false

/-!
# Accepting expressions

A source is an expression of the language if it can be read and its scopes are in order.

Reading and checking scopes are two passes over the same expression, the second one over its tree.
Both are total: a source is cut into tokens, and the number of levels of its tree is bounded by its
tokens (`levelBound`), which is as deep as either pass can go.  What an interpreter can manage in a
limited stack is a different question and is not decided here (see `Room`).
-/

namespace BoundSql.Expr

/-- The tree of an acceptable row of tokens. -/
def compileTokens (ts : List Token) : Option Tree := do
  let t ← readTokens ts
  if t.scopesInOrder (levelBound ts) then some t else none

/-- The tree of an acceptable source. -/
def compile (source : List Char) : Option Tree := do compileTokens (← tokens source)

/-- Whether a source is an expression. -/
def accepts (source : List Char) : Bool := (compile source).isSome

theorem accepts_eq_true_iff {source : List Char} :
    accepts source = true ↔ ∃ t, compile source = some t := by
  simp [accepts, Option.isSome_iff_exists]

end BoundSql.Expr
