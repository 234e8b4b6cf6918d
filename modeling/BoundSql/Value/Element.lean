import BoundSql.Query.Compiler
import BoundSql.Value.Basic
set_option autoImplicit false

/-!
# Values as elements of queries

What a value means inside a query: a piece of a query means itself, and any other value is bound
as it is.

So an expression whose value is a query puts it into the text, and any other expression puts a
placeholder there.  Which of the two it is depends on the value alone and not on how it was written.
A list of pieces is no piece: it is bound as a list, unless a splat asks for its elements.
-/

namespace BoundSql.Value

open BoundSql.Query (Element Node Sql)

/-- A node as the value that it is. -/
def ofNode : Node Val → Val
  | .literal fragment => .literal fragment
  | .argument value => .argument value

/-- A value as an element of a query. -/
def elementOf : Val → Element Val
  | .literal fragment => .literal fragment
  | .argument value => .argument value
  | .sql args => .sql (args.map Node.toElement)
  | .splat items => .splat (items.map elementOf)
  | v => .plain v

/-- The query that a list of values makes. -/
def sqlOf (vs : List Val) : Sql Val := Sql.ofElements (vs.map elementOf)

/-- A query as a value. -/
def ofSql (q : Sql Val) : Val := .sql q.args

/-- Whether a value is a piece of a query. -/
def isNode : Val → Bool
  | .literal _ | .argument _ | .sql _ | .splat _ => true
  | _ => false

/-- A value with an argument around it, unless it is a piece of a query. -/
def bound (v : Val) : Val := if isNode v then v else .argument v

/-- The query that a value is, if it can be written out: a query, or a single node. -/
def compilable? : Val → Option (Sql Val)
  | .sql args => some ⟨args⟩
  | .literal fragment => some ⟨[.literal fragment]⟩
  | .argument value => some ⟨[.argument value]⟩
  | _ => none

/-- Writes a value out as SQL text with its parameters. -/
def compileValue (c : Query.Compiler) (v : Val) : Eval (Query.Compiled Val) := do
  match compilable? v with
  | some q => pure (c.compile q)
  | none => Eval.fail (.notCompilable (← classNameOf v))

theorem sqlOf_ofSql (q : Sql Val) : sqlOf [ofSql q] = q := by
  cases q
  simp [sqlOf, ofSql, elementOf, Sql.ofElements, Query.flattenAll, Query.Element.flatten]

end BoundSql.Value
