import BoundSql.Query.Node
set_option autoImplicit false

/-!
# Queries

A query is a row of nodes.  It is built from elements by flattening, and two queries are joined
with a blank between them.

Queries are values: joining two of them makes a third one and leaves both as they are.  A query
without nodes is empty, and joining with it still puts a blank, since no node is ever looked into.
The parameters of a query are its values from left to right (`params`), and do not depend on how it
is written out.
-/

namespace BoundSql.Query

/-- A query: literal SQL and bound values in the order of the text. -/
structure Sql (V : Type) where
  args : List (Node V)
  deriving DecidableEq, Repr, Inhabited

namespace Sql

/-- The query that a list of elements stands for. -/
def ofElements {V : Type} (elements : List (Element V)) : Sql V := ⟨flattenAll elements⟩

/-- The query as an element of another one. -/
def toElement {V : Type} (q : Sql V) : Element V := .sql (q.args.map Node.toElement)

/-- What stands between two joined queries. -/
def blank : String := " "

/-- Two queries one after the other, with a blank between them even if one of them is empty. -/
def join {V : Type} (q r : Sql V) : Sql V := ⟨q.args ++ .literal blank :: r.args⟩

/-- Whether a query has no nodes. -/
def isEmpty {V : Type} (q : Sql V) : Bool := q.args.isEmpty

/-- The bound values in the order of the text. -/
def params {V : Type} (q : Sql V) : List V := q.args.filterMap Node.value?

@[simp] theorem ofElements_toElement {V : Type} (q : Sql V) : ofElements [q.toElement] = q := by
  cases q
  simp [ofElements, toElement, flattenAll, Element.flatten]

@[simp] theorem params_join {V : Type} (q r : Sql V) :
    (q.join r).params = q.params ++ r.params := by
  simp [params, join, List.filterMap_cons]

end Sql

end BoundSql.Query
