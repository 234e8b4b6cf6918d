set_option autoImplicit false

/-!
# Elements and nodes of a query

A query is written down as elements: literal SQL, values to be bound, queries inside queries,
and collections whose items take one place together.  Flattening turns any such tree into a row
of nodes, which are literal SQL or bound values and nothing else.

A splat puts commas between its items.  Elements may be nested to any depth and are flattened by
recursion over the tree, so there is no limit but the one that the machine has; that limit is no
part of the definition.  Nodes are elements again (`Node.toElement`), and flattening does nothing to
them, which is why a query that is made once can be put into others.
-/

namespace BoundSql.Query

/-- A flat piece of a query: SQL text as it stands, or a value that is bound as a parameter. -/
inductive Node (V : Type) where
  | literal (fragment : String)
  | argument (value : V)
  deriving DecidableEq, Repr, Inhabited

/-- A piece of a query as it is written down. -/
inductive Element (V : Type) where
  | literal (fragment : String)
  | argument (value : V)
  /-- a value with no meaning of its own for queries, which is bound like an argument -/
  | plain (value : V)
  /-- a query inside the query -/
  | sql (elements : List (Element V))
  /-- items that stand in one place, separated by commas -/
  | splat (items : List (Element V))
  deriving Repr, Inhabited

/-- What stands between two items of a splat. -/
def separatorText : String := ","

/-- The separator as a node. -/
def separator {V : Type} : Node V := .literal separatorText

mutual

/-- The nodes of one element.  An element of any depth has some: that a walk through elements takes
room on a call stack, and may run out of it where they are nested about a thousand deep, is not part
of what an element comes to. -/
def Element.flatten {V : Type} : Element V → List (Node V)
  | .literal fragment => [.literal fragment]
  | .argument value => [.argument value]
  | .plain value => [.argument value]
  | .sql elements => flattenAll elements
  | .splat items => flattenItems items

/-- The nodes of a list of elements. -/
def flattenAll {V : Type} : List (Element V) → List (Node V)
  | [] => []
  | e :: es => e.flatten ++ flattenAll es

/-- The nodes of the items of a splat. -/
def flattenItems {V : Type} : List (Element V) → List (Node V)
  | [] => []
  | e :: es => e.flatten ++ flattenRest es

/-- The nodes of the further items of a splat, each behind a separator.  An item that has no
nodes still gets its separator. -/
def flattenRest {V : Type} : List (Element V) → List (Node V)
  | [] => []
  | e :: es => separator :: (e.flatten ++ flattenRest es)

end

/-- A node is an element that stands for itself. -/
def Node.toElement {V : Type} : Node V → Element V
  | .literal fragment => .literal fragment
  | .argument value => .argument value

/-- The bound value of a node. -/
def Node.value? {V : Type} : Node V → Option V
  | .literal _ => none
  | .argument value => some value

/-- The literal text of a node. -/
def Node.fragment? {V : Type} : Node V → Option String
  | .literal fragment => some fragment
  | .argument _ => none

@[simp] theorem Node.value?_literal {V : Type} (s : String) :
    (Node.literal s : Node V).value? = none := rfl

@[simp] theorem Node.value?_argument {V : Type} (v : V) : (Node.argument v).value? = some v := rfl

/-! ## Laws of flattening -/

@[simp] theorem Node.flatten_toElement {V : Type} (n : Node V) :
    n.toElement.flatten = [n] := by
  cases n <;> simp [Node.toElement, Element.flatten]

@[simp] theorem flattenAll_append {V : Type} (es fs : List (Element V)) :
    flattenAll (es ++ fs) = flattenAll es ++ flattenAll fs := by
  induction es with
  | nil => simp [flattenAll]
  | cons e es ih => simp [flattenAll, ih]

@[simp] theorem flattenAll_toElement {V : Type} (ns : List (Node V)) :
    flattenAll (ns.map Node.toElement) = ns := by
  induction ns with
  | nil => simp [flattenAll]
  | cons n ns ih => simp [flattenAll, ih]

end BoundSql.Query
