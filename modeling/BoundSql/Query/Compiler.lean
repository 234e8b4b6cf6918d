import BoundSql.Query.Placeholder
import BoundSql.Query.Sql
set_option autoImplicit false

/-!
# Compiling queries

Compiling writes a query out as SQL text with placeholders, numbered from one, and the list of
the values they stand for.

A compiler is a way to write placeholders and perhaps a change to literal text, and nothing else.
Each way of binding that drivers know is one compiler.  The numbers of placeholders are the places
of the values in the list, and so the text of a node depends on how many values come before it
(`texts_append`).  `account` is the text of a query for human readers, and cannot be executed.
-/

namespace BoundSql.Query

/-- SQL text with placeholders and the values for them, in order. -/
structure Compiled (V : Type) where
  sql : String
  params : List V
  deriving DecidableEq, Repr, Inhabited

/-- How queries are written out. -/
structure Compiler where
  placeholder : Placeholder := Placeholder.dollar
  /-- a change made to all literal text -/
  escape : Option (String → String) := none

namespace Compiler

/-- Literal text as it is written out. -/
def literalText (c : Compiler) (fragment : String) : String :=
  match c.escape with
  | some f => f fragment
  | none => fragment

/-- The texts of the nodes; the next placeholder has the number `next`. -/
def texts {V : Type} (c : Compiler) (next : Nat) : List (Node V) → List String
  | [] => []
  | .literal fragment :: ns => c.literalText fragment :: c.texts next ns
  | .argument _ :: ns => c.placeholder next :: c.texts (next + 1) ns

/-- Writes a query out. -/
def compile {V : Type} (c : Compiler) (q : Sql V) : Compiled V :=
  ⟨String.join (c.texts 1 q.args), q.params⟩

/-- A compiler for drivers that bind by percent signs. -/
def percent : Compiler := ⟨Placeholder.format, some escapePercent⟩

theorem texts_append {V : Type} (c : Compiler) (ns ms : List (Node V)) (next : Nat) :
    c.texts next (ns ++ ms)
      = c.texts next ns ++ c.texts (next + (ns.filterMap Node.value?).length) ms := by
  induction ns generalizing next with
  | nil => simp [texts]
  | cons n ns ih =>
      cases n with
      | literal s => simp [texts, ih, List.filterMap_cons]
      | argument v => simp [texts, ih, Nat.add_assoc, Nat.add_comm 1]

end Compiler

/-- A readable account of a query: its text, and one line for each parameter that shows its
value. -/
def account (sql : String) (shown : List String) : String :=
  if shown.isEmpty then sql
  else
    let lines := shown.mapIdx fun i s => "$" ++ toString (i + 1) ++ " = " ++ s
    sql ++ "\n  " ++ String.intercalate "\n  " lines

end BoundSql.Query
