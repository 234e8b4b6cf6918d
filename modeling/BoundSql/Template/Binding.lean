import BoundSql.Query.Sql
import BoundSql.Template.Scan
set_option autoImplicit false

/-!
# Binding

Binding turns the parts of a template into the elements of a query.  The sites are evaluated from
left to right, each of them once, and whatever one evaluation changes the next one sees; the first
failure ends it.  How code is evaluated is a parameter.

Not knowing the evaluator keeps this module apart from the language of the expressions: it says in
which order sites are evaluated and what becomes of their values, and nothing about the values.  A
splat asks for the elements of a value, which is an evaluation as well.  The evaluator for
expressions is put in where queries are made of templates.
-/

namespace BoundSql.Template

open BoundSql.Query (Element Sql)

/-- How the code of sites becomes values, and what values mean in a query. -/
structure Evaluator (m : Type → Type) (Code V : Type) where
  /-- the value of the code of a site -/
  value : Code → m V
  /-- the elements of the value of a splat -/
  elements : V → m (List V)
  /-- what a value means in a query -/
  element : V → Element V

namespace Evaluator

variable {m : Type → Type} {Code V : Type}

/-- The element that a part stands for. -/
def part [Monad m] (ev : Evaluator m Code V) : Part Code → m (Element V)
  | .literal text => pure (.literal text)
  | .site site => do
      let v ← ev.value site.code
      if site.splat then
        let vs ← ev.elements v
        pure (.splat (vs.map ev.element))
      else pure (ev.element v)

/-- The elements that parts stand for. -/
def parts [Monad m] (ev : Evaluator m Code V) : List (Part Code) → m (List (Element V))
  | [] => pure []
  | p :: ps => do
      let e ← ev.part p
      let es ← ev.parts ps
      pure (e :: es)

/-- The query that parts stand for. -/
def bind [Monad m] (ev : Evaluator m Code V) (ps : List (Part Code)) : m (Sql V) := do
  pure (Sql.ofElements (← ev.parts ps))

theorem parts_nil [Monad m] (ev : Evaluator m Code V) : ev.parts [] = pure [] := rfl

theorem parts_append [Monad m] [LawfulMonad m] (ev : Evaluator m Code V)
    (ps qs : List (Part Code)) :
    ev.parts (ps ++ qs) = (do
      let es ← ev.parts ps
      let fs ← ev.parts qs
      pure (es ++ fs)) := by
  induction ps with
  | nil => simp [parts]
  | cons p ps ih => simp [parts, ih]

end Evaluator

/-- A template that was scanned. -/
structure Scanned (Code : Type) where
  text : String
  parts : List (Part Code)
  deriving DecidableEq, Repr, Inhabited

/-- How a scanned template is shown. -/
def Scanned.shown {Code : Type} (t : Scanned Code) : String :=
  "SqlTemplate(" ++ Text.quoted t.text ++ ")"

end BoundSql.Template
