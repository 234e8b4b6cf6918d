import BoundSql.Execution.Executor
import BoundSql.Template.Build
set_option autoImplicit false

/-!
# Templates before the eyes of observers

Whoever makes a template may have the scan of its text observed.  The observer is told once the scan
is over, whatever came of it, and of the parts or of the error.  Errors are caught by their kind:
those of the text are told of, and any other one only passes through.

A making is the outcome together with what was told and with the store as it is left.  What an
observer raises takes the place of the outcome.  A value that is no text is refused before there is
something to scan, and nothing is told of it.
-/

namespace BoundSql.Template

open BoundSql.Execution (Observers Raised)
open BoundSql.Observe (ErrorInfo Event Metadata)
open BoundSql.Value (Store Val)

/-- Why no template was made. -/
inductive Unmade where
  | refused (r : Refusal)
  /-- the observer raised something when it was told -/
  | raised (r : Raised)
  deriving DecidableEq, Repr, Inhabited

/-- What is told of an error: the kind and the wording of an error of the text, and nothing of any
other one. -/
def Unmade.caught? : Unmade → Option ErrorInfo
  | .refused (.template e) => some ⟨e.kind, e.message⟩
  | _ => none

/-- The event of a scan that is over. -/
def scanEvent (metadata : Metadata) : Except Unmade ExprTemplate → Event
  | .ok t => .scan metadata t.parts.length (siteCount t.parts) none
  | .error e => .scan metadata 0 0 e.caught?

/-- What making a template comes to: the template or why there is none, the values behind it, and
the events that were told, oldest first. -/
structure Making where
  outcome : Except Unmade ExprTemplate
  store : Store
  events : List Event
  deriving Inhabited

namespace Making

/-- A computation that makes a template, without anybody watching. -/
def ofBuild (x : Build ExprTemplate) (s : Store) : Making :=
  match x s with
  | .ok t s => ⟨.ok t, s, []⟩
  | .error r s => ⟨.error (.refused r), s, []⟩

/-- Tells the observer of events, if there is one.  What it raises takes the place of the outcome.
-/
def tell (o : Observers) (e : Event) (m : Making) : Making :=
  match o.event with
  | none => m
  | some observer =>
      let outcome := match observer e with
        | some r => .error (.raised r)
        | none => m.outcome
      { m with outcome, events := m.events ++ [e] }

end Making

/-- Makes a template of a value.  The observer is told of the scan of a text; a value that is no
text is refused before. -/
def makeTemplate (room : Room) (settings : Settings) (o : Observers) (v : Val) (s : Store) :
    Making :=
  let m := Making.ofBuild (scanValue room settings v) s
  match v with
  | .str _ => m.tell o (scanEvent o.metadata m.outcome)
  | _ => m

end BoundSql.Template
