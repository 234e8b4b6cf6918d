import BoundSql.Execution.Call
import BoundSql.Observe.Event
set_option autoImplicit false

/-!
# Runs

A run leaves a trace of the calls it makes on the driver and of what it tells observers, in order.
The trace stays when the run fails.

`Run` is a computation with a state that may fail, and a failure keeps the state.  So a call that
failed is in the trace like one that went well, and what is done in any case is done after both
(`ensuring`): if it fails too, that second failure is the outcome.  What a driver raises is kept
apart from what an executor refuses by itself (`Failure`), since callers see them as different
errors.
-/

namespace BoundSql.Execution

open BoundSql.Observe (ErrorInfo Event Observation)

/-- An entry of a trace. -/
inductive Entry where
  | call (c : Call)
  | event (e : Event)
  | observation (o : Observation)
  deriving Inhabited

/-- What happened, oldest first. -/
abbrev Trace : Type := List Entry

namespace Trace

/-- The driver calls of a trace. -/
def calls (t : Trace) : List Call := t.filterMap fun
  | .call c => some c
  | _ => none

/-- The events of a trace. -/
def events (t : Trace) : List Event := t.filterMap fun
  | .event e => some e
  | _ => none

/-- The observations of a trace. -/
def observations (t : Trace) : List Observation := t.filterMap fun
  | .observation o => some o
  | _ => none

@[simp]
theorem calls_append (t u : Trace) : calls (t ++ u) = calls t ++ calls u :=
  List.filterMap_append

@[simp]
theorem events_append (t u : Trace) : events (t ++ u) = events t ++ events u :=
  List.filterMap_append

@[simp]
theorem observations_append (t u : Trace) :
    observations (t ++ u) = observations t ++ observations u :=
  List.filterMap_append

end Trace

/-- What a run knows. -/
structure State where
  trace : Trace := []
  /-- how many queries were begun -/
  queries : Nat := 0
  /-- how many connections were asked for -/
  connects : Nat := 0
  /-- whether queries are refused -/
  closed : Bool := false
  deriving Inhabited

/-- Why a run failed. -/
inductive Failure where
  | raised (r : Raised)
  /-- a query after the end of the executor's life -/
  | closed
  /-- the driver's library is not there -/
  | noLibrary
  /-- connection options that are not named by texts -/
  | unnamedOption
  /-- something other than a query -/
  | notQuery
  deriving DecidableEq, Repr, Inhabited

namespace Failure

/-- The name of the kind of failure. -/
def kind : Failure → String
  | raised r => r.kind
  | closed => "RuntimeError"
  | noLibrary => "ImportError"
  | unnamedOption => "TypeError"
  | notQuery => "AttributeError"

/-- The wording of a failure, as observers see it. -/
def message : Failure → String
  | raised r => r.message
  | closed => "Executor is closed."
  | noLibrary => String.join ["The 'psycopg' library is required for PostgresExecutor. ",
      "Install it with 'pip install psycopg[binary]'."]
  | unnamedOption => "keywords must be strings"
  | notQuery => ""

/-- The wording of a failure, where it has one of its own. -/
def message? : Failure → Option String
  | unnamedOption | notQuery => none
  | f => some f.message

/-- What observers are told of a failure; a fatal error is none to them. -/
def info? : Failure → Option ErrorInfo
  | raised ⟨_, _, true⟩ => none
  | f => some ⟨f.kind, f.message⟩

end Failure

/-- A computation that leaves a trace. -/
abbrev Run (α : Type) : Type := EStateM Failure State α

namespace Run

/-- Adds to the trace. -/
def note (e : Entry) : Run Unit := modify fun s => { s with trace := s.trace ++ [e] }

/-- Calls the driver; the call is in the trace also when the driver fails. -/
def call (d : Driver) (c : Call) : Run c.Answer := do
  let before := (← get).trace.calls
  note (.call c)
  match d before c with
  | .ok a => pure a
  | .error r => throw (.raised r)

/-- The driver is asked first, and the call is noted whatever it answers. -/
theorem call_run (d : Driver) (c : Call) (s : State) :
    call d c s = (match d s.trace.calls c with
      | .ok a => pure a
      | .error r => throw (.raised r) : Run c.Answer) { s with trace := s.trace ++ [.call c] } :=
  rfl

theorem call_ok {d : Driver} {c : Call} {s : State} {a : c.Answer}
    (h : d s.trace.calls c = .ok a) :
    call d c s = .ok a { s with trace := s.trace ++ [.call c] } := by
  rw [call_run, h]
  rfl

theorem call_error {d : Driver} {c : Call} {s : State} {r : Raised}
    (h : d s.trace.calls c = .error r) :
    call d c s = .error (.raised r) { s with trace := s.trace ++ [.call c] } := by
  rw [call_run, h]
  rfl

/-- Runs `x` and then, whatever came of it, `last`, which is told of a failure.  A failure of
`last` takes the place of one of `x`. -/
def ensuring {α : Type} (x : Run α) (last : Option Failure → Run Unit) : Run α := fun s =>
  match x s with
  | .ok a s =>
      match last none s with
      | .ok _ s => .ok a s
      | .error f s => .error f s
  | .error f s =>
      match last (some f) s with
      | .ok _ s => .error f s
      | .error f s => .error f s

theorem ensuring_ok {α : Type} {x : Run α} {last : Option Failure → Run Unit} {s t u : State}
    {a : α} (hx : x s = .ok a t) (hl : last none t = .ok () u) :
    ensuring x last s = .ok a u := by
  simp [ensuring, hx, hl]

theorem ensuring_error {α : Type} {x : Run α} {last : Option Failure → Run Unit} {s t u : State}
    {f : Failure} (hx : x s = .error f t) (hl : last (some f) t = .ok () u) :
    ensuring x last s = .error f u := by
  simp [ensuring, hx, hl]

end Run

end BoundSql.Execution
