import BoundSql.Value.Basic
set_option autoImplicit false

/-!
# Events

What observers are told: that a template was scanned, that a query began or ended, and how a query
went.  A record holds the fields of an event as values, in the order in which they are listed.

Events are data, and a record is how they are handed to a log: a dictionary with the fields of the
event and whatever metadata the caller added.  The metadata of a caller comes with every event of
that caller, and may hold any values.  Observers of both kinds are functions that may raise
something; `compose` makes one of two, which are told in order.
-/

namespace BoundSql.Observe

open BoundSql.Value (Val)

/-- Metadata that goes with every event, as names with values. -/
abbrev Metadata : Type := List (String × Val)

/-- What is told of an error: the name of its kind, and its text. -/
structure ErrorInfo where
  kind : String
  message : String
  deriving DecidableEq, Repr, Inhabited

/-- An event. -/
structure Event where
  event : String
  component : String
  success : Bool
  metadata : Metadata
  operation : Option String := none
  /-- the number of the query call that the event belongs to -/
  queryId : Option Nat := none
  /-- whether the event tells a duration -/
  timed : Bool := false
  partCount : Option Nat := none
  expressionCount : Option Nat := none
  paramCount : Option Nat := none
  error : Option ErrorInfo := none
  deriving Inhabited

/-- How a query went. -/
structure Observation where
  dialect : String
  operation : String
  sql : String
  paramCount : Nat
  succeeded : Bool
  metadata : Metadata
  error : Option ErrorInfo
  deriving Inhabited

/-- The fields of an event as values. -/
structure Record where
  timestamp : Val
  event : Val
  component : Val
  success : Val
  /-- a dictionary -/
  metadata : Val
  operation : Val := .none
  queryId : Val := .none
  durationMs : Val := .none
  partCount : Val := .none
  expressionCount : Val := .none
  paramCount : Val := .none
  errorType : Val := .none
  errorMessage : Val := .none
  deriving Inhabited

/-- The fields of a record with their names, in order. -/
def Record.entries (r : Record) : List (String × Val) :=
  [("timestamp", r.timestamp), ("event", r.event), ("component", r.component),
    ("success", r.success), ("metadata", r.metadata), ("operation", r.operation),
    ("query_id", r.queryId), ("duration_ms", r.durationMs), ("part_count", r.partCount),
    ("expression_count", r.expressionCount), ("param_count", r.paramCount),
    ("error_type", r.errorType), ("error_message", r.errorMessage)]

/-- The fields that a record cannot do without. -/
def Record.required : List String := ["timestamp", "event", "component", "success"]

/-- The record with the given fields, if none of them is unknown and none that is required is
missing. -/
def Record.ofEntries? (given : List (String × Val)) : Option Record :=
  let value (name : String) : Val := (given.lookup name).getD .none
  let r : Record := {
    timestamp := value "timestamp"
    event := value "event"
    component := value "component"
    success := value "success"
    metadata := value "metadata"
    operation := value "operation"
    queryId := value "query_id"
    durationMs := value "duration_ms"
    partCount := value "part_count"
    expressionCount := value "expression_count"
    paramCount := value "param_count"
    errorType := value "error_type"
    errorMessage := value "error_message" }
  let names := given.map (·.1)
  let known := r.entries.map (·.1)
  if names.all known.contains && Record.required.all names.contains then some r else none

/-- An optional field as a value. -/
def optionalVal {α : Type} (f : α → Val) : Option α → Val
  | some a => f a
  | none => .none

/-- A number as a value. -/
def countVal (n : Nat) : Val := .int n

/-- The record of an event, given the texts that tell its time, its duration and its query, and its
metadata as a dictionary. -/
def Event.record (e : Event) (timestamp duration metadata : Val) (queryText : Nat → String) :
    Record where
  timestamp
  event := .str e.event
  component := .str e.component
  success := .bool e.success
  metadata
  operation := optionalVal .str e.operation
  queryId := optionalVal (fun n => .str (queryText n)) e.queryId
  durationMs := if e.timed then duration else .none
  partCount := optionalVal countVal e.partCount
  expressionCount := optionalVal countVal e.expressionCount
  paramCount := optionalVal countVal e.paramCount
  errorType := optionalVal (fun i => .str i.kind) e.error
  errorMessage := optionalVal (fun i => .str i.message) e.error

/-- The event of a template that was scanned into `parts` parts, `expressions` of which are sites,
or refused. -/
def Event.scan (metadata : Metadata) (parts expressions : Nat) (error : Option ErrorInfo) :
    Event where
  event := "template.scan"
  component := "template"
  success := error.isNone
  metadata
  timed := true
  partCount := some parts
  expressionCount := some expressions
  error

/-- The event at the begin of a query. -/
def Event.queryStart (component operation : String) (metadata : Metadata) (queryId params : Nat) :
    Event where
  event := "query.start"
  component
  success := true
  metadata
  operation := some operation
  queryId := some queryId
  paramCount := some params

/-- The event at the end of a query. -/
def Event.queryEnd (component operation : String) (metadata : Metadata) (queryId params : Nat)
    (error : Option ErrorInfo) : Event where
  event := "query.end"
  component
  success := error.isNone
  metadata
  operation := some operation
  queryId := some queryId
  timed := true
  paramCount := some params
  error

/-! ## Composition of observers -/

/-- An observer: it is told something, may leave a trace, and may fail. -/
abbrev Observer (ε σ α : Type) : Type := α → EStateM ε σ Unit

/-- Tells several observers one after the other; the first failure ends it. -/
def compose {ε σ α : Type} (observers : List (Observer ε σ α)) : Observer ε σ α := fun event =>
  observers.forM fun observer => observer event

/-- The metadata with later values of a name in place of earlier ones. -/
def Metadata.merged (m : Metadata) : Metadata :=
  m.foldl (fun acc e =>
    if acc.any (·.1 == e.1) then acc.map fun f => if f.1 == e.1 then e else f else acc ++ [e]) []

end BoundSql.Observe
