import BoundSql.Execution.Run
import BoundSql.Query.Compiler
import BoundSql.Text.Case
import BoundSql.Text.Search
set_option autoImplicit false

/-!
# Executors

An executor hands compiled queries to a database driver.  It opens a connection for each query,
commits it and closes it again, unless the caller lends it one: such a connection is only used.
Observers are told when a query begins, how it went, and when it ends.

There are two dialects, and one definition of an executor for both: they differ in their compilers,
in how connections are opened, and in whether statements are executed on a cursor.  The steps of a
query are written as a run with a trace (`runOnConnection`, `observed`, `query`).  Whatever has been
begun is left again, failure or not, and a failure on the way out takes the place of the one before
it.

`answerAll` puts the requests of a caller one behind the other: queries, and the begin and the end
of a block, which closes an executor that opens files.
-/

namespace BoundSql.Execution

open BoundSql.Observe (Event Metadata Observation)
open BoundSql.Query (Compiled Compiler Sql)
open BoundSql.Value (Val)

/-! ## Executors -/

/-- How a driver is used. -/
inductive Dialect where
  /-- statements are executed on the connection itself -/
  | sqlite
  /-- statements are executed on a cursor, which is left when it is done with -/
  | postgres
  deriving DecidableEq, Repr, Inhabited

/-- The compiler for queries of a dialect, unless another one is asked for. -/
def Dialect.compiler : Dialect → Compiler
  | sqlite => ⟨Query.Placeholder.qmark, none⟩
  | postgres => .percent

/-- What a driver is given to open a connection. -/
structure Opening where
  positional : List Val
  keywords : List (String × Val)
  deriving Inhabited

/-- How an executor gets at connections. -/
inductive Access where
  /-- the caller lends one -/
  | lent
  /-- one is opened for each query, or cannot be -/
  | own (opening : Except Failure Opening)
  deriving Inhabited

/-- Those who are told of queries, and with which metadata.  An observer may fail. -/
structure Observers where
  query : Option (Observation → Option Raised) := none
  event : Option (Event → Option Raised) := none
  metadata : Metadata := []
  deriving Inhabited

/-- An executor. -/
structure Executor where
  dialect : Dialect
  access : Access
  compiler : Compiler
  /-- the name by which events call the executor -/
  component : String
  observers : Observers := {}

/-- The name of a class of executors as events show it. -/
def componentOf (className : String) : String :=
  let cs := Text.replaced "executor".toList [] none (Text.lower className.toList)
  if cs.isEmpty then "unknown" else String.ofList cs

/-- Why there is no executor. -/
inductive SetupError where
  /-- there is neither a connection nor anything to open one with -/
  | noConnection
  /-- an option that the dialect does not have -/
  | unknownOption
  deriving DecidableEq, Repr, Inhabited

namespace SetupError

/-- The name of the kind of error. -/
def kind : SetupError → String
  | noConnection => "ValueError"
  | unknownOption => "TypeError"

/-- The wording of an error, where it has one of its own. -/
def message? : SetupError → Option String
  | noConnection => some "Either connection_info or connection must be provided."
  | unknownOption => none

end SetupError

/-! ## Ways to open a connection -/

/-- A path opens a file; `timeout` bounds the wait for it, unless it is nothing. -/
def Opening.ofPath (path : Val) (timeout : Option Val) : Opening where
  positional := [path]
  keywords := match timeout with
    | none | some .none => []
    | some seconds => [("timeout", seconds)]

/-- Options with texts as names. -/
def namedOptions : List (Val × Val) → Option (List (String × Val))
  | [] => some []
  | (.str name, v) :: entries => (namedOptions entries).map ((Text.plain name, v) :: ·)
  | _ :: _ => none

/-- Options open a connection by their names, which have to be texts. -/
def Opening.ofOptions (entries : List (Val × Val)) : Except Failure Opening :=
  match namedOptions entries with
  | some keywords => .ok ⟨[], keywords⟩
  | none => .error .unnamedOption

/-- A server is known by options in a dictionary, or by anything else that its driver
understands. -/
def Opening.ofServer (info : Val) : Value.Eval (Except Failure Opening) := do
  match info with
  | .object address =>
      match ← Value.Eval.load address with
      | .dict entries => pure (Opening.ofOptions entries.toList)
      | _ => pure (.ok ⟨[info], []⟩)
  | info => pure (.ok ⟨[info], []⟩)

/-! ## Making executors -/

/-- What an executor is made from. -/
structure Setup where
  dialect : Dialect
  /-- what to open connections with, unless it is nothing -/
  info : Val := .none
  /-- whether the caller lends a connection -/
  lent : Bool := false
  timeout : Option Val := none
  compiler : Option Compiler := none
  /-- whether the driver of the dialect is there -/
  installed : Bool := true
  className : Option String := none
  observers : Observers := {}

/-- The class of the executors of a dialect. -/
def Dialect.className : Dialect → String
  | sqlite => "SqliteExecutor"
  | postgres => "PostgresExecutor"

/-- How an executor gets at connections.  A connection that is lent is preferred to one that would
be opened, and a timeout is for files alone. -/
def Setup.access (s : Setup) : Value.Eval (Except SetupError Access) := do
  match s.dialect, s.timeout, s.lent, s.info with
  | .postgres, some _, _, _ => pure (.error .unknownOption)
  | _, _, true, _ => pure (.ok .lent)
  | _, _, false, .none => pure (.error .noConnection)
  | .sqlite, timeout, false, info => pure (.ok (.own (.ok (Opening.ofPath info timeout))))
  | .postgres, none, false, info =>
      if s.installed then do pure (.ok (.own (← Opening.ofServer info)))
      else pure (.ok (.own (.error .noLibrary)))

/-- Makes an executor. -/
def Setup.executor (s : Setup) : Value.Eval (Except SetupError Executor) := do
  pure ((← s.access).map fun access => {
    dialect := s.dialect
    access
    compiler := s.compiler.getD s.dialect.compiler
    component := componentOf (s.className.getD s.dialect.className)
    observers := s.observers })

/-! ## Queries -/

/-- What is to be done with the rows of a statement. -/
inductive Fetch where
  /-- all are fetched if the statement yields rows -/
  | ifAny
  | all
  | one
  | nothing
  deriving DecidableEq, Repr, Inhabited

/-- The ways to ask for a query. -/
inductive Operation where
  | execute | fetchAll | fetchOne | executeRaw
  deriving DecidableEq, Repr, Inhabited

namespace Operation

/-- The name of an operation as events show it. -/
def name : Operation → String
  | execute => "execute"
  | fetchAll => "fetch_all"
  | fetchOne => "fetch_one"
  | executeRaw => "execute_raw"

/-- What an operation does with rows. -/
def fetch : Operation → Fetch
  | execute => .ifAny
  | fetchAll => .all
  | fetchOne => .one
  | executeRaw => .nothing

end Operation

/-- What may be given as a query. -/
inductive Subject where
  | query (q : Sql Val)
  | compiled (c : Compiled Val)
  /-- SQL text that goes to the driver as it is -/
  | raw (sql : String)
  /-- something else -/
  | other
  deriving Inhabited

/-- What a value is when it is given as a query.  Besides queries, whatever has a text `sql` and a
list `params` is taken as it is. -/
def Subject.ofVal (v : Val) : Value.Eval Subject := do
  let compiled (sql params : Option Val) : Value.Eval Subject := do
    match sql, params with
    | some (.str sql), some (.object address) =>
        match ← Value.Eval.load address with
        | .list items => pure (.compiled ⟨Text.plain sql, items.toList⟩)
        | _ => pure .other
    | _, _ => pure .other
  match v with
  | .sql args => pure (.query ⟨args⟩)
  | .object address =>
      match ← Value.Eval.load address with
      | .compiled sql params => compiled sql params
      | .record fields => compiled (fields.lookup "sql") (fields.lookup "params")
      | _ => pure .other
  | _ => pure .other

namespace Executor

/-- A query as the text and the parameters that observers are told of. -/
def compile (x : Executor) : Subject → Run (Compiled Val)
  | .query q => pure (x.compiler.compile q)
  | .compiled c => pure c
  | .raw sql => pure ⟨sql, []⟩
  | .other => throw .notQuery

/-- The parameters that the driver is given.  A cursor takes raw text without any list, so that
percent signs in it mean themselves. -/
def driverParams (x : Executor) (op : Operation) (params : List Val) : Option (List Val) :=
  if x.dialect = .postgres ∧ op = .executeRaw then none else some params

/-! ## Statements on a connection -/

/-- Fetches the rows of a statement. -/
def fetchRows (d : Driver) (on : Connection) (hasRows : Bool) : Fetch → Run Val
  | .ifAny => if hasRows then Run.call d (.fetchAll on) else pure .none
  | .all => Run.call d (.fetchAll on)
  | .one => Run.call d (.fetchOne on)
  | .nothing => pure .none

/-- Executes a statement and fetches its rows. -/
def statement (d : Driver) (on : Connection) (sql : String) (params : Option (List Val))
    (fetch : Fetch) : Run Val := do
  let hasRows ← Run.call d (.execute on sql params)
  fetchRows d on hasRows fetch

/-- Runs `x` inside a cursor, which is left again whatever comes of it. -/
def insideCursor {α : Type} (d : Driver) (on : Connection) (x : Run α) : Run α := do
  Run.call d (.cursor on)
  Run.call d (.cursorEnter on)
  x.ensuring fun _ => Run.call d (.cursorExit on)

/-- Uses a connection for a statement, as the dialect demands. -/
def useConnection (x : Executor) (d : Driver) (on : Connection) (op : Operation)
    (c : Compiled Val) : Run Val :=
  let run := statement d on c.sql (x.driverParams op c.params) op.fetch
  match x.dialect with
  | .sqlite => run
  | .postgres => insideCursor d on run

/-- Whether a connection that was opened has to be committed: one that commits by itself is left
alone. -/
def commits (x : Executor) (a : Autocommit) : Bool :=
  match x.dialect, a with
  | .postgres, .on => false
  | _, _ => true

/-- Opens a connection. -/
def openConnection (d : Driver) (o : Opening) : Run (Connection × Autocommit) := do
  let s ← get
  set { s with connects := s.connects + 1 }
  let autocommit ← Run.call d (.connect o.positional o.keywords)
  pure (.opened s.connects, autocommit)

/-- Runs a statement on the connection that is lent, or on one of its own, which is committed after
success and closed in any case. -/
def runOnConnection (x : Executor) (d : Driver) (op : Operation) (c : Compiled Val) : Run Val := do
  if (← get).closed then throw .closed
  match x.access with
  | .lent => x.useConnection d .lent op c
  | .own (.error f) => throw f
  | .own (.ok o) => do
      let (on, autocommit) ← openConnection d o
      Run.ensuring
        (do
          let rows ← x.useConnection d on op c
          if x.commits autocommit then Run.call d (.commit on)
          pure rows)
        fun _ => Run.call d (.close on)

/-! ## Observation -/

/-- Tells the observer of events, if there is one. -/
def emit (x : Executor) (e : Event) : Run Unit := do
  match x.observers.event with
  | none => pure ()
  | some observer => do
      Run.note (.event e)
      match observer e with
      | some r => throw (.raised r)
      | none => pure ()

/-- Tells the observer of queries, if there is one. -/
def report (x : Executor) (o : Observation) : Run Unit := do
  match x.observers.query with
  | none => pure ()
  | some observer => do
      Run.note (.observation o)
      match observer o with
      | some r => throw (.raised r)
      | none => pure ()

/-- Runs a query between the events of its begin and its end. -/
def observed {α : Type} (x : Executor) (op : Operation) (c : Compiled Val) (run : Run α) :
    Run α := do
  let s ← get
  let id := s.queries
  set { s with queries := id + 1 }
  let metadata := x.observers.metadata
  x.emit (.queryStart x.component op.name metadata id c.params.length)
  run.ensuring fun failure => do
    let error := failure.bind Failure.info?
    x.report {
      dialect := x.component
      operation := op.name
      sql := c.sql
      paramCount := c.params.length
      succeeded := error.isNone
      metadata
      error }
    x.emit (.queryEnd x.component op.name metadata id c.params.length error)

/-- Runs a query. -/
def query (x : Executor) (d : Driver) (op : Operation) (subject : Subject) : Run Val := do
  let c ← x.compile subject
  x.observed op c (x.runOnConnection d op c)

/-! ## The life of an executor -/

/-- What may be asked of an executor. -/
inductive Request where
  | query (op : Operation) (subject : Subject)
  /-- begins a block at the end of which the executor is closed -/
  | enter
  | exit
  | close
  deriving Inhabited

/-- What an executor answers. -/
inductive Reply where
  /-- the executor itself -/
  | itself
  | value (v : Val)
  deriving Inhabited

/-- Ends the life of an executor.  Where connections are opened by a server nothing is held, and
the executor stays usable. -/
def finish (x : Executor) : Run Unit :=
  match x.dialect with
  | .sqlite => modify fun s => { s with closed := true }
  | .postgres => pure ()

/-- Answers a request. -/
def answer (x : Executor) (d : Driver) : Request → Run Reply
  | .query op subject => do pure (.value (← x.query d op subject))
  | .enter => pure .itself
  | .exit | .close => do
      x.finish
      pure (.value .none)

/-- Answers requests one after the other; a failure ends the request that it belongs to. -/
def answerAll (x : Executor) (d : Driver) :
    List Request → State → List (Except Failure Reply) × State
  | [], s => ([], s)
  | r :: rs, s =>
      match x.answer d r s with
      | .ok reply t =>
          let (replies, u) := x.answerAll d rs t
          (.ok reply :: replies, u)
      | .error f t =>
          let (replies, u) := x.answerAll d rs t
          (.error f :: replies, u)

end Executor

end BoundSql.Execution
