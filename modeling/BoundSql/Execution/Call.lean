import BoundSql.Value.Basic
set_option autoImplicit false

/-!
# Driver calls

What is asked of a database driver, and what it may answer.  A driver is known by its answers
alone: each may depend on everything that was asked before.  A connection is known by a number of
its own, so that a call tells on which connection it is made.

Nothing is said about what a database does.  Statements about executors hold for every driver in
this sense, for those that fail, that commit by themselves or that answer differently each time, and
a script of answers is a driver too, which is how runs on concrete drivers are made.  Rows are
values like any others.  An error of a driver is its kind and its message, and perhaps fatal
(`Raised`).
-/

namespace BoundSql.Execution

open BoundSql.Value (Val)

/-- A database connection. -/
inductive Connection where
  /-- the connection that the caller lends -/
  | lent
  /-- the connection that was opened after `before` others -/
  | opened (before : Nat)
  deriving DecidableEq, Repr, Inhabited

/-- A call on a database driver. -/
inductive Call where
  | connect (positional : List Val) (keywords : List (String × Val))
  | cursor (on : Connection)
  | cursorEnter (on : Connection)
  /-- without parameters, the text is not searched for placeholders -/
  | execute (on : Connection) (sql : String) (params : Option (List Val))
  | fetchAll (on : Connection)
  | fetchOne (on : Connection)
  | cursorExit (on : Connection)
  | commit (on : Connection)
  | close (on : Connection)
  deriving Inhabited

/-- What a connection says of committing by itself. -/
inductive Autocommit where
  /-- it says nothing -/
  | missing
  /-- it says that it does not -/
  | off
  /-- it says anything else -/
  | on
  deriving DecidableEq, Repr, Inhabited

namespace Call

/-- The answers to a call. -/
abbrev Answer : Call → Type
  | connect .. => Autocommit
  /- whether the statement yields rows -/
  | execute .. => Bool
  | fetchAll _ => Val
  | fetchOne _ => Val
  | _ => Unit

/-- The connection that a call is made on. -/
def connection? : Call → Option Connection
  | connect .. => none
  | cursor c | cursorEnter c | execute c _ _ | fetchAll c | fetchOne c | cursorExit c | commit c
  | close c => some c

end Call

/-- An error of a driver or an observer, as it is told: by its kind and its wording.  A fatal one
does not count as a failure of the call that it comes from: it only passes through.  Every error
here has a wording; one whose wording cannot be had without another error is none of these, and
nothing is said of it. -/
structure Raised where
  kind : String
  message : String
  fatal : Bool := false
  deriving DecidableEq, Repr, Inhabited

/-- A driver: what it answers to a call, given the calls before it. -/
abbrev Driver : Type := (before : List Call) → (c : Call) → Except Raised c.Answer

end BoundSql.Execution
