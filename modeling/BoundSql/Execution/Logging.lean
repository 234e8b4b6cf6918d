import BoundSql.Execution.Call
import BoundSql.Observe.Log
set_option autoImplicit false

/-!
# Logs as observers

The observer of events that writes each of them to a log.  What keeps an event from being logged is
raised, and goes to whoever told of the event.

Everything else about logging is a matter of events and of values and is defined there; what is
added here is the shape that executors expect of their observers, who answer with what they raise.
An event below the threshold raises nothing.  The metadata live in a store that logging starts from,
and what logging does to that store is of no consequence to anyone.
-/

namespace BoundSql.Execution

open BoundSql.Observe (Event Stamp logEvent)
open BoundSql.Value (Store)

/-- What the observer that logs events raises when it is told of one.  The values of the metadata
live in a store. -/
def logObserver (threshold level : Int) (stamp : Event → Stamp) (s : Store) (e : Event) :
    Option Raised :=
  match logEvent threshold level (stamp e) e s with
  | .ok .. => none
  | .error f _ => some ⟨f.kind, f.message?.getD "", false⟩

end BoundSql.Execution
