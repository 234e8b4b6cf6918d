import BoundSql.Eval.Sorting
import BoundSql.Observe.Event
import BoundSql.Observe.LogTree
import BoundSql.Value.Show
set_option autoImplicit false

/-!
# Log lines

How an event becomes one line of a log.  Lists and tuples become arrays, and dictionaries become
objects whose members are sorted by their keys before the keys are turned into text.  A value of
any other kind is logged as the text that shows it.

The values in a record come from callers, so any of them may be in it: a list that contains itself,
a dictionary whose keys cannot be sorted, or a number with no numeral.  The first two make logging
fail, and the last one is written as a word.  A log with a higher threshold than the level of the
event adds no line and looks at nothing.  The time and the duration in a record come from a `Stamp`,
since nothing here can tell the time.
-/

namespace BoundSql.Observe

open BoundSql.Value
open BoundSql.Eval (Keyed sortKeyed)

/-- The text of what is no number. -/
def notANumberText : String := "NaN"

/-- The text of a floating point number in a log. -/
def numberText (x : Float) : String :=
  match Decimal.Binary.ofFloat x with
  | .nan => notANumberText
  | .infinite negative => if negative then "-Infinity" else "Infinity"
  | .finite .. => Decimal.floatText x

/-- The text of a key. -/
def keyText (v : Val) : Eval Text := do
  match v with
  | .str s => pure s
  | .int n => do pure (← intText n)
  | .float x => pure (numberText x)
  | .nan _ => pure notANumberText
  | .bool b => pure (if b then "true" else "false" : String)
  | .none => pure ("null" : String)
  | _ => Eval.fail .wrongType

/-- The entries of a dictionary in the order of their keys. -/
def sortedEntries (entries : List (Val × Val)) : Eval (List (Val × Val)) := do
  let sorted ← sortKeyed (entries.map fun e => ⟨e.1, e.2⟩)
  pure (sorted.map fun k => (k.key, k.value))

/-- The members of an object for the entries of a dictionary, where `tree` says what becomes of a
value. -/
def membersOf (tree : Val → Eval LogTree) (entries : List (Val × Val)) :
    Eval (List (Text × LogTree)) := do
  (← sortedEntries entries).mapM fun e => do
    let name ← keyText e.1
    pure (name, ← tree e.2)

/-- What a log says of a value.  `fuel` bounds the depth of nesting, and `inside` holds the
addresses of the collections around the value. -/
def treeWithin : (fuel : Nat) → (inside : List Nat) → Val → Eval LogTree
  | 0, _, _ => Eval.fail .tooDeep
  | fuel + 1, inside, v => do
      match v with
      | .none => pure .null
      | .bool b => pure (.bool b)
      | .int n => do pure (.number (← intText n).toList)
      | .float x => pure (.number (numberText x).toList)
      | .nan _ => pure (.number notANumberText.toList)
      | .str s => pure (.string s)
      | .tuple items => do pure (.array (← items.mapM (treeWithin fuel inside)))
      | .object address => do
          let nested := treeWithin fuel (address :: inside)
          match ← Eval.load address with
          | .list items => do
              if inside.contains address then Eval.fail .wrongValue
              pure (.array (← items.toList.mapM nested))
          | .dict entries => do
              if inside.contains address then Eval.fail .wrongValue
              pure (.object (← membersOf nested entries.toList))
          | _ => do pure (.string (← shown v))
      | v => do pure (.string (← shown v))

/-- What a log says of a value. -/
def treeOf (v : Val) : Eval LogTree := treeWithin depthLimit [] v

/-- The line that logs a record. -/
def logLine (r : Record) : Eval String := do
  let members ← membersOf treeOf (r.entries.map fun e => (Val.str e.1, e.2))
  pure (String.ofList (LogTree.object members).text)

/-- The level that events are logged at, unless another one is asked for. -/
def defaultLevel : Int := 20

/-- Whether a log with a threshold takes lines of a level. -/
def isEnabled (threshold level : Int) : Bool := decide (0 < level) && decide (threshold ≤ level)

/-- The lines that logging a record adds to a log.  The line is made before the level is looked
at, so that a record that cannot be logged fails at any level. -/
def logged (threshold level : Int) (r : Record) : Eval (List String) := do
  let line ← logLine r
  pure (if isEnabled threshold level then [line] else [])

/-- What goes with an event when it is told: the texts of its time and of its query, and how long
the query took. -/
structure Stamp where
  timestamp : Text
  duration : Float
  queryText : Nat → String
  deriving Inhabited

/-- Metadata as the entries of a dictionary. -/
def Metadata.entries (m : Metadata) : List (Val × Val) := m.map fun e => (Val.str e.1, e.2)

/-- The lines that logging an event adds to a log.  Its metadata becomes a dictionary. -/
def logEvent (threshold level : Int) (stamp : Stamp) (e : Event) : Eval (List String) := do
  let metadata ← Eval.make (.dict e.metadata.entries.toArray)
  logged threshold level
    (e.record (.str stamp.timestamp) (.float stamp.duration) metadata stamp.queryText)

end BoundSql.Observe
