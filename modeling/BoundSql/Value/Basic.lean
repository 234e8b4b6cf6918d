import BoundSql.Expr.Tree
import BoundSql.Query.Node
import BoundSql.Value.Class
set_option autoImplicit false

/-!
# Values

Values that cannot change are trees.  Values that can change live in a store and are referred to
by their address, so that two references to one list see the same elements.  A computation on
values may change the store, and keeps its changes when it fails.

The monad `Eval` is such a computation.  It can fail with a `Fault`, which has a kind and perhaps a
message, and every module about values and expressions is written in it.  Some limits of the machine
are named here, for those places where a program can run into them (`roomLimit`, `callLimit`,
`depthLimit`).
-/

namespace BoundSql.Value

open BoundSql.Query (Node)

/-- Which side of a dictionary a view shows. -/
inductive ViewKind where
  | keys | values | items
  deriving DecidableEq, Repr, Inhabited

/-- A value. -/
inductive Val where
  | none
  | ellipsis
  | notImplemented
  | bool (b : Bool)
  | int (n : Int)
  /-- a floating point number that equals itself -/
  | float (x : Float)
  /-- what is no number although it is reckoned with; nothing but its mark tells two of them
  apart -/
  | nan (mark : Nat)
  | complex (re im : Float)
  | str (s : Text)
  | bytes (bs : List UInt8)
  | tuple (items : List Val)
  | range (start stop step : Int)
  | slice (start stop step : Val)
  | literal (fragment : String)
  | argument (value : Val)
  | splat (items : List Val)
  | sql (args : List (Node Val))
  /-- a class as a value -/
  | type (c : Class)
  /-- several classes as one, each of which occurs once -/
  | union (members : List Class)
  /-- a function that is known by name -/
  | builtin (name : String)
  /-- a method together with the value that it belongs to -/
  | method (self : Val) (name : String)
  /-- a method of a class, still to be given its value -/
  | unbound (c : Class) (name : String)
  /-- a view of the dictionary at an address -/
  | view (kind : ViewKind) (address : Nat)
  /-- something known by its class and its text only -/
  | foreign (className shown : String)
  /-- the object at an address -/
  | object (address : Nat)
  deriving Inhabited

/-- Where names are looked up, and where an expression stands. -/
structure Env where
  /-- the frames of the functions and comprehensions around the expression, the innermost first -/
  frames : List Nat
  /-- the frame of the names that all expressions share -/
  globals : Nat
  /-- what takes the place of the names that are always there -/
  builtins : Option Val := none
  /-- the names of the functions and comprehensions around the expression, as they stand in front
  of the name of a function that is made there -/
  path : String := ""
  deriving Inhabited

/-- The names of a function or comprehension that is being evaluated. -/
structure Frame where
  isFunction : Bool
  /-- the names that belong to the frame, bound or not -/
  locals : List String
  values : List (String × Val)
  /-- the values that the function has yielded -/
  yielded : Array Val := #[]
  deriving Inhabited

/-- A function of the expression language.  Default values belong to the parameters that have
one, in order. -/
structure Function where
  name : String
  parameters : List (Expr.ParameterKind × String × Option Val)
  body : Expr.Tree
  /-- the names that assignments in the body bind -/
  assigned : List String
  /-- whether the body yields values -/
  yields : Bool
  env : Env
  /-- what was put behind a dot of the function -/
  fields : List (String × Val) := []
  deriving Inhabited

/-- A comprehension under way. -/
structure Generator where
  name : String
  isDict : Bool
  element : Expr.Tree
  clauses : List Expr.Clause
  /-- the iterators of the clauses entered so far, the innermost first -/
  active : List Val
  env : Env
  /-- whether its first element was asked for -/
  started : Bool := false
  running : Bool
  deriving Inhabited

/-- A place for an element of a set. -/
inductive Slot where
  | free
  /-- an element was taken out -/
  | vacated
  | held (hash : UInt64) (v : Val)
  deriving Inhabited

/-- The element in a slot. -/
def Slot.value? : Slot → Option Val
  | held _ v => some v
  | _ => none

/-- The elements of a set, spread over slots by their hashes. -/
structure Slots where
  places : Array Slot := Array.replicate 8 .free
  /-- how many elements there are -/
  size : Nat := 0
  /-- how many slots are not free -/
  filled : Nat := 0
  /-- the slot behind the one that an element was last taken from -/
  finger : Nat := 0
  deriving Inhabited

/-- The elements of a set with their hashes, in the order of their slots. -/
def Slots.entries (t : Slots) : List (UInt64 × Val) :=
  t.places.toList.filterMap fun
    | .held h v => some (h, v)
    | _ => none

/-- The elements of a set in the order of their slots. -/
def Slots.elements (t : Slots) : List Val := t.places.toList.filterMap Slot.value?

/-- Why a computation on values failed. -/
inductive Fault where
  /-- a name that is bound to nothing -/
  | unknownName (id : String)
  /-- a name of the innermost function that is not bound yet -/
  | unsetLocal (id : String)
  /-- a name of an outer function that is not bound yet -/
  | unsetOuter (id : String)
  | wrongType
  | wrongValue
  | missingKey
  | outOfRange
  | missingAttribute
  | divisionByZero
  | overflow
  /-- a value that no memory holds -/
  | tooLarge
  /-- a recursion that goes too deep -/
  | tooDeep
  /-- an iterator that has no more elements -/
  | exhausted
  /-- a collection that changes while it is walked through -/
  | changedUnderway
  | undecodable
  | unencodable
  | unknownEncoding
  /-- a part of a query was to be changed -/
  | frozen
  /-- a text was given where the elements of a query are expected -/
  | textForElements
  /-- a value that is no part of a query was to be compiled -/
  | notCompilable (className : String)
  /-- an error of a class without a cause of its own -/
  | raised (className : String)
  deriving DecidableEq, Repr, Inhabited

namespace Fault

/-- The name of the kind of failure. -/
def kind : Fault → String
  | unknownName _ => "NameError"
  | unsetLocal _ => "UnboundLocalError"
  | unsetOuter _ => "NameError"
  | wrongType => "TypeError"
  | wrongValue => "ValueError"
  | missingKey => "KeyError"
  | outOfRange => "IndexError"
  | missingAttribute => "AttributeError"
  | divisionByZero => "ZeroDivisionError"
  | overflow => "OverflowError"
  | tooLarge => "MemoryError"
  | tooDeep => "RecursionError"
  | exhausted => "StopIteration"
  | changedUnderway => "RuntimeError"
  | undecodable => "UnicodeDecodeError"
  | unencodable => "UnicodeEncodeError"
  | unknownEncoding => "LookupError"
  | frozen => "FrozenInstanceError"
  | textForElements => "TypeError"
  | notCompilable _ => "NotImplementedError"
  | raised className => className

/-- The failure that an error of a class is. -/
def ofClassName (className : String) : Fault :=
  let plain : List Fault :=
    [wrongType, wrongValue, missingKey, outOfRange, missingAttribute, divisionByZero, overflow,
      tooLarge, tooDeep, exhausted, changedUnderway]
  (plain.find? (·.kind == className)).getD (raised className)

/-- The wording of a failure, where it has one of its own. -/
def message? : Fault → Option String
  | unknownName id => some ("name '" ++ id ++ "' is not defined")
  | unsetLocal id =>
      some ("cannot access local variable '" ++ id ++ "' where it is not associated with a value")
  | unsetOuter id =>
      some ("cannot access free variable '" ++ id
        ++ "' where it is not associated with a value in enclosing scope")
  | textForElements =>
      some "Sql expects a sequence of elements; use sql() to scan template text."
  | notCompilable className =>
      some ("No visit_" ++ className ++ " method defined in QueryCompiler")
  | _ => none

end Fault

/-- The state of an iterator. -/
inductive Iterator where
  /-- the elements of a value that cannot change -/
  | items (className : String) (rest : List Val)
  | count (next step : Int) (left : Nat)
  /-- a list from an index on -/
  | listUp (address index : Nat)
  /-- a list from below an index down -/
  | listDown (address index : Nat)
  /-- a dictionary from an index on; its size must not change -/
  | dictionary (kind : ViewKind) (address index size : Nat)
  /-- a dictionary from below an index down; its size must not change -/
  | dictionaryDown (kind : ViewKind) (address index size : Nat)
  /-- the elements of a set from a slot on; its size must not change -/
  | set (address slot size : Nat)
  | enumerate (next : Int) (source : Val)
  | zip (strict : Bool) (sources : List Val)
  | map (f : Val) (sources : List Val)
  | filter (f source : Val)
  | callUntil (f sentinel : Val)
  | generator (g : Generator)
  /-- a function that yields: its body, unless it was evaluated, the values still to come, and the
  failure that comes behind them -/
  | yielding (name : String) (body : Option (Expr.Tree × Env)) (rest : List Val)
      (failure : Option Fault)
  | finished (className : String)
  deriving Inhabited

/-- A value that can change. -/
inductive Obj where
  | list (items : Array Val)
  | dict (entries : Array (Val × Val))
  | set (frozen : Bool) (elements : Slots)
  | record (fields : List (String × Val))
  | compiled (sql params : Val)
  | iterator (it : Iterator)
  | function (f : Function)
  | frame (f : Frame)
  deriving Inhabited

/-- The objects in the order in which they were made. -/
structure Store where
  objects : Array Obj := #[]
  /-- how many values that are no numbers were made -/
  marks : Nat := 0
  /-- how many calls are under way -/
  depth : Nat := 0
  deriving Inhabited

/-- A computation on values. -/
abbrev Eval (α : Type) : Type := EStateM Fault Store α

namespace Eval

/-- Fails. -/
def fail {α : Type} (f : Fault) : Eval α := throw f

/-- Makes an object and answers with a reference to it. -/
def make (o : Obj) : Eval Val := do
  let s ← get
  set { s with objects := s.objects.push o }
  pure (.object s.objects.size)

/-- Makes a value that is no number and that differs from all others. -/
def makeNaN : Eval Val := modifyGet fun s => (.nan s.marks, { s with marks := s.marks + 1 })

/-- The object at an address. -/
def load (address : Nat) : Eval Obj := do
  match (← get).objects[address]? with
  | some o => pure o
  | none => fail .missingAttribute

/-- Puts an object at an address. -/
def save (address : Nat) (o : Obj) : Eval Unit :=
  modify fun s => { s with objects := s.objects.setIfInBounds address o }

/-- Changes the object at an address. -/
def change (address : Nat) (f : Obj → Obj) : Eval Unit :=
  modify fun s => { s with objects := s.objects.modify address f }

/-- The answer of an optional computation, or a failure. -/
def orFail {α : Type} (f : Fault) : Option α → Eval α
  | some a => pure a
  | none => fail f

def makeList (items : List Val) : Eval Val := make (.list items.toArray)

/-- The most elements that a row may be given at once.  It stands for the memory of a machine, of
which a model knows no measure: a row that is refused here would not fit in practice. -/
def roomLimit : Nat := Nat.pow 2 26

/-- Refuses to make room for more elements than a row may be given at once. -/
def room (n : Nat) : Eval Unit := if roomLimit ≤ n then fail .tooLarge else pure ()

/-- How deep calls may be nested.  It stands for what is left of a call stack of a thousand frames
when a query is made at the top of a program; behind more calls less is left. -/
def callLimit : Nat := 985

/-- Runs a computation one call further in. -/
def deeper {α : Type} (x : Eval α) : Eval α := fun s =>
  if callLimit ≤ s.depth then .error .tooDeep s
  else
    match x { s with depth := s.depth + 1 } with
    | .ok a t => .ok a { t with depth := s.depth }
    | .error f t => .error f { t with depth := s.depth }

/-- The integers that can count elements lie from minus this number up to it, itself left out. -/
def indexBound : Int := Int.pow 2 63

/-- An integer that can count elements. -/
def index (n : Int) : Eval Int :=
  if -indexBound ≤ n ∧ n < indexBound then pure n else fail .overflow

end Eval

/-- A limit on steps that no collection of a real program reaches. -/
def stepLimit : Nat := Nat.pow 10 12

/-- How deep values may be nested where they are walked through.  It stands for what is left of a
call stack of a thousand frames behind the few calls that lead to the walk; a caller that stands
deeper, or an interpreter with another limit, has less or more of it.  What is said of values that
are nested deeper than this, or less deep, is said up to that number. -/
def depthLimit : Nat := 960

/-! ## Classes of values -/

namespace Iterator

/-- The class of an iterator. -/
def className : Iterator → String
  | items name _ => name
  | count next step left =>
      let isShort (n : Int) : Bool := -Eval.indexBound ≤ n && n < Eval.indexBound
      if isShort next && isShort step && isShort (next + step * left) then "range_iterator"
      else "longrange_iterator"
  | listUp .. => "list_iterator"
  | listDown .. => "list_reverseiterator"
  | dictionary .keys .. => "dict_keyiterator"
  | dictionary .values .. => "dict_valueiterator"
  | dictionary .items .. => "dict_itemiterator"
  | dictionaryDown .keys .. => "dict_reversekeyiterator"
  | dictionaryDown .values .. => "dict_reversevalueiterator"
  | dictionaryDown .items .. => "dict_reverseitemiterator"
  | set .. => "set_iterator"
  | enumerate .. => "enumerate"
  | zip .. => "zip"
  | map .. => "map"
  | filter .. => "filter"
  | callUntil .. => "callable_iterator"
  | generator _ | yielding .. => "generator"
  | finished name => name

end Iterator

/-- The class of a dictionary view. -/
def ViewKind.className : ViewKind → String
  | keys => "dict_keys"
  | values => "dict_values"
  | items => "dict_items"

/-- The class of an object. -/
def Obj.class : Obj → Class
  | list _ => .list
  | dict _ => .dict
  | set true _ => .frozenset
  | set false _ => .set
  | record _ => .record
  | compiled .. => .compiled
  | iterator it =>
      match Class.ofName? it.className with
      | some c => c
      | none => if it.className = "generator" then .generator else .named it.className
  | function _ => .function
  | frame _ => .named "frame"

/-- The class of a value. -/
def classOf : Val → Eval Class
  | .none => pure .none
  | .ellipsis => pure .ellipsis
  | .notImplemented => pure .notImplemented
  | .bool _ => pure .bool
  | .int _ => pure .int
  | .float _ | .nan _ => pure .float
  | .complex .. => pure .complex
  | .str _ => pure .str
  | .bytes _ => pure .bytes
  | .tuple _ => pure .tuple
  | .range .. => pure .range
  | .slice .. => pure .slice
  | .literal _ => pure .literal
  | .argument _ => pure .argument
  | .splat _ => pure .splat
  | .sql _ => pure .sql
  | .type c => pure c.classOf
  | .union _ => pure (.named "UnionType")
  | .builtin _ => pure .builtin
  | .method (.object address) _ => do
      match ← Eval.load address with
      | .compiled .. => pure (.named "method")
      | _ => pure .builtin
  | .method .. => pure .builtin
  | .unbound .. => pure (.named "method_descriptor")
  | .view kind _ => pure (.named kind.className)
  | .foreign name _ => pure (.named name)
  | .object address => do pure (← Eval.load address).class

/-- The name of the class of a value. -/
def classNameOf (v : Val) : Eval String := do pure (← classOf v).name

end BoundSql.Value
