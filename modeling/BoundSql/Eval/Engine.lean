import BoundSql.Value.Collection
set_option autoImplicit false

/-!
# Levels of evaluation

Evaluating an expression, calling a function and asking an iterator for its next element need one
another.  Each of them is written against an engine that does the three one level further down;
the lowest level refuses everything.

That breaks the recursion: no function of the evaluator calls itself through another one, and the
recursion over levels is one definition on top of all of them.  Running out of levels is a failure
like any other one and can be reached by an expression.  The rest of the module walks through values
with an engine (`iterate`, `fold`, `elements`), for whoever needs all elements of a value and not an
iterator.
-/

namespace BoundSql.Eval

open BoundSql.Value
open BoundSql.Expr (Tree)

/-- Keyword arguments in the order in which they were given. -/
abbrev Keywords : Type := List (String × Val)

/-- What an evaluation may use of the level below. -/
structure Engine where
  eval : Env → Tree → Eval Val
  call : Val → List Val → Keywords → Eval Val
  /-- the next element of the iterator at an address -/
  next : Nat → Eval (Option Val)
  deriving Inhabited

/-- The engine that refuses everything. -/
def Engine.exhausted : Engine where
  eval _ _ := Eval.fail .tooDeep
  call _ _ _ := Eval.fail .tooDeep
  next _ := Eval.fail .tooDeep

/-! ## Walking through values -/

/-- The elements of a value that cannot change while it is walked through, with the class of its
iterator. -/
def fixedElements : Val → Option (String × List Val)
  | .str s =>
      let name := if s.all (·.code < 128) then "str_ascii_iterator" else "str_iterator"
      some (name, s.map fun c => .str [c])
  | .bytes bs => some ("bytes_iterator", bs.map fun b => .int b.toNat)
  | .tuple items => some ("tuple_iterator", items)
  | _ => none

/-- An iterator over a value. -/
def iterate (v : Val) : Eval Val := do
  match fixedElements v with
  | some (className, items) => Eval.make (.iterator (.items className items))
  | none =>
      match v with
      | .range start stop step =>
          Eval.make (.iterator (.count start step (rangeLength start stop step)))
      | .view kind address => do
          let size := (← Eval.load address).size?.getD 0
          Eval.make (.iterator (.dictionary kind address 0 size))
      | .object address => do
          match ← Eval.load address with
          | .list _ => Eval.make (.iterator (.listUp address 0))
          | .dict entries => Eval.make (.iterator (.dictionary .keys address 0 entries.size))
          | .set _ items => Eval.make (.iterator (.set address 0 items.size))
          | .compiled sql params => Eval.make (.iterator (.items "generator" [sql, params]))
          | .iterator _ => pure v
          | _ => Eval.fail .wrongType
      | _ => Eval.fail .wrongType

/-- Folds over the elements that `next` yields until there are no more, or until `f` is done; at
most `fuel` elements are taken. -/
def foldNext {σ : Type} (next : Eval (Option Val)) (f : σ → Val → Eval (ForInStep σ)) :
    (fuel : Nat) → σ → Eval σ
  | 0, s => pure s
  | fuel + 1, s => do
      match ← next with
      | none => pure s
      | some v =>
          match ← f s v with
          | .yield s => foldNext next f fuel s
          | .done s => pure s

/-- What a failure inside a generator is outside of it: one that runs out of elements does not end
the generator as if it were done. -/
def afterFailure : Fault → Fault
  | .exhausted => .changedUnderway
  | fault => fault

/-- The address of an iterator. -/
def iteratorAddress (v : Val) : Eval Nat := do
  match v with
  | .object address => do
      match ← Eval.load address with
      | .iterator _ => pure address
      | _ => Eval.fail .wrongType
  | _ => Eval.fail .wrongType

namespace Engine

/-- The next element of an iterator. -/
def nextOf (e : Engine) (iterator : Val) : Eval (Option Val) := do
  e.next (← iteratorAddress iterator)

/-- Folds over the elements of a value. -/
def fold {σ : Type} (e : Engine) (v : Val) (s : σ) (f : σ → Val → Eval (ForInStep σ)) :
    Eval σ := do
  let it ← iterate v
  foldNext (e.nextOf it) f stepLimit s

/-- The elements of a value. -/
def elements (e : Engine) (v : Val) : Eval (List Val) := do
  match fixedElements v with
  | some (_, items) => pure items
  | none => do
      match v with
      | .range start stop step => Eval.room (← Eval.index (rangeLength start stop step)).toNat
      | _ => pure ()
      let items ← e.fold v #[] fun acc v => pure (.yield (acc.push v))
      pure items.toList

/-- Whether a value is an element of another one, which may be an iterator. -/
def contains (e : Engine) (whole v : Val) : Eval Bool := do
  match ← contains? whole v with
  | some b => pure b
  | none =>
      e.fold whole false fun _ w => do
        if ← sameElement w v then pure (.done true) else pure (.yield false)

end Engine

end BoundSql.Eval
