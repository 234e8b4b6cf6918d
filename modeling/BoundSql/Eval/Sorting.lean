import BoundSql.Eval.Engine
set_option autoImplicit false

/-!
# Sorting

Stable sorting by keys, with an order that may fail.  Runs that are in order already are found,
short ones are made longer by insertion, and then they are merged.

Comparing two elements is an evaluation and can fail, so sorting is written in the monad of
evaluation and asks exactly the questions that it needs, in a fixed order: which comparison is the
first to fail decides about the error that comes out.  Keys are computed first, once for each
element.  With a reversed order equal elements keep their places as well.
-/

namespace BoundSql.Eval

open BoundSql.Value

/-- An element with the key that it is sorted by. -/
structure Keyed where
  key : Val
  value : Val
  deriving Inhabited

/-- Whether an element comes before another one. -/
def Keyed.precedes (x y : Keyed) : Eval Bool := ordered .lt x.key y.key

/-! ## Runs -/

/-- The longest run at the beginning of a list, in order, and what is left: elements none of which
precedes the one in front of it, or else elements each of which precedes the one in front of it. -/
def firstRun : List Keyed → Eval (List Keyed × List Keyed)
  | x :: y :: rest => do
      if ← y.precedes x then falling [y, x] y rest else rising [y, x] y rest
  | xs => pure (xs, [])
where
  /-- Goes on with a run that falls; `run` holds it from its end. -/
  falling (run : List Keyed) (last : Keyed) : List Keyed → Eval (List Keyed × List Keyed)
    | [] => pure (run, [])
    | x :: rest => do
        if ← x.precedes last then falling (x :: run) x rest else pure (run, x :: rest)
  /-- Goes on with a run that does not fall; `run` holds it from its end. -/
  rising (run : List Keyed) (last : Keyed) : List Keyed → Eval (List Keyed × List Keyed)
    | [] => pure (run.reverse, [])
    | x :: rest => do
        if ← x.precedes last then pure (run.reverse, x :: rest) else rising (x :: run) x rest

/-- The place of an element in a sorted row, behind those that it does not precede: the place lies
from `low` up to `high`, and each step halves what lies between. -/
def insertionPlace (x : Keyed) (row : Array Keyed) : (fuel low high : Nat) → Eval Nat
  | 0, low, _ => pure low
  | fuel + 1, low, high => do
      if low < high then
        let middle := low + (high - low) / 2
        if ← x.precedes (row[middle]?.getD x) then insertionPlace x row fuel low middle
        else insertionPlace x row fuel (middle + 1) high
      else pure low

/-- A sorted row with more elements put into their places one by one. -/
def insertAll (row : Array Keyed) : List Keyed → Eval (Array Keyed)
  | [] => pure row
  | x :: rest => do
      let i ← insertionPlace x row (row.size + 1) 0 row.size
      insertAll (row.insertIdxIfInBounds i x) rest

/-- The least length of a run in a list of the given length: the list itself if it is short, and
otherwise at least 32 and at most 64 elements. -/
def leastRun (n : Nat) : Nat := go 64 n 0
where
  /-- Halves the number until it is small; `odd` is one if a half was not exact. -/
  go : (fuel n odd : Nat) → Nat
    | 0, n, odd => n + odd
    | fuel + 1, n, odd => if n < 64 then n + odd else go fuel (n / 2) (max odd (n % 2))

/-- The sorted runs of a list, each of them made as long as `least` if there are elements left;
`fuel` bounds the number of runs. -/
def sortedRuns (least : Nat) : (fuel : Nat) → List Keyed → Eval (List (List Keyed))
  | 0, _ | _, [] => pure []
  | fuel + 1, xs => do
      let (run, rest) ← firstRun xs
      let missing := least - run.length
      let whole ← insertAll run.toArray (rest.take missing)
      pure (whole.toList :: (← sortedRuns least fuel (rest.drop missing)))

/-! ## Merging -/

/-- Merges two sorted lists; of two elements that are equal in order the left one comes first. -/
def mergeKeyed : (fuel : Nat) → List Keyed → List Keyed → Eval (List Keyed)
  | 0, xs, ys => pure (xs ++ ys)
  | fuel + 1, xs, ys => do
      match xs, ys with
      | [], ys => pure ys
      | xs, [] => pure xs
      | x :: xs, y :: ys => do
          if ← y.precedes x then pure (y :: (← mergeKeyed fuel (x :: xs) ys))
          else pure (x :: (← mergeKeyed fuel xs (y :: ys)))

/-- Merges neighbours until one list is left; `fuel` bounds the number of rounds. -/
def mergeRuns : (fuel : Nat) → List (List Keyed) → Eval (List Keyed)
  | 0, runs => pure runs.flatten
  | fuel + 1, runs => do
      match runs with
      | [] => pure []
      | [run] => pure run
      | runs => do mergeRuns fuel (← round runs)
where
  /-- Merges every second run with the one behind it. -/
  round : List (List Keyed) → Eval (List (List Keyed))
    | a :: b :: rest => do
        let merged ← mergeKeyed (a.length + b.length) a b
        pure (merged :: (← round rest))
    | runs => pure runs

/-- Sorts by keys.  There are no more rounds of merging than there are runs. -/
def sortKeyed (xs : List Keyed) : Eval (List Keyed) := do
  let runs ← sortedRuns (leastRun xs.length) xs.length xs
  mergeRuns runs.length runs

/-! ## Sorting values -/

/-- The key of an element. -/
def keyOf (e : Engine) (key v : Val) : Eval Val :=
  match key with
  | .none => pure v
  | f => e.call f [v] []

/-- Values sorted by their keys.  In reverse, too, elements with equal keys keep their order. -/
def sortValues (e : Engine) (key : Val) (descending : Bool) (vs : List Val) : Eval (List Val) := do
  let keyed ← vs.mapM fun v => do pure (Keyed.mk (← keyOf e key v) v)
  let arranged := if descending then keyed.reverse else keyed
  let sorted ← sortKeyed arranged
  let values := sorted.map (·.value)
  pure (if descending then values.reverse else values)

end BoundSql.Eval
