import BoundSql.Value.Slots
set_option autoImplicit false

/-!
# Collections

Looking up, adding and removing entries, and reading elements and slices by index.  A dictionary
keeps its entries in the order in which their keys first came in; a new value for a key stays at
the place of the old one.

Keys and elements are compared by the language's own comparison, which may be slow or may fail, so
these functions are computations.  Indexes count from the end if they are negative, and slices never
fail for being out of range.  What an index has to be, an integer or a slice, is checked here for
all rows alike.
-/

namespace BoundSql.Value

/-! ## Entries and elements -/

abbrev Entries : Type := Array (Val × Val)

/-- The entry of a key, with its index. -/
def lookupEntry (entries : Entries) (key : Val) : Eval (Option (Nat × Val)) := do
  requireKey key
  findKey key (sameElement key) entries

/-- The entries with a value for a key. -/
def insertEntry (entries : Entries) (key value : Val) : Eval Entries := do
  match ← lookupEntry entries key with
  | some (i, _) => pure (entries.modify i fun e => (e.1, value))
  | none => pure (entries.push (key, value))

/-- The entries with values for several keys. -/
def insertEntries (entries : Entries) (more : List (Val × Val)) : Eval Entries :=
  more.foldlM (fun acc e => insertEntry acc e.1 e.2) entries

/-- The entries without the one at an index. -/
def eraseAt {α : Type} (items : Array α) (i : Nat) : Array α := items.eraseIdxIfInBounds i

/-- Whether a value is an element. -/
def isElement (items : List Val) (v : Val) : Eval Bool := anyElement (sameElement v) items

/-- The index of the first element that equals a value, counted from `i` on. -/
def findElement (v : Val) (i : Nat) : List Val → Eval (Option Nat)
  | [] => pure none
  | w :: ws => do if ← sameElement w v then pure (some i) else findElement v (i + 1) ws

/-- How often a value occurs. -/
def countElement (v : Val) : List Val → Eval Nat
  | [] => pure 0
  | w :: ws => do
      let found ← sameElement w v
      let n ← countElement v ws
      pure (if found then n + 1 else n)

/-! ## Indexes and slices -/

/-- The place that an index means in a row of the given length; an index below zero counts from
the end. -/
def place? (length : Nat) (index : Int) : Option Nat :=
  let i := if index < 0 then index + length else index
  if 0 ≤ i ∧ i < length then some i.toNat else none

/-- A bound of a slice, moved into a row: `low` and `high` are the ends of the row in the
direction of the slice. -/
def clampBound (length : Nat) (low high : Int) (index : Int) : Int :=
  let i := if index < 0 then index + length else index
  if i < low then low else if high < i then high else i

/-- The start, the stop and the step of a slice of a row. -/
def sliceBounds (length : Nat) (start stop step : Option Int) : Eval (Int × Int × Int) :=
  let step := step.getD 1
  if step = 0 then Eval.fail .wrongValue
  else
    let low : Int := if step < 0 then -1 else 0
    let high : Int := if step < 0 then (length : Int) - 1 else length
    let clamp := clampBound length low high
    let first := match start with
      | some i => clamp i
      | none => if step < 0 then high else low
    let last := match stop with
      | some i => clamp i
      | none => if step < 0 then low else high
    pure (first, last, step)

/-- A bound of a slice as it was written. -/
def sliceBound : Val → Eval (Option Int)
  | .none => pure none
  | v => do pure (some (← Eval.orFail .wrongType (asInt? v)))

/-- The start, the stop and the step that a slice has in a row of the given length.  The step is
read first, and the start before the stop. -/
def sliceOf (length : Nat) (start stop step : Val) : Eval (Int × Int × Int) := do
  let step ← sliceBound step
  if step = some 0 then Eval.fail .wrongValue
  let start ← sliceBound start
  let stop ← sliceBound stop
  sliceBounds length start stop step

/-- The places of a slice in order. -/
def slicePlaces (start stop step : Int) : List Nat :=
  (List.range (rangeLength start stop step)).map fun i => (rangeAt start step i).toNat

/-- The elements of a list at the places of a slice. -/
def takePlaces {α : Type} (items : Array α) (places : List Nat) : List α :=
  places.filterMap (items[·]?)

/-- Reads a row by an index or a slice.  `one` makes the answer for a single element and `many`
that for a slice. -/
def readRow {α : Type} (items : List α) (index : Val) (one : α → Val) (many : List α → Eval Val) :
    Eval Val := do
  match index with
  | .slice start stop step => do
      let (start, stop, step) ← sliceOf items.length start stop step
      many (takePlaces items.toArray (slicePlaces start stop step))
  | index => do
      let i ← Eval.orFail .wrongType (asInt? index)
      match (place? items.length i).bind (items[·]?) with
      | some a => pure (one a)
      | none => Eval.fail .outOfRange

/-- Reads a value by an index, a slice or a key. -/
def readItem (v index : Val) : Eval Val := do
  match v with
  | .str s => readRow s index (fun c => .str [c]) (fun cs => pure (.str cs))
  | .bytes bs => readRow bs index (fun b => .int b.toNat) (fun bs => pure (.bytes bs))
  | .tuple items => readRow items index id (fun vs => pure (.tuple vs))
  | .range start stop step =>
      let length := rangeLength start stop step
      match index with
      | .slice first last stride => do
          let (first, last, stride) ← sliceOf length first last stride
          pure (.range (start + step * first) (start + step * last) (step * stride))
      | index => do
          let i ← Eval.orFail .wrongType (asInt? index)
          match place? length i with
          | some i => pure (.int (rangeAt start step i))
          | none => Eval.fail .outOfRange
  | .object address => do
      match ← Eval.load address with
      | .list items => readRow items.toList index id Eval.makeList
      | .dict entries => do
          match ← lookupEntry entries index with
          | some (_, v) => pure v
          | none => Eval.fail .missingKey
      | _ => Eval.fail .wrongType
  | _ => Eval.fail .wrongType

/-! ## Texts -/

/-- Whether one list stands inside another. -/
def occursIn {α : Type} [BEq α] (part : List α) : List α → Bool
  | [] => part.isEmpty
  | a :: as => part.isPrefixOf (a :: as) || occursIn part as

/-- The integer that a floating point number is equal to. -/
def wholeNumber? (x : Float) : Option Int :=
  if Decimal.isInteger x then Decimal.truncated? x else none

/-- The place of a value in a range, where only numbers stand. -/
def placeInRange? (start stop step : Int) (v : Val) : Option Int := do
  let n ← match ← asNumber? v with
    | .int n => some n
    | .float x => wholeNumber? x
    | .complex re im => if im == 0 then wholeNumber? re else none
  let place := (n - start) / step
  if (n - start) % step = 0 ∧ 0 ≤ place ∧ place < rangeLength start stop step then some place
  else none

/-- Membership in a value that is no iterator.  The answer is nothing for a value that has to be
walked through. -/
def contains? (whole v : Val) : Eval (Option Bool) := do
  match whole with
  | .str s =>
      match v with
      | .str t => pure (some (occursIn t s))
      | _ => Eval.fail .wrongType
  | .bytes bs =>
      match v with
      | .bytes part => pure (some (occursIn part bs))
      | v => do
          let n ← Eval.orFail .wrongType (asInt? v)
          if 0 ≤ n ∧ n < 256 then pure (some (bs.any fun b => (b.toNat : Int) == n))
          else Eval.fail .wrongValue
  | .tuple items => do pure (some (← isElement items v))
  | .range start stop step =>
      pure (some (placeInRange? start stop step v).isSome)
  | .view kind address => do
      pure (some (← viewHolds kind (← viewElements kind address) v))
  | .object address => do
      match ← Eval.load address with
      | .list items => do pure (some (← isElement items.toList v))
      | .dict entries => do pure (some (← lookupEntry entries v).isSome)
      | .set _ t => do pure (some (← t.holds (← searchHash v) v))
      | _ => pure none
  | _ => pure none

theorem place?_lt {length : Nat} {index : Int} {i : Nat} (h : place? length index = some i) :
    i < length := by
  simp only [place?] at h
  split at h <;> split at h
  all_goals first
    | (simp only [Option.some.injEq] at h; omega)
    | simp at h

end BoundSql.Value
