import BoundSql.Value.Compare
set_option autoImplicit false

/-!
# The elements of sets

A set keeps its elements in slots, the number of which is a power of two.  The hash of an element
says where the search for its slot begins; from a slot that is taken the search goes on to the
slots near by, and then to one that all of the hash has a say in.  The order of the slots is the
order in which the elements are shown.

A set grows when it becomes crowded and takes up its elements again in a new order, and removing an
element leaves a mark in its slot.  Operations on two sets add and drop elements in a fixed order,
since that decides in which slots they end up.  All of this is visible to whoever shows a set, and
to nobody else.
-/

namespace BoundSql.Value

namespace Slots

/-- The number of slots. -/
def capacity (t : Slots) : Nat := t.places.size

/-- Where an element is, or where it would go. -/
inductive Place where
  | held (i : Nat)
  | free (i : Nat)
  deriving DecidableEq, Repr, Inhabited

/-- How many slots behind a slot are looked at before the search goes elsewhere. -/
def nearby : Nat := 9

variable {m : Type → Type}

/-- Searches `count` slots from `i` on for a free one, or for an element that passes a test. -/
def searchNear [Monad m] (t : Slots) (test : UInt64 → Val → m Bool) :
    (count i : Nat) → m (Option Place)
  | 0, _ => pure none
  | count + 1, i =>
      match t.places[i]?.getD .free with
      | .free => pure (some (.free i))
      | .vacated => t.searchNear test count (i + 1)
      | .held h v => do
          if ← test h v then pure (some (.held i)) else t.searchNear test count (i + 1)

/-- Searches the slots for a free one, or for an element that passes a test; `fuel` bounds the
number of places where the search begins anew. -/
def search [Monad m] (t : Slots) (test : UInt64 → Val → m Bool) :
    (fuel base rest : Nat) → m Place
  | 0, base, _ => pure (.free base)
  | fuel + 1, base, rest => do
      let count := if base + nearby < t.capacity then nearby + 1 else 1
      match ← t.searchNear test count base with
      | some p => pure p
      | none =>
          let rest := rest / 32
          t.search test fuel ((base * 5 + 1 + rest) % t.capacity) rest

/-- Searches the slots for a hash. -/
def searchFrom [Monad m] (t : Slots) (hash : UInt64) (test : UInt64 → Val → m Bool) : m Place :=
  t.search test (t.capacity + 16) (hash.toNat % t.capacity) hash.toNat

/-- Finds a value with a hash. -/
def locate (t : Slots) (hash : UInt64) (v : Val) : Eval Place :=
  t.searchFrom hash fun h w => if h == hash then sameElement w v else pure false

/-- Whether a value with a hash is an element. -/
def holds (t : Slots) (hash : UInt64) (v : Val) : Eval Bool := do
  match ← t.locate hash v with
  | .held _ => pure true
  | .free _ => pure false

/-! ## Adding and taking out -/

/-- Puts an element into a free slot. -/
def putAt (t : Slots) (i : Nat) (hash : UInt64) (v : Val) : Slots :=
  { t with places := t.places.setIfInBounds i (.held hash v), size := t.size + 1,
           filled := t.filled + 1 }

/-- Adds a value that is no element yet, and leaves the number of slots as it is. -/
def put (t : Slots) (hash : UInt64) (v : Val) : Slots :=
  match t.searchFrom (m := Id) hash fun _ _ => false with
  | .held i | .free i => t.putAt i hash v

/-- The least number of slots above a number. -/
def capacityAbove (n : Nat) : Nat := max 8 (Nat.pow 2 (n.log2 + 1))

/-- No elements in a number of slots. -/
def ofCapacity (n : Nat) : Slots := { places := Array.replicate n .free }

/-- The same elements in more than `n` slots, none of which is vacated. -/
def resized (t : Slots) (n : Nat) : Slots :=
  t.entries.foldl (fun u e => u.put e.1 e.2) (ofCapacity (capacityAbove n))

/-- Three of five slots may be in use, and `more` besides. -/
def isCrowded (t : Slots) (more : Nat) : Bool := (t.capacity - 1) * 3 ≤ (t.filled + more) * 5

/-- Makes room for the next element. -/
def grown (t : Slots) : Slots :=
  if t.isCrowded 0 then t.resized (if 50000 < t.size then t.size * 2 else t.size * 4) else t

/-- Makes room for a number of elements at once. -/
def reserved (t : Slots) (more : Nat) : Slots :=
  if t.isCrowded more then t.resized ((t.size + more) * 2) else t

/-- Adds a value with a hash. -/
def addHashed (t : Slots) (hash : UInt64) (v : Val) : Eval Slots := do
  match ← t.locate hash v with
  | .held _ => pure t
  | .free i => pure (t.putAt i hash v).grown

/-- Adds a value. -/
def add (t : Slots) (v : Val) : Eval Slots := do t.addHashed (← hashOf v) v

/-- Adds values one by one. -/
def addAll (t : Slots) (vs : List Val) : Eval Slots := vs.foldlM add t

/-- Adds elements with hashes one by one. -/
def addEntries (t : Slots) (es : List (UInt64 × Val)) : Eval Slots :=
  es.foldlM (fun u e => u.addHashed e.1 e.2) t

/-- Takes out a value with a hash; the answer is nothing if it is no element. -/
def remove? (t : Slots) (hash : UInt64) (v : Val) : Eval (Option Slots) := do
  match ← t.locate hash v with
  | .held i =>
      pure (some { t with places := t.places.setIfInBounds i .vacated, size := t.size - 1 })
  | .free _ => pure none

/-- The first slot with an element among `count` slots from `i` on, around the end if need be. -/
def heldFrom (t : Slots) : (count i : Nat) → Option (Nat × Val)
  | 0, _ => none
  | count + 1, i =>
      match t.places[i % t.capacity]? with
      | some (.held _ v) => some (i % t.capacity, v)
      | _ => t.heldFrom count (i + 1)

/-- Takes out the next element from the finger on. -/
def pop? (t : Slots) : Option (Val × Slots) :=
  (t.heldFrom t.capacity t.finger).map fun r =>
    (r.2, { t with places := t.places.setIfInBounds r.1 .vacated, size := t.size - 1,
                   finger := r.1 + 1 })

/-! ## Operations on sets -/

/-- The elements of two sets. -/
def merged (t u : Slots) : Eval Slots := do
  if u.size = 0 then pure t
  else
    let t := t.reserved u.size
    if t.filled = 0 then
      if t.capacity = u.capacity ∧ u.filled = u.size then pure { u with finger := t.finger }
      else pure (u.entries.foldl (fun t e => t.put e.1 e.2) t)
    else t.addEntries u.entries

/-- The same elements, as a set of its own has them. -/
def copy (t : Slots) : Eval Slots := merged {} t

/-- The elements that two sets have in common, in the order of the smaller one. -/
def intersection (t u : Slots) : Eval Slots := do
  let (few, many) := if t.size < u.size then (t, u) else (u, t)
  few.entries.foldlM (fun acc e => do
    if ← many.holds e.1 e.2 then acc.addHashed e.1 e.2 else pure acc) {}

/-- The same elements, without vacated slots if more than a quarter of the slots are vacated. -/
def compacted (t : Slots) : Slots :=
  if (t.capacity - 1) / 4 < t.filled - t.size then
    t.resized (if 50000 < t.size then t.size * 2 else t.size * 4)
  else t

/-- The elements of a set without those of another one. -/
def without (t u : Slots) : Eval Slots := do
  let rest ← u.entries.foldlM (fun acc e => do
    pure ((← acc.remove? e.1 e.2).getD acc)) t
  pure rest.compacted

/-- The elements of the first set that the second one has not. -/
def difference (t u : Slots) : Eval Slots := do
  if u.size < t.size / 4 then (← t.copy).without u
  else
    t.entries.foldlM (fun acc e => do
      if ← u.holds e.1 e.2 then pure acc else acc.addHashed e.1 e.2) {}

/-- A set with every given element added or, if it is there, taken out. -/
def toggled (t : Slots) (es : List (UInt64 × Val)) : Eval Slots :=
  es.foldlM (fun acc e => do
    match ← acc.remove? e.1 e.2 with
    | some rest => pure rest
    | none => acc.addHashed e.1 e.2) t

/-- Whether the elements of the first set are all in the second one. -/
def isWithin (t u : Slots) : Eval Bool := do
  if u.size < t.size then pure false
  else t.entries.allM fun e => u.holds e.1 e.2

theorem elements_putAt_size (t : Slots) (i : Nat) (hash : UInt64) (v : Val) :
    (t.putAt i hash v).capacity = t.capacity := by
  simp [putAt, capacity]

end Slots

/-- Elements as a set. -/
def makeSet (frozen : Bool) (vs : List Val) : Eval Val := do
  Eval.make (.set frozen (← Slots.addAll {} vs))

end BoundSql.Value
