import BoundSql.Eval.Arguments
import BoundSql.Value.Operator
set_option autoImplicit false

/-!
# Methods of sets

What the methods of sets answer with, how they change the set that they belong to, and what the
operators of sets do where one side shows the keys or entries of a dictionary.  The elements of an
argument that is no set are taken one by one, and only as long as they matter.

Which of two sets is walked through decides about the order of the result, and about what has been
done when an element has no hash and the method fails.  Both are fixed here as an interpreter fixes
them.  Views of the keys of a dictionary take part in the operators of sets, with results that are
new sets.
-/

namespace BoundSql.Eval

open BoundSql.Value
open BoundSql.Expr (BinaryOp)

/-! ## Elements of arguments -/

/-- What a value gives to a set: another set, all keys of a dictionary, or elements one by one. -/
inductive ElementSource where
  | set (t : Slots)
  | keys (ks : List Val)
  | other
  deriving Inhabited

/-- What a value gives to a set. -/
def sourceOf (v : Val) : Eval ElementSource := do
  match v with
  | .object address => do
      match ← Eval.load address with
      | .set _ t => pure (.set t)
      | .dict entries => pure (.keys (entries.toList.map (·.1)))
      | _ => pure .other
  | _ => pure .other

/-- The elements of a value as those of a set. -/
def slotsOf (e : Engine) (v : Val) : Eval Slots := do
  match ← sourceOf v with
  | .set t => t.copy
  | .keys ks => (Slots.reserved {} ks.length).addAll ks
  | .other => e.fold v {} fun t w => do pure (.yield (← t.add w))

/-- Makes a set of the elements of a value. -/
def setOf (e : Engine) (frozen : Bool) (v : Val) : Eval Val := do
  Eval.make (.set frozen (← slotsOf e v))

/-! ## Changes -/

/-- The elements of the set at an address. -/
def slotsAt (address : Nat) : Eval Slots := do
  match ← Eval.load address with
  | .set _ t => pure t
  | _ => Eval.fail .wrongType

/-- Changes the elements of the set at an address. -/
def changeSet (address : Nat) (f : Slots → Eval Slots) : Eval Unit := do
  match ← Eval.load address with
  | .set frozen t => do Eval.save address (.set frozen (← f t))
  | _ => Eval.fail .wrongType

/-- Takes all elements out of the set at an address. -/
def clearSet (address : Nat) : Eval Unit :=
  changeSet address fun t => pure { finger := t.finger }

/-- Calls `f` with the elements of a value, one by one. -/
def forElements (e : Engine) (v : Val) (f : Val → Eval Unit) : Eval Unit :=
  e.fold v () fun _ w => do
    f w
    pure (.yield ())

/-- Adds the elements of a value to the set at an address. -/
def addFrom (e : Engine) (address : Nat) (v : Val) : Eval Unit := do
  if sameObject v (.object address) then pure ()
  else
    match ← sourceOf v with
    | .set u => changeSet address fun t => t.merged u
    | .keys ks => changeSet address fun t => (t.reserved ks.length).addAll ks
    | .other => forElements e v fun w => changeSet address fun t => t.add w

/-- A set without a value that has to be able to be a key. -/
def discarded (t : Slots) (v : Val) : Eval Slots := do
  pure ((← t.remove? (← hashOf v) v).getD t)

/-- Takes the elements of a value out of the set at an address. -/
def dropFrom (e : Engine) (address : Nat) (v : Val) : Eval Unit := do
  if sameObject v (.object address) then clearSet address
  else
    match ← sourceOf v with
    | .set u => changeSet address fun t => t.without u
    | _ => do
        forElements e v fun w => changeSet address fun t => discarded t w
        changeSet address fun t => pure t.compacted

/-- Adds the elements of a value to the set at an address, and takes out those that it has. -/
def toggleFrom (e : Engine) (address : Nat) (v : Val) : Eval Unit := do
  if sameObject v (.object address) then clearSet address
  else
    match ← sourceOf v with
    | .set u => changeSet address fun t => t.toggled u.entries
    | .keys ks => do
        let es ← ks.mapM fun k => do pure (← hashOf k, k)
        changeSet address fun t => t.toggled es
    | .other => do
        let u ← slotsOf e v
        changeSet address fun t => t.toggled u.entries

/-! ## Questions and new sets -/

/-- The elements of a set that are also elements of a value. -/
def sharedWith (e : Engine) (t : Slots) (v : Val) : Eval Slots := do
  match ← sourceOf v with
  | .set u => t.intersection u
  | _ =>
      e.fold v {} fun acc w => do
        let hash ← hashOf w
        if ← t.holds hash w then pure (.yield (← acc.addHashed hash w)) else pure (.yield acc)

/-- The elements that the set at an address shares with each of several values. -/
def sharedWithAll (e : Engine) (address : Nat) (vs : List Val) : Eval Slots := do
  let t ← slotsAt address
  match vs with
  | [] => t.copy
  | v :: vs => do
      let first ← if sameObject v (.object address) then t.copy else sharedWith e t v
      vs.foldlM (sharedWith e) first

/-- Whether all elements of the set at an address are elements of a value. -/
def isSubset (e : Engine) (t : Slots) (v : Val) : Eval Bool := do
  match ← sourceOf v with
  | .set u => t.isWithin u
  | _ => do pure ((← sharedWith e t v).size == t.size)

/-- Whether all elements of a value pass a test; the first one that fails it ends the search. -/
def allOf (e : Engine) (v : Val) (p : Val → Eval Bool) : Eval Bool :=
  e.fold v true fun _ w => do
    if ← p w then pure (.yield true) else pure (.done false)

/-- Whether all elements of a value are elements of a set. -/
def isSuperset (e : Engine) (t : Slots) (v : Val) : Eval Bool := do
  match ← sourceOf v with
  | .set u => u.isWithin t
  | _ => allOf e v fun w => do t.holds (← hashOf w) w

/-- Whether no element of a value is an element of a set. -/
def isDisjoint (e : Engine) (t : Slots) (v : Val) : Eval Bool := do
  match ← sourceOf v with
  | .set u => do pure ((← t.intersection u).size == 0)
  | _ => allOf e v fun w => do pure !(← t.holds (← hashOf w) w)

/-- Whether the keys or entries of a dictionary have nothing in common with a value. -/
def viewIsDisjoint (e : Engine) (kind : ViewKind) (address : Nat) (v : Val) : Eval Bool := do
  let view := Val.view kind address
  let shorter ← match ← setLike? v with
    | some s => do pure (decide ((← viewElements kind address).length < s.elements.length))
    | none => pure false
  let (whole, part) := if shorter then (v, view) else (view, v)
  allOf e part fun w => do pure !(← e.contains whole w)

/-! ## Methods -/

/-- Arguments that are given by position alone. -/
def byPosition (args : List Val) (keywords : Keywords) : Eval (List Val) :=
  if keywords.isEmpty then pure args else Eval.fail .wrongType

/-- A new set that starts out as a copy of the one at an address, and is changed then. -/
def changedCopy (frozen : Bool) (address : Nat) (change : Nat → Eval Unit) : Eval Val := do
  let copy ← Eval.make (.set frozen (← (← slotsAt address).copy))
  match copy with
  | .object a => do
      change a
      pure copy
  | _ => pure copy

/-- A set without the elements of other values; the first of them decides how it is made. -/
def differenceOf (e : Engine) (frozen : Bool) (address : Nat) (vs : List Val) : Eval Val := do
  match vs with
  | [] => changedCopy frozen address fun _ => pure ()
  | v :: vs => do
      let t ← slotsAt address
      let first ← match ← sourceOf v with
        | .set u => do Eval.make (.set frozen (← t.difference u))
        | .keys _ => do Eval.make (.set frozen (← t.difference (← slotsOf e v)))
        | .other => changedCopy frozen address fun a => dropFrom e a v
      match first with
      | .object a => vs.forM (dropFrom e a)
      | _ => pure ()
      pure first

/-- A method of a set that leaves the set as it is. -/
def setMethod (e : Engine) (frozen : Bool) (address : Nat) (name : String) (args : List Val)
    (keywords : Keywords) : Eval Val := do
  let self := Val.object address
  match name with
  | "copy" => do
      nothing args keywords
      if frozen then pure self else changedCopy frozen address fun _ => pure ()
  | "union" => do
      let vs := (← byPosition args keywords).filter fun v => !sameObject v self
      changedCopy frozen address fun a => vs.forM (addFrom e a)
  | "intersection" => do
      let vs ← byPosition args keywords
      Eval.make (.set frozen (← sharedWithAll e address vs))
  | "difference" => do differenceOf e frozen address (← byPosition args keywords)
  | "symmetric_difference" => do
      let result ← setOf e frozen (← single args keywords)
      match result with
      | .object a => toggleFrom e a self
      | _ => pure ()
      pure result
  | "issubset" => do
      let v ← single args keywords
      pure (.bool (← isSubset e (← slotsAt address) v))
  | "issuperset" => do
      let v ← single args keywords
      pure (.bool (← isSuperset e (← slotsAt address) v))
  | "isdisjoint" => do
      let v ← single args keywords
      pure (.bool (← isDisjoint e (← slotsAt address) v))
  | _ => Eval.fail .missingAttribute

/-- A method of a set that may change it. -/
def mutableSetMethod (e : Engine) (address : Nat) (name : String) (args : List Val)
    (keywords : Keywords) : Eval Val := do
  match name with
  | "add" => do
      let v ← single args keywords
      changeSet address fun t => t.add v
      pure .none
  | "discard" | "remove" => do
      let v ← single args keywords
      let t ← slotsAt address
      match ← t.remove? (← searchHash v) v with
      | some rest => do
          changeSet address fun _ => pure rest
          pure .none
      | none => if name = "remove" then Eval.fail .missingKey else pure .none
  | "pop" => do
      nothing args keywords
      match (← slotsAt address).pop? with
      | some (v, rest) => do
          changeSet address fun _ => pure rest
          pure v
      | none => Eval.fail .missingKey
  | "clear" => do
      nothing args keywords
      clearSet address
      pure .none
  | "update" => do
      (← byPosition args keywords).forM (addFrom e address)
      pure .none
  | "intersection_update" => do
      let shared ← sharedWithAll e address (← byPosition args keywords)
      changeSet address fun t => pure { shared with finger := t.finger }
      pure .none
  | "difference_update" => do
      (← byPosition args keywords).forM (dropFrom e address)
      pure .none
  | "symmetric_difference_update" => do
      toggleFrom e address (← single args keywords)
      pure .none
  | name => setMethod e false address name args keywords

/-! ## Operators on views -/

/-- Whether a value is a view that has the operators of sets. -/
def isSetView : Val → Bool
  | .view kind _ => kind != .values
  | _ => false

/-- The number of elements of a value that is a set. -/
def setSize? (v : Val) : Eval (Option Nat) := do
  match ← asSet? v with
  | some (false, t) => pure (some t.size)
  | _ => pure none

/-- The elements that a view and another value have in common. -/
def viewIntersection (e : Engine) (view v : Val) : Eval Val := do
  let size := ((← size? view).getD 0)
  let atLeast (n : Option Nat) : Bool := n.any fun n => decide (size ≤ n)
  match v with
  | .object address =>
      if atLeast (← setSize? v) then
        return ← setMethod e false address "intersection" [view] []
  | _ => pure ()
  let longer := isSetView v && decide (size < ((← size? v).getD 0))
  let (whole, part) := if longer then (v, view) else (view, v)
  let t ← e.fold part ({} : Slots) fun t w => do
    if ← e.contains whole w then pure (.yield (← t.add w)) else pure (.yield t)
  Eval.make (.set false t)

/-- The entries that exactly one of two dictionaries has. -/
def entriesDifference (a b : Nat) : Eval Val := do
  let entriesAt (address : Nat) : Eval Entries := do
    pure ((← asEntries? (.object address)).getD #[])
  let es ← entriesAt a
  let fs ← entriesAt b
  let step (acc : Entries × Slots) (f : Val × Val) : Eval (Entries × Slots) := do
    let found ← match ← lookupEntry acc.1 f.1 with
      | some (i, v) => do pure (if ← sameElement v f.2 then some i else none)
      | none => pure none
    match found with
    | some i => pure (eraseAt acc.1 i, acc.2)
    | none => do pure (acc.1, ← acc.2.add (.tuple [f.1, f.2]))
  let (left, t) ← fs.toList.foldlM step (es, {})
  Eval.make (.set false (← t.addAll (left.toList.map fun p => .tuple [p.1, p.2])))

/-- An operator of sets where one side is a view. -/
def viewOp (e : Engine) (op : BinaryOp) (v w : Val) : Eval Val := do
  let changed (change : Nat → Eval Unit) : Eval Val := do
    let dict : Val := match v with
      | .view .keys address => .object address
      | v => v
    let result ← setOf e false dict
    match result with
    | .object a => change a
    | _ => pure ()
    pure result
  match op, v, w with
  | .bitAnd, v, w => if isSetView v then viewIntersection e v w else viewIntersection e w v
  | .bitOr, _, w => changed fun a => addFrom e a w
  | .sub, _, w => changed fun a => dropFrom e a w
  | .bitXor, .view .items a, .view .items b => entriesDifference a b
  | .bitXor, _, w => changed fun a => toggleFrom e a w
  | _, _, _ => Eval.fail .wrongType

/-- An operation on two values of any kind. -/
def binaryValue (e : Engine) (op : BinaryOp) (v w : Val) : Eval Val :=
  if (isSetView v || isSetView w) && [.bitAnd, .bitOr, .bitXor, .sub].contains op then
    viewOp e op v w
  else applyBinary op v w

theorem sharedWithAll_nil (e : Engine) (address : Nat) :
    sharedWithAll e address [] = (do (← slotsAt address).copy) := rfl

end BoundSql.Eval
