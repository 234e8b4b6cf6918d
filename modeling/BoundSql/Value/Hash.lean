import BoundSql.Value.Number
set_option autoImplicit false

/-!
# Hashes

The words by which values find their places in sets.  Equal values have equal hashes: the hash of
a number depends on its exact value alone, and that of a row on the hashes of its elements.  A
value that can change has no hash.

The order in which a set shows its elements depends on their hashes, so for numbers and for rows of
them these are the very words that an interpreter computes.  An interpreter salts the hashes of
texts anew in each run; here they are a fixed function of the code points, and the order of a set of
texts is one of those that there can be.
-/

namespace BoundSql.Value

/-! ## Numbers -/

/-- Hashes of numbers are taken modulo this prime. -/
def hashModulus : Nat := Nat.pow 2 61 - 1

/-- The word that is no hash. -/
def noHash : UInt64 := 0 - 1

/-- A word as a hash. -/
def hashWord (h : UInt64) : UInt64 := if h == noHash then h - 1 else h

/-- The hash with a sign and a size. -/
def signedHash (negative : Bool) (n : Nat) : UInt64 :=
  hashWord (if negative then 0 - n.toUInt64 else n.toUInt64)

/-- The hash of an integer. -/
def hashOfInt (n : Int) : UInt64 := signedHash (decide (n < 0)) (n.natAbs % hashModulus)

/-- The hash of a floating point number; that of an integer is the hash of the integer, since two
to the exponent 61 counts like one. -/
def hashOfFloat (x : Float) : UInt64 :=
  match Decimal.Binary.ofFloat x with
  | .finite negative mantissa exponent =>
      signedHash negative (mantissa * Nat.pow 2 (exponent % 61).toNat % hashModulus)
  | .infinite negative => signedHash negative 314159
  | .nan => 0

/-- The hash of a number. -/
def Number.hash : Number → UInt64
  | .int n => hashOfInt n
  | .float x => hashOfFloat x
  | .complex re im => hashWord (hashOfFloat re + 1000003 * hashOfFloat im)

/-! ## Rows and sets -/

/-- The hash of a row whose elements have the given hashes. -/
def hashOfRow (hs : List UInt64) : UInt64 :=
  let start : UInt64 := 2870177450012600261
  let acc := hs.foldl (fun (acc h : UInt64) =>
    let acc := acc + h * 14029467366897019727
    ((acc <<< 31) ||| (acc >>> 33)) * 11400714785074694791) start
  let acc := acc + (hs.length.toUInt64 ^^^ (start ^^^ 3527539))
  if acc == noHash then 1546275796 else acc

/-- The hash of a set whose elements have the given hashes, in any order. -/
def hashOfSet (hs : List UInt64) : UInt64 :=
  let shuffled (h : UInt64) : UInt64 := ((h ^^^ (89869747 : UInt64)) ^^^ (h <<< 16)) * 3644798167
  let acc := hs.foldl (fun (acc h : UInt64) => acc ^^^ shuffled h) 0
  let acc := acc ^^^ (hs.length.toUInt64 + 1) * 1927868237
  let acc := (acc ^^^ (acc >>> 11) ^^^ (acc >>> 25)) * 69069 + 907133923
  if acc == noHash then 590923713 else acc

/-- The hash in a slot. -/
def Slot.hash? : Slot → Option UInt64
  | held h _ => some h
  | _ => none

/-- The hash of the elements of a set as a whole. -/
def Slots.hash (t : Slots) : UInt64 := hashOfSet (t.places.toList.filterMap Slot.hash?)

/-! ## Values -/

/-- The hash of a row of small numbers. -/
def hashOfNumbers (ns : List Nat) : UInt64 :=
  hashWord (ns.foldl (fun h n => h * 1000003 + n.toUInt64) ns.length.toUInt64)

/-- The hash of a text. -/
def hashOfText (s : Text) : UInt64 := hashOfNumbers (s.map Text.CodePoint.code)

/-- The hash of a value; `fuel` bounds the depth of nesting. -/
def hashWithin : (fuel : Nat) → Val → Eval UInt64
  | 0, _ => Eval.fail .tooDeep
  | fuel + 1, v => do
      match v with
      | .none => pure 0xfca86420
      | .ellipsis => pure 0xfca86421
      | .notImplemented => pure 0xfca86422
      | .bool b => pure (hashOfInt (if b then 1 else 0))
      | .int n => pure (hashOfInt n)
      | .float x => pure (hashOfFloat x)
      | .nan mark => pure (hashOfNumbers [mark])
      | .complex re im => pure (Number.complex re im).hash
      | .str s => pure (hashOfText s)
      | .bytes bs => pure (hashOfNumbers (bs.map UInt8.toNat))
      | .tuple items => do pure (hashOfRow (← items.mapM (hashWithin fuel)))
      | .range start stop step =>
          let n := rangeLength start stop step
          let rest ← [if n = 0 then .none else .int start, if n ≤ 1 then .none else .int step].mapM
            (hashWithin fuel)
          pure (hashOfRow (hashOfInt n :: rest))
      | .literal fragment => pure (hashOfRow [hashOfText fragment])
      | .argument value => do pure (hashOfRow [← hashWithin fuel value])
      | .splat items => do pure (hashOfRow [hashOfRow (← items.mapM (hashWithin fuel))])
      | .sql args => do
          let hs ← args.mapM fun
            | .literal fragment => hashWithin fuel (.literal fragment)
            | .argument value => hashWithin fuel (.argument value)
          pure (hashOfRow [hashOfRow hs])
      | .type c => pure (hashOfText c.name)
      | .union members => pure (hashOfSet (members.map fun c => hashOfText c.name))
      | .builtin name | .method _ name | .unbound _ name | .foreign _ name =>
          pure (hashOfText name)
      | .slice .. => Eval.fail .wrongType
      | .view kind address =>
          if kind = .values then pure (hashOfNumbers [address]) else Eval.fail .wrongType
      | .object address => do
          match ← Eval.load address with
          | .list _ | .dict _ | .set false _ | .record _ | .compiled .. => Eval.fail .wrongType
          | .set true t => pure t.hash
          | .iterator _ | .function _ | .frame _ => pure (hashOfNumbers [address])

/-- The hash of a value. -/
def hashOf (v : Val) : Eval UInt64 := hashWithin depthLimit v

/-- Refuses a value that cannot be a key. -/
def requireKey (v : Val) : Eval Unit := do
  let _ ← hashOf v

/-- The hash of a value that is looked for in a set, where a set counts like a frozen one. -/
def searchHash (v : Val) : Eval UInt64 := do
  match v with
  | .object address => do
      match ← Eval.load address with
      | .set _ t => pure t.hash
      | _ => hashOf v
  | v => hashOf v

theorem hashWord_ne_noHash (h : UInt64) : hashWord h ≠ noHash := by
  unfold hashWord
  split
  · rename_i e
    rw [eq_of_beq e]
    decide
  · rename_i e
    simpa using e

end BoundSql.Value
