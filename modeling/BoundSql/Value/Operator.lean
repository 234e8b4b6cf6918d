import BoundSql.Value.Element
import BoundSql.Value.Percent
set_option autoImplicit false

/-!
# Operators

What the operators of the expression language do to values of all kinds: arithmetic on numbers,
joining and repeating sequences, the operations on sets, and the union of classes.

`applyBinary` asks numbers first and then the other kinds of values in a fixed order, as an operator
may mean several things.  What makes a new collection makes a new object in the store.  An operator
that fits no pair of values fails, with the two classes told.
-/

namespace BoundSql.Value

open BoundSql.Expr (BinaryOp UnaryOp)
open BoundSql.Query (Sql)

/-- A list repeated; `excess` is what becomes of a list longer than any number can count. -/
def repeated {α : Type} (excess : Fault) (items : List α) (n : Int) : Eval (List α) := do
  let n := (← Eval.index n).toNat
  let length := items.length * n
  if Eval.indexBound ≤ length then Eval.fail excess
  Eval.room length
  pure (if items.isEmpty then [] else (List.replicate n items).flatten)

/-- A sequence repeated; the answer is nothing if the value is no sequence. -/
def repeatedValue? (v : Val) (n : Int) : Eval (Option Val) := do
  match v with
  | .str s => do pure (some (.str (← repeated .overflow s n)))
  | .bytes bs => do pure (some (.bytes (← repeated .overflow bs n)))
  | .tuple items => do pure (some (.tuple (← repeated .tooLarge items n)))
  | .object address => do
      match ← Eval.load address with
      | .list items => do
          pure (some (← Eval.makeList (← repeated .tooLarge items.toList n)))
      | _ => pure none
  | _ => pure none

/-! ## Sets -/

/-- The elements of a set, and whether it is frozen. -/
def asSet? (v : Val) : Eval (Option (Bool × Slots)) := do
  match v with
  | .object address => do
      match ← Eval.load address with
      | .set frozen t => pure (some (frozen, t))
      | _ => pure none
  | _ => pure none

/-- An operation on two sets. -/
def setOp (op : BinaryOp) (t u : Slots) : Eval Slots := do
  match op with
  | .bitAnd => t.intersection u
  | .bitOr => do (← t.copy).merged u
  | .bitXor => do (← u.copy).toggled t.entries
  | .sub => t.difference u
  | _ => Eval.fail .wrongType

/-- An operation on a set and itself, which adds nothing to it. -/
def ownSetOp (op : BinaryOp) (t : Slots) : Eval Slots :=
  match op with
  | .bitAnd | .bitOr => t.copy
  | op => setOp op t t

/-! ## Unions of classes -/

/-- The classes that a value stands for in a union. -/
def unionMembers? : Val → Option (List Class)
  | .none => some [.none]
  | .type c => some [c]
  | .union members => some members
  | _ => none

/-- The union of what two values stand for, at least one of which is a class or a union. -/
def unionOf? (v w : Val) : Option Val :=
  match v, w with
  | .none, .none => none
  | v, w => do
      let members := ((← unionMembers? v) ++ (← unionMembers? w)).eraseDups
      match members with
      | [c] => some (.type c)
      | members => some (.union members)

/-! ## Operators on values -/

/-- The entries of a dictionary. -/
def asEntries? (v : Val) : Eval (Option Entries) := do
  match v with
  | .object address => do
      match ← Eval.load address with
      | .dict entries => pure (some entries)
      | _ => pure none
  | _ => pure none

/-- Joins two values of one kind. -/
def joinValues (v w : Val) : Eval Val := do
  match v, w with
  | .str s, .str t => pure (.str (s ++ t))
  | .bytes bs, .bytes cs => pure (.bytes (bs ++ cs))
  | .tuple vs, .tuple ws => pure (.tuple (vs ++ ws))
  | .sql ns, .sql ms => pure (ofSql (Sql.join ⟨ns⟩ ⟨ms⟩))
  | .object a, .object b => do
      match ← Eval.load a, ← Eval.load b with
      | .list vs, .list ws => Eval.make (.list (vs ++ ws))
      | _, _ => Eval.fail .wrongType
  | _, _ => Eval.fail .wrongType

/-- An operation on values that are not both numbers. -/
def otherOp (op : BinaryOp) (v w : Val) : Eval Val := do
  match op with
  | .add => joinValues v w
  | .mul => do
      let attempt (v w : Val) : Eval (Option Val) := do
        match asInt? w with
        | some n => repeatedValue? v n
        | none => pure none
      match ← attempt v w with
      | some u => pure u
      | none => do Eval.orFail .wrongType (← attempt w v)
  | .mod =>
      match v with
      | .str pattern => do pure (.str (← percentFormat .text pattern w))
      | .bytes bs => do
          let pattern ← directiveBytes (.bytes bs)
          pure (.bytes (bytesOfText (← percentFormat .bytes pattern w)))
      | _ => Eval.fail .wrongType
  | .bitAnd | .bitOr | .bitXor | .sub => do
      match ← asSet? v, ← asSet? w with
      | some (frozen, t), some (_, u) => do
          Eval.make (.set frozen (← if sameObject v w then ownSetOp op t else setOp op t u))
      | _, _ => do
          match op, ← asEntries? v, ← asEntries? w with
          | .bitOr, some es, some fs => do Eval.make (.dict (← insertEntries es fs.toList))
          | .bitOr, _, _ => Eval.orFail .wrongType (unionOf? v w)
          | _, _, _ => Eval.fail .wrongType
  | _ => Eval.fail .wrongType

/-- An operation on two truth values that has a truth value as its result. -/
def truthOp? (op : BinaryOp) (a b : Bool) : Option Bool :=
  match op with
  | .bitAnd => some (a && b)
  | .bitOr => some (a || b)
  | .bitXor => some (a != b)
  | _ => none

/-- An operation on two values. -/
def applyBinary (op : BinaryOp) (v w : Val) : Eval Val := do
  match v, w with
  | .bool a, .bool b =>
      match truthOp? op a b with
      | some c => pure (.bool c)
      | none => arithmetic v w
  | _, _ => arithmetic v w
where
  /-- An operation on numbers, or on other values. -/
  arithmetic (v w : Val) : Eval Val := do
    match asNumber? v, asNumber? w with
    | some m, some n => do (← numberOp op m n).toVal
    | _, _ => otherOp op v w

/-- An operation on one value. -/
def applyUnary (op : UnaryOp) (v : Val) : Eval Val := do
  match op, v with
  | .plus, .nan _ => pure v
  | op, v => do
      let n ← Eval.orFail .wrongType (asNumber? v)
      (← numberUnary op n).toVal

theorem applyBinary_add_int (m n : Int) :
    applyBinary .add (.int m) (.int n) = pure (.int (m + n)) := rfl

end BoundSql.Value
