import BoundSql.Eval.Engine
set_option autoImplicit false

/-!
# Arguments of calls

How the arguments of a call meet the parameters of what is called: by position, by name, or by
their default values.

Functions that are always there have parameters of a few shapes, and each shape is one reader of
arguments here (`positional`, `named`, `intArgument` and so on), which refuses a call that does not
fit.  Functions that an expression makes have parameters of all kinds, with defaults and with rows
that take up what is left; `bindParameters` meets them one after the other, and its outcome is the
frame that the body is evaluated in.
-/

namespace BoundSql.Eval

open BoundSql.Value
open BoundSql.Expr (ParameterKind)

/-- Refuses keyword arguments, and positional ones outside of the given bounds. -/
def positional (args : List Val) (keywords : Keywords) (least most : Nat) : Eval (List Val) :=
  if keywords.isEmpty && least ≤ args.length && args.length ≤ most then pure args
  else Eval.fail .wrongType

/-- The single argument of a call. -/
def single (args : List Val) (keywords : Keywords) : Eval Val := do
  match ← positional args keywords 1 1 with
  | [v] => pure v
  | _ => Eval.fail .wrongType

/-- Refuses all arguments. -/
def nothing (args : List Val) (keywords : Keywords) : Eval Unit := do
  let _ ← positional args keywords 0 0

/-- The arguments of parameters that can be given by position or by name, the first `required` of
which have no default; those in `byNameOnly` come behind and are given by name. -/
def named (args : List Val) (keywords : Keywords) (parameters byNameOnly : List String)
    (required : Nat) : Eval (List (Option Val)) := do
  if parameters.length < args.length then Eval.fail .wrongType
  let all := parameters ++ byNameOnly
  if keywords.any fun k => !all.contains k.1 then Eval.fail .wrongType
  if (parameters.take args.length).any fun p => keywords.any (·.1 == p) then Eval.fail .wrongType
  let values := all.mapIdx fun i p =>
    match args[i]? with
    | some v => if i < parameters.length then some v else keywords.lookup p
    | none => keywords.lookup p
  if (values.take required).any Option.isNone then Eval.fail .wrongType
  pure values

/-- The integer that an argument has to be. -/
def intArgument (v : Val) : Eval Int := Eval.orFail .wrongType (asInt? v)

/-- The text that an argument has to be. -/
def textArgument (v : Val) : Eval Text :=
  match v with
  | .str s => pure s
  | _ => Eval.fail .wrongType

/-- The text that an argument has to be, where it names something. -/
def nameArgument (v : Val) : Eval String := do pure (Text.plain (← textArgument v))

/-- An integer argument with a default. -/
def intOr (default : Int) : Option Val → Eval Int
  | some v => intArgument v
  | none => pure default

/-- The number of elements or the place of an element that an argument has to be. -/
def indexArgument (v : Val) : Eval Int := do Eval.index (← intArgument v)

/-- A number of elements or a place of an element, with a default. -/
def indexOr (default : Int) : Option Val → Eval Int
  | some v => indexArgument v
  | none => pure default

/-- An integer of 32 bits. -/
def smallInt (n : Int) : Eval Int :=
  if -(Int.pow 2 31) ≤ n ∧ n < Int.pow 2 31 then pure n else Eval.fail .overflow

/-- A switch that is given as a small integer. -/
def flagArgument : Option Val → Eval Bool
  | some v => do pure ((← smallInt (← intArgument v)) != 0)
  | none => pure false

/-- The byte that a value stands for. -/
def byteOf (v : Val) : Eval UInt8 := do
  let n ← intArgument v
  if 0 ≤ n ∧ n < 256 then pure n.toNat.toUInt8 else Eval.fail .wrongValue

/-- The bytes that the elements of a value stand for. -/
def bytesFrom (e : Engine) (v : Val) : Eval (List UInt8) := do
  let bs ← e.fold v #[] fun acc w => do pure (.yield (acc.push (← byteOf w)))
  pure bs.toList

/-! ## Functions of the expression language -/

/-- What is left of the arguments while parameters are bound. -/
structure Binding where
  row : List Val
  keywords : Keywords
  values : List (String × Val) := []
  deriving Inhabited

/-- Binds one parameter. -/
def Binding.bind (b : Binding) (kind : ParameterKind) (id : String) (default : Option Val) :
    Eval Binding := do
  let add (v : Val) (b : Binding) : Binding := { b with values := b.values ++ [(id, v)] }
  let byName (b : Binding) : Eval Binding :=
    match b.keywords.lookup id with
    | some v => pure (add v { b with keywords := b.keywords.filter (·.1 != id) })
    | none => do pure (add (← Eval.orFail .wrongType default) b)
  match kind with
  | .positionalOnly =>
      match b.row with
      | v :: rest => pure (add v { b with row := rest })
      | [] => do pure (add (← Eval.orFail .wrongType default) b)
  | .plain =>
      match b.row with
      | v :: rest =>
          if b.keywords.any (·.1 == id) then Eval.fail .wrongType
          else pure (add v { b with row := rest })
      | [] => byName b
  | .rest => pure (add (.tuple b.row) { b with row := [] })
  | .keywordOnly => byName b
  | .keywords => do
      let entries := b.keywords.map fun k => (Val.str (k.1 : String), k.2)
      pure (add (← Eval.make (.dict entries.toArray)) { b with keywords := [] })

/-- Binds the parameters of a function. -/
def bindParameters (parameters : List (ParameterKind × String × Option Val)) (args : List Val)
    (keywords : Keywords) : Eval (List (String × Val)) := do
  let start : Binding := { row := args, keywords }
  let b ← parameters.foldlM (fun (b : Binding) p => b.bind p.1 p.2.1 p.2.2) start
  if b.row.isEmpty && b.keywords.isEmpty then pure b.values else Eval.fail .wrongType

end BoundSql.Eval
