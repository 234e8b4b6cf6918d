import BoundSql.Eval.Construct
import BoundSql.Eval.Iteration
import BoundSql.Eval.Method
set_option autoImplicit false

/-!
# Functions that are always there

Calls of the functions that are known by name, and of everything else that can be called.

`callBuiltin` is one long case distinction over names, and each case reads its arguments and then
works on values, most often with a function of another module.  `callValue` decides what is called:
a function of this kind, one that an expression has made, a class, a method that was read off a
value, or something that cannot be called at all.  What a function needs of evaluation, a call back
into a function or the next element of an iterator, it takes from the engine one level below.
-/

namespace BoundSql.Eval

open BoundSql.Value

/-! ## Functions on numbers -/

/-- The sum of elements. -/
def sumOf (e : Engine) (args : List Val) (keywords : Keywords) : Eval Val := do
  let v ← Eval.orFail .wrongType args.head?
  match ← named args.tail keywords ["start"] [] 0 with
  | [start] => do
      let start := start.getD (.int 0)
      match start with
      | .str _ | .bytes _ => Eval.fail .wrongType
      | start => e.fold v start fun acc w => do pure (.yield (← applyBinary .add acc w))
  | _ => Eval.fail .wrongType

/-- The largest or the smallest of the arguments, or of the elements of a single argument.  Of
elements that none exceeds the first one counts. -/
def extremeOf (e : Engine) (o : Order) (args : List Val) (keywords : Keywords) : Eval Val := do
  let row ← match args with
    | [] => Eval.fail .wrongType
    | [v] => pure v
    | vs => pure (.tuple vs)
  if keywords.any fun k => k.1 != "key" && k.1 != "default" then Eval.fail .wrongType
  let key := (keywords.lookup "key").getD .none
  let default := keywords.lookup "default"
  if args.length ≠ 1 && default.isSome then Eval.fail .wrongType
  let best ← e.fold row none fun best v => do
    let x := Keyed.mk (← keyOf e key v) v
    match best with
    | none => pure (.yield (some x))
    | some y => do pure (.yield (if ← ordered o x.key y.key then some x else best))
  match best with
  | some x => pure x.value
  | none => Eval.orFail .wrongValue default

/-- A number rounded. -/
def roundOf (args : List Val) (keywords : Keywords) : Eval Val := do
  match ← named args keywords ["number", "ndigits"] [] 1 with
  | [some v, places] => do
      match asFloat? v, places.getD .none with
      | some x, .none => do pure (.int (← roundedInt x))
      | some x, places => do floatVal (← roundedFloat x (← intArgument places))
      | none, .none => do pure (.int (← intArgument v))
      | none, places => do
          let n ← intArgument v
          pure (.int (roundedPlaces n (← intArgument places)))
  | _ => Eval.fail .wrongType

/-- The coefficient of the first number in a combination of two numbers that makes their greatest
common divisor, and the divisor; `fuel` bounds the number of divisions, and `old` and `new` are the
coefficients that make the two numbers. -/
def bezout : (fuel : Nat) → (a b old new : Int) → Int × Int
  | 0, a, _, old, _ => (old, a)
  | fuel + 1, a, b, old, new =>
      if b = 0 then (old, a)
      else bezout fuel b (Int.fmod a b) new (old - Int.fdiv a b * new)

/-- The number that multiplies with the given one to one, modulo a number. -/
def inverseMod? (n modulus : Int) : Option Int :=
  let (c, d) := bezout (2 * bitLength modulus.natAbs + 2) (Int.emod n modulus) modulus.natAbs 1 0
  if d = 1 then some c else none

/-- A power modulo a number, by repeated squaring; `fuel` bounds the bits of the exponent. -/
def squaredPower (modulus : Int) : (fuel : Nat) → (base : Int) → (exponent : Nat) → Int → Int
  | 0, _, _, acc => acc
  | fuel + 1, b, n, acc =>
      if n = 0 then acc
      else squaredPower modulus fuel (Int.fmod (b * b) modulus) (n / 2)
        (if n % 2 = 1 then Int.fmod (acc * b) modulus else acc)

/-- A power modulo a number; a negative exponent asks for a base that has an inverse. -/
def powerMod (base exponent modulus : Int) : Eval Int := do
  if modulus = 0 then Eval.fail .wrongValue
  let base ← if exponent < 0 then Eval.orFail .wrongValue (inverseMod? base modulus)
    else pure base
  let n := exponent.natAbs
  pure (squaredPower modulus (bitLength n + 1) (Int.fmod base modulus) n (Int.fmod 1 modulus))

/-- A power. -/
def powerOf (args : List Val) (keywords : Keywords) : Eval Val := do
  match ← named args keywords ["base", "exp", "mod"] [] 2 with
  | [some b, some n, modulus] => do
      match modulus.getD .none with
      | .none => applyBinary .pow b n
      | m => do
          pure (.int (← powerMod (← intArgument b) (← intArgument n) (← intArgument m)))
  | _ => Eval.fail .wrongType

/-- The digits of an integer in a base, behind the marks of the base. -/
def basedText (marks : String) (base : Nat) (args : List Val) (keywords : Keywords) :
    Eval Val := do
  let n ← intArgument (← single args keywords)
  let sign := if n < 0 then "-" else ""
  pure (.str (sign ++ marks ++ String.ofList (digitsIn base n.natAbs) : String))

/-! ## Functions on other values -/

/-- Whether all, or any, elements count as true; elements behind the one that decides are not
asked for. -/
def quantified (e : Engine) (whenFound : Bool) (args : List Val) (keywords : Keywords) :
    Eval Val := do
  let v ← single args keywords
  let b ← e.fold v (!whenFound) fun _ w => do
    if (← truth w) == whenFound then pure (.done whenFound) else pure (.yield !whenFound)
  pure (.bool b)

/-- Whether a class is one of those that a value names: one class, a union, or a tuple of such
values.  What stands behind the class that decides does not matter; `fuel` bounds the depth of
nesting. -/
def isAnyOf (c : Value.Class) : (fuel : Nat) → Val → Eval Bool
  | 0, _ => Eval.fail .tooDeep
  | fuel + 1, v => do
      match v with
      | .type above => pure (c.isBelow above)
      | .union members => pure (members.any c.isBelow)
      | .tuple items => anyElement (isAnyOf c fuel) items
      | _ => Eval.fail .wrongType

/-- Whether a value is a class below one of those that a value names.  A value that is no class is
below nothing, but it must not meet a class. -/
def isSubclass (v : Val) : (fuel : Nat) → Val → Eval Bool
  | 0, _ => Eval.fail .tooDeep
  | fuel + 1, classes => do
      match v, classes with
      | .type c, classes => isAnyOf c (fuel + 1) classes
      | v, .tuple items => anyElement (isSubclass v fuel) items
      | _, _ => Eval.fail .wrongType

/-- Whether a value can be called. -/
def isCallable (v : Val) : Eval Bool := do
  match v with
  | .type _ | .builtin _ | .method .. | .unbound .. => pure true
  | .foreign name _ => pure (name == "Quitter" || name == "_Helper" || name == "_Printer")
  | .object address => do
      match ← Eval.load address with
      | .function _ => pure true
      | _ => pure false
  | _ => pure false

/-- The value of an attribute, or a default where there is none. -/
def attributeOr (v : Val) (field : String) (default : Option Val) : Eval Val :=
  match default with
  | none => readAttribute v field
  | some w => tryCatch (readAttribute v field) fun fault =>
      if fault = .missingAttribute then pure w else Eval.fail fault

/-- A word as an integer with a sign. -/
def signedWord (h : UInt64) : Int :=
  if h.toNat < Nat.pow 2 63 then h.toNat else (h.toNat : Int) - Int.pow 2 64

/-- The next element of an iterator, or a default where there is none. -/
def nextOr (e : Engine) (args : List Val) (keywords : Keywords) : Eval Val := do
  let args ← positional args keywords 1 2
  let it := args.headD .none
  match ← e.nextOf it with
  | some v => pure v
  | none => Eval.orFail .exhausted args[1]?

/-- Calls a function that is known by name. -/
def callBuiltin (e : Engine) (name : String) (args : List Val) (keywords : Keywords) :
    Eval Val := do
  match name with
  | "abs" => do
      let n ← Eval.orFail .wrongType (asNumber? (← single args keywords))
      (← absolute n).toVal
  | "all" => quantified e false args keywords
  | "any" => quantified e true args keywords
  | "ascii" => do pure (.str (asciiOnly (← shown (← single args keywords))))
  | "bin" => basedText "0b" 2 args keywords
  | "oct" => basedText "0o" 8 args keywords
  | "hex" => basedText "0x" 16 args keywords
  | "callable" => do pure (.bool (← isCallable (← single args keywords)))
  | "chr" => do
      let n ← smallInt (← intArgument (← single args keywords))
      pure (.str [← pointOf .wrongValue n])
  | "ord" => do
      match ← single args keywords with
      | .str [c] => pure (.int c.code)
      | .bytes [b] => pure (.int b.toNat)
      | _ => Eval.fail .wrongType
  | "divmod" => do
      match ← positional args keywords 2 2 with
      | [v, w] => do
          let q ← Eval.orFail .wrongType (asNumber? v)
          let r ← Eval.orFail .wrongType (asNumber? w)
          let quotient ← (← numberOp .floorDiv q r).toVal
          pure (.tuple [quotient, ← (← numberOp .mod q r).toVal])
      | _ => Eval.fail .wrongType
  | "format" => do
      match ← positional args keywords 1 2 with
      | [v, format] => do pure (.str (← formatValue v (← textArgument format)))
      | [v] => do pure (.str (← textOf v))
      | _ => Eval.fail .wrongType
  | "getattr" => do
      match ← positional args keywords 2 3 with
      | v :: field :: rest => do attributeOr v (← nameArgument field) rest.head?
      | _ => Eval.fail .wrongType
  | "hasattr" => do
      match ← positional args keywords 2 2 with
      | [v, field] => do
          let field ← nameArgument field
          let found ← tryCatch (do
            let _ ← readAttribute v field
            pure true) fun fault =>
              if fault = .missingAttribute then pure false else Eval.fail fault
          pure (.bool found)
      | _ => Eval.fail .wrongType
  | "setattr" => do
      match ← positional args keywords 3 3 with
      | [v, field, w] => do
          writeAttribute v (← nameArgument field) w
          pure .none
      | _ => Eval.fail .wrongType
  | "hash" => do
      pure (.int (signedWord (← hashOf (← single args keywords))))
  | "id" => do
      let _ ← single args keywords
      pure (.int 0)
  | "isinstance" => do
      match ← positional args keywords 2 2 with
      | [v, classes] => do
          pure (.bool (← isAnyOf (← classOf v) depthLimit classes))
      | _ => Eval.fail .wrongType
  | "issubclass" => do
      match ← positional args keywords 2 2 with
      | [v, classes] => do pure (.bool (← isSubclass v depthLimit classes))
      | _ => Eval.fail .wrongType
  | "iter" => do
      match ← positional args keywords 1 2 with
      | [v] => iterate v
      | [f, sentinel] => do
          if ← isCallable f then Eval.make (.iterator (.callUntil f sentinel))
          else Eval.fail .wrongType
      | _ => Eval.fail .wrongType
  | "len" => do
      let n ← Eval.orFail .wrongType (← size? (← single args keywords))
      pure (.int (← Eval.index n))
  | "max" => extremeOf e .gt args keywords
  | "min" => extremeOf e .lt args keywords
  | "next" => nextOr e args keywords
  | "pow" => powerOf args keywords
  | "print" => pure .none
  | "repr" => do pure (.str (← shown (← single args keywords)))
  | "round" => roundOf args keywords
  | "sorted" => do
      let vs ← e.elements (← single args [])
      match ← named [] keywords [] ["key", "reverse"] 0 with
      | [key, descending] => do
          let descending ← flagArgument descending
          Eval.makeList (← sortValues e (key.getD .none) descending vs)
      | _ => Eval.fail .wrongType
  | "sum" => sumOf e args keywords
  | "vars" => do
      match ← field? (← single args keywords) "__dict__" with
      | some v => pure v
      | none => Eval.fail .wrongType
  | _ => Eval.fail .wrongType

/-! ## Calls -/

/-- Calls a function of the expression language: its parameters, and the names that assignments in
its body bind, live in a new frame.  A function that yields answers with a generator. -/
def callFunction (e : Engine) (f : Function) (args : List Val) (keywords : Keywords) :
    Eval Val := do
  let values ← bindParameters f.parameters args keywords
  let locals := f.parameters.map (·.2.1) ++ f.assigned
  match ← Eval.make (.frame { isFunction := true, locals, values }) with
  | .object frame =>
      let env := { f.env with frames := frame :: f.env.frames }
      if f.yields then Eval.make (.iterator (.yielding f.name (some (f.body, env)) [] none))
      else Eval.deeper (e.eval env f.body)
  | _ => Eval.fail .tooDeep

/-- Calls a value. -/
def callValue (e : Engine) (f : Val) (args : List Val) (keywords : Keywords) : Eval Val := do
  match f with
  | .builtin name => callBuiltin e name args keywords
  | .type c => construct e c args keywords
  | .method self name => callMethod e self name args keywords
  | .unbound c name => callUnbound e c name args keywords
  | .object address => do
      match ← Eval.load address with
      | .function f => callFunction e f args keywords
      | _ => Eval.fail .wrongType
  | _ => Eval.fail .wrongType

end BoundSql.Eval
