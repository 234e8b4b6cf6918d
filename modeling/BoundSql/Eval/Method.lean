import BoundSql.Decimal.Reading
import BoundSql.Eval.CollectionMethod
import BoundSql.Eval.FieldFormat
import BoundSql.Eval.SetMethod
import BoundSql.Eval.TextMethod
set_option autoImplicit false

/-!
# Methods

Calls of the methods of all values, by the class of the value that a method belongs to.

`callMethod` looks at the class of a value and hands the call to the module for that class; the
methods of numbers, ranges, slices and generators, which are few, stand here.  A method can be
called through its class too, with the value as its first argument (`callUnbound`), and then the
value has to be of that class.
-/

namespace BoundSql.Eval

open BoundSql.Value

/-- The number of bits of a natural number. -/
def bitLength (n : Nat) : Nat := if n = 0 then 0 else Nat.log2 n + 1

/-- The bytes of a natural number, the lowest first. -/
def lowBytes : (count : Nat) → Nat → List UInt8
  | 0, _ => []
  | count + 1, n => n.toUInt8 :: lowBytes count (n / 256)

/-- A pair of a numerator and a denominator. -/
def ratioValue (n : Int) (d : Nat) : Val := .tuple [.int n, .int d]

/-- Whether bytes stand with the lowest first. -/
def isLowFirst (order : Val) : Eval Bool := do
  match ← nameArgument order with
  | "little" => pure true
  | "big" => pure false
  | _ => Eval.fail .wrongValue

/-- A method of integers. -/
def intMethod (n : Int) (name : String) (args : List Val) (keywords : Keywords) : Eval Val := do
  match name with
  | "bit_length" => do
      nothing args keywords
      pure (.int (bitLength n.natAbs))
  | "bit_count" => do
      nothing args keywords
      pure (.int ((Nat.toDigits 2 n.natAbs).count '1'))
  | "conjugate" => do
      nothing args keywords
      pure (.int n)
  | "as_integer_ratio" => do
      nothing args keywords
      pure (ratioValue n 1)
  | "to_bytes" => do
      match ← named args keywords ["length", "byteorder"] ["signed"] 0 with
      | [length, order, negatives] => do
          let length ← indexOr 1 length
          let lowFirst ← isLowFirst (order.getD (.str "big"))
          let negatives ← truth (negatives.getD (.bool false))
          if length < 0 then Eval.fail .wrongValue
          let length := length.toNat
          Eval.room length
          let bound : Int := Int.pow 256 length
          let fits := if negatives then -bound ≤ 2 * n ∧ 2 * n < bound else 0 ≤ n ∧ n < bound
          if fits then
            let bs := lowBytes length (if n < 0 then n + bound else n).toNat
            pure (.bytes (if lowFirst then bs else bs.reverse))
          else Eval.fail .overflow
      | _ => Eval.fail .wrongType
  | _ => Eval.fail .missingAttribute

/-- The integer that bytes stand for. -/
def intOfBytes (e : Engine) (args : List Val) (keywords : Keywords) : Eval Val := do
  match ← named args keywords ["bytes", "byteorder"] ["signed"] 1 with
  | [some v, order, negatives] => do
      let bs ← match v with
        | .bytes bs => pure bs
        | v => bytesFrom e v
      let lowFirst ← isLowFirst (order.getD (.str "big"))
      let negatives ← truth (negatives.getD (.bool false))
      let bs := if lowFirst then bs.reverse else bs
      let value : Nat := bs.foldl (fun acc b => acc * 256 + b.toNat) 0
      let n : Int := value
      let bound : Int := Int.pow 256 bs.length
      pure (.int (if negatives ∧ bound ≤ 2 * n then n - bound else n))
  | _ => Eval.fail .wrongType

/-- A method of floating point numbers. -/
def floatMethod (v : Val) (x : Float) (name : String) (args : List Val) (keywords : Keywords) :
    Eval Val := do
  nothing args keywords
  match name with
  | "is_integer" => pure (.bool (Decimal.isInteger x))
  | "conjugate" => pure v
  | "as_integer_ratio" => do
      match Decimal.lowestTerms? x with
      | some (n, d) => pure (ratioValue n d)
      | none => Eval.fail (if x.isNaN then .wrongValue else .overflow)
  | _ => Eval.fail .missingAttribute

/-- The bounds of a slice in a row of a given length. -/
def sliceMethod (start stop step : Val) (args : List Val) (keywords : Keywords) : Eval Val := do
  let length ← intArgument (← single args keywords)
  if length < 0 then Eval.fail .wrongValue
  let (start, stop, step) ← sliceOf length.toNat start stop step
  pure (.tuple [.int start, .int stop, .int step])

/-- A method of a range. -/
def rangeMethod (start stop step : Int) (name : String) (args : List Val) (keywords : Keywords) :
    Eval Val := do
  match name with
  | "index" => do
      let place := placeInRange? start stop step (← single args keywords)
      pure (.int (← Eval.orFail .wrongValue place))
  | "count" => do
      let place := placeInRange? start stop step (← single args keywords)
      pure (.int (if place.isSome then 1 else 0))
  | _ => Eval.fail .missingAttribute

/-- A method that all values have, or all values of the classes with a length or with elements. -/
def commonMethod (e : Engine) (v : Val) (name : String) (args : List Val) (keywords : Keywords) :
    Eval Val := do
  match name with
  | "__str__" => do
      nothing args keywords
      pure (.str (← textOf v))
  | "__repr__" => do
      nothing args keywords
      pure (.str (← shown v))
  | "__format__" => do pure (.str (← formatValue v (← textArgument (← single args keywords))))
  | "__eq__" => do pure (.bool (← equal v (← single args keywords)))
  | "__ne__" => do pure (.bool !(← equal v (← single args keywords)))
  | "__bool__" => do
      nothing args keywords
      pure (.bool (← truth v))
  | "__len__" => do
      nothing args keywords
      let n ← Eval.orFail .wrongType (← size? v)
      pure (.int (← Eval.index n))
  | "__contains__" => do pure (.bool (← e.contains v (← single args keywords)))
  | "__getitem__" => do readItem v (← single args keywords)
  | "__add__" => do applyBinary .add v (← single args keywords)
  | "__iter__" => do
      nothing args keywords
      iterate v
  | "__next__" => do
      nothing args keywords
      Eval.orFail .exhausted (← e.nextOf v)
  | _ => Eval.fail .missingAttribute

/-- The failure that a class of errors, or one of its errors, stands for. -/
def faultOf? : Val → Option Fault
  | .type (.error name) => some (.ofClassName name)
  | .foreign name _ =>
      match Class.ofName? name with
      | some (.error _) => some (.ofClassName name)
      | _ => none
  | _ => none

/-- Whether a generator still has something to do. -/
def isUnfinished : Iterator → Bool
  | .generator _ => true
  | .yielding _ body rest failure => body.isSome || !rest.isEmpty || failure.isSome
  | _ => false

/-- A method of a generator.  One that was not started takes no value but the empty one. -/
def generatorMethod (e : Engine) (address : Nat) (it : Iterator) (name : String)
    (args : List Val) (keywords : Keywords) : Eval Val := do
  match name with
  | "send" => do
      let v ← single args keywords
      match v, it with
      | .none, _ => do Eval.orFail .exhausted (← e.next address)
      | _, .yielding _ none .. => do Eval.orFail .exhausted (← e.next address)
      | _, .generator g =>
          if g.running then Eval.fail .wrongValue
          else if g.started then do Eval.orFail .exhausted (← e.next address)
          else Eval.fail .wrongType
      | _, _ => Eval.fail .wrongType
  | "close" => do
      nothing args keywords
      match it with
      | .generator g => do
          if g.running then Eval.fail .wrongValue
          Eval.save address (.iterator (.yielding g.name none [] none))
      | .yielding name .. => Eval.save address (.iterator (.yielding name none [] none))
      | _ => pure ()
      pure .none
  | "throw" => do
      let fault ← Eval.orFail .wrongType (faultOf? ((← positional args keywords 1 3).headD .none))
      match it with
      | .generator g => do
          if g.running then Eval.fail .wrongValue
          Eval.save address (.iterator (.yielding g.name none [] none))
      | .yielding name .. => Eval.save address (.iterator (.yielding name none [] none))
      | _ => pure ()
      Eval.fail (if isUnfinished it then afterFailure fault else fault)
  | _ => Eval.fail .wrongType

/-- A method of an object. -/
def objectMethod (e : Engine) (address : Nat) (name : String) (args : List Val)
    (keywords : Keywords) : Eval Val := do
  match ← Eval.load address with
  | .list items => listMethod e address items name args keywords
  | .dict entries =>
      if name = "fromkeys" then dictOfKeys e args keywords
      else dictMethod e address entries name args keywords
  | .set false _ => mutableSetMethod e address name args keywords
  | .set true _ => setMethod e true address name args keywords
  | .compiled sql params => do
      nothing args keywords
      if ← truth params then do
        let params ← e.elements params
        pure (.str (← accountOf (← nameArgument sql) params))
      else pure sql
  | .iterator it => generatorMethod e address it name args keywords
  | _ => Eval.fail .missingAttribute

/-- Calls a method of a value. -/
def callMethod (e : Engine) (self : Val) (name : String) (args : List Val)
    (keywords : Keywords) : Eval Val := do
  if name.startsWith "__" then commonMethod e self name args keywords
  else
    match self with
    | .str s =>
        match name with
        | "format" => do pure (.str (← fieldText s args keywords))
        | "format_map" => do pure (.str (← fieldTextOf s (← single args keywords)))
        | name => textMethod e s name args keywords
    | .bytes bs => bytesMethod e bs name args keywords
    | .tuple items => rowMethod items name args keywords
    | .range start stop step => rangeMethod start stop step name args keywords
    | .int n =>
        if name = "from_bytes" then intOfBytes e args keywords else intMethod n name args keywords
    | .bool b => intMethod (if b then 1 else 0) name args keywords
    | .float x => floatMethod self x name args keywords
    | .nan _ => floatMethod self notANumber name args keywords
    | .complex re im => do
        nothing args keywords
        pure (.complex re (-im))
    | .slice start stop step => sliceMethod start stop step args keywords
    | .view kind address => do
        pure (.bool (← viewIsDisjoint e kind address (← single args keywords)))
    | .object address => objectMethod e address name args keywords
    | _ => Eval.fail .missingAttribute

/-- Calls a method of a class: its first argument is the value that the method belongs to. -/
def callUnbound (e : Engine) (c : Value.Class) (name : String) (args : List Val)
    (keywords : Keywords) : Eval Val := do
  match c, name with
  | .dict, "fromkeys" => dictOfKeys e args keywords
  | .int, "from_bytes" => intOfBytes e args keywords
  | _, _ =>
      match args with
      | self :: args => do
          if (← classOf self).isBelow c then callMethod e self name args keywords
          else Eval.fail .wrongType
      | [] => Eval.fail .wrongType

end BoundSql.Eval
