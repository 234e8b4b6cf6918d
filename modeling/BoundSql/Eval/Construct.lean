import BoundSql.Decimal.Reading
import BoundSql.Eval.CollectionMethod
import BoundSql.Eval.SetMethod
import BoundSql.Eval.TextMethod
import BoundSql.Value.Element
set_option autoImplicit false

/-!
# Making values

What a class answers with when it is called: a conversion of its argument, a collection of the
elements of its argument, an iterator, or a piece of a query.

Each class has a function of its own here, and `construct` goes from the class to the function.
Pieces of queries are made in the same way as other values, by calling their classes, so that an
expression at a site can build a fragment.  Conversions of text into numbers read more than literals
do, with blanks and signs around the digits.
-/

namespace BoundSql.Eval

open BoundSql.Value

/-! ## Numbers -/

/-- The integer that a text stands for in a base. -/
def intOfText (base : Nat) (s : String) : Eval Int := do
  let (negative, base, digits) ← Eval.orFail .wrongValue (Decimal.integerDigits? base s)
  let isPowerOfTwo := [2, 4, 8, 16, 32].contains base
  if !isPowerOfTwo && digitLimit < digits.length then Eval.fail .wrongValue
  pure (Decimal.signed negative (Text.digitsValue base digits))

/-- A text or bytes, as the text of a numeral. -/
def numeralText? : Val → Option String
  | .str s => some (Text.plain s)
  | .bytes bs => some (String.ofList (bs.map fun b => Char.ofNat b.toNat))
  | _ => none

/-- Makes an integer. -/
def makeInt (args : List Val) (keywords : Keywords) : Eval Int := do
  match args with
  | [] => do
      nothing args keywords
      pure 0
  | v :: rest =>
      match ← named rest keywords ["base"] [] 0 with
      | [some base] => do
          let base ← intArgument base
          if base < 0 ∨ base = 1 ∨ 36 < base then Eval.fail .wrongValue
          let s ← Eval.orFail .wrongType (numeralText? v)
          intOfText base.toNat s
      | _ =>
          match asFloat? v, numeralText? v with
          | some x, _ => intOfFloat x
          | none, some s => intOfText 10 s
          | none, none => intArgument v

/-- Makes a floating point number. -/
def makeFloat (args : List Val) (keywords : Keywords) : Eval Val := do
  match ← positional args keywords 0 1 with
  | v :: _ =>
      match asFloat? v, numeralText? v with
      | some _, _ => pure v
      | none, some s => do floatVal (← Eval.orFail .wrongValue (Decimal.floatOfText? s))
      | none, none => do floatVal (← floatOfInt (← intArgument v))
  | [] => pure (.float 0)

/-- The complex number that a text stands for: a real part, an imaginary part, or both, perhaps in
parentheses. -/
def complexOfText? (s : String) : Option (Float × Float) := do
  let cs := Decimal.normalNumeral s
  let cs ← match cs with
    | '(' :: rest =>
        match (Text.trim rest).reverse with
        | ')' :: inner => some (Text.trim inner.reverse)
        | _ => none
    | cs => some cs
  let float (cs : List Char) : Option Float :=
    if cs.any Text.isBlank then none else Decimal.floatOfText? (String.ofList cs)
  let imaginary (cs : List Char) : Option Float :=
    match cs with
    | [] | ['+'] => some 1
    | ['-'] => some (-1)
    | cs => float cs
  match cs.reverse with
  | 'j' :: front | 'J' :: front =>
      let front := front.reverse
      let splits := (List.range front.length).filter fun i =>
        0 < i && [some '+', some '-'].contains front[i]?
          && !([some 'e', some 'E'].contains front[i - 1]?)
      match splits.getLast? with
      | some i => some (← float (front.take i), ← imaginary (front.drop i))
      | none => some (0, ← imaginary front)
  | _ => some (← float cs, 0)

/-- Makes a complex number from its parts. -/
def makeComplex (args : List Val) (keywords : Keywords) : Eval Val := do
  match ← named args keywords ["real", "imag"] [] 0 with
  | [some (.str s), none] => do
      let (re, im) ← Eval.orFail .wrongValue (complexOfText? (Text.plain s))
      pure (.complex re im)
  | [re, im] => do
      let part (v : Option Val) : Eval (Float × Float) := do
        let n ← Eval.orFail .wrongType (asNumber? (v.getD (.int 0)))
        n.parts
      let isComplex : Option Val → Bool
        | some (.complex ..) => true
        | _ => false
      let (a, b) ← part re
      let (c, d) ← part im
      let real := if isComplex im then a - d else a
      let imaginary := if im.isNone then b else if isComplex re then c + b else c
      pure (.complex real imaginary)
  | _ => Eval.fail .wrongType

/-! ## Texts and bytes -/

/-- Makes a text. -/
def makeText (args : List Val) (keywords : Keywords) : Eval Text := do
  match ← named args keywords ["object", "encoding", "errors"] [] 0 with
  | [some v, none, none] => textOf v
  | [v, encoding, errors] => do
      let encoding ← nameArgument (encoding.getD (.str "utf-8"))
      let _ ← nameArgument (errors.getD (.str "strict"))
      match v with
      | none => pure []
      | some (.bytes bs) => do pure (← decodeBytes bs encoding)
      | some _ => Eval.fail .wrongType
  | _ => Eval.fail .wrongType

/-- Makes bytes. -/
def makeBytes (e : Engine) (args : List Val) (keywords : Keywords) : Eval (List UInt8) := do
  match ← named args keywords ["source", "encoding", "errors"] [] 0 with
  | [none, none, none] => pure []
  | [some (.str s), some encoding, _] => do encodeText s (← nameArgument encoding)
  | [some v, none, none] =>
      match v with
      | .str _ => Eval.fail .wrongType
      | .bytes bs => pure bs
      | v =>
          match asInt? v with
          | some n => do
              let n ← Eval.index n
              if n < 0 then Eval.fail .wrongValue
              Eval.room n.toNat
              pure (List.replicate n.toNat 0)
          | none => bytesFrom e v
  | _ => Eval.fail .wrongType

/-! ## Collections and iterators -/

/-- The elements of an optional argument. -/
def elementsOr (e : Engine) (args : List Val) (keywords : Keywords) : Eval (List Val) := do
  match ← positional args keywords 0 1 with
  | v :: _ => e.elements v
  | [] => pure []

/-- Makes a frozen set, unless the argument is one already. -/
def makeFrozen (e : Engine) (v : Val) : Eval Val := do
  match ← asSet? v with
  | some (true, _) => pure v
  | _ => setOf e true v

/-- Makes a range. -/
def makeRange (args : List Val) (keywords : Keywords) : Eval Val := do
  let bounds ← (← positional args keywords 1 3).mapM intArgument
  match bounds with
  | [stop] => pure (.range 0 stop 1)
  | [start, stop] => pure (.range start stop 1)
  | [start, stop, step] =>
      if step = 0 then Eval.fail .wrongValue else pure (.range start stop step)
  | _ => Eval.fail .wrongType

/-- Makes a slice. -/
def makeSlice (args : List Val) (keywords : Keywords) : Eval Val := do
  match ← positional args keywords 1 3 with
  | [stop] => pure (.slice .none stop .none)
  | [start, stop] => pure (.slice start stop .none)
  | [start, stop, step] => pure (.slice start stop step)
  | _ => Eval.fail .wrongType

/-- Makes an iterator that goes through a row from its end. -/
def makeReversed (args : List Val) (keywords : Keywords) : Eval Val := do
  let v ← single args keywords
  match fixedElements v with
  | some (_, items) => Eval.make (.iterator (.items "reversed" items.reverse))
  | none =>
      match v with
      | .range start stop step =>
          let n := rangeLength start stop step
          Eval.make (.iterator (.count (rangeAt start step n - step) (-step) n))
      | .view kind address => downIterator kind address
      | .object address => do
          match ← Eval.load address with
          | .list items => Eval.make (.iterator (.listDown address items.size))
          | .dict _ => downIterator .keys address
          | _ => Eval.fail .wrongType
      | _ => Eval.fail .wrongType
where
  /-- An iterator over a dictionary from its end. -/
  downIterator (kind : ViewKind) (address : Nat) : Eval Val := do
    let size := (← Eval.load address).size?.getD 0
    Eval.make (.iterator (.dictionaryDown kind address size size))

/-- Makes an iterator that works on others. -/
def makeIterator (c : Value.Class) (args : List Val) (keywords : Keywords) : Eval Val := do
  match c with
  | .enumerate => do
      match ← named args keywords ["iterable", "start"] [] 1 with
      | [some v, start] => do
          let start ← intOr 0 start
          Eval.make (.iterator (.enumerate start (← iterate v)))
      | _ => Eval.fail .wrongType
  | .zip => do
      if keywords.any (·.1 != "strict") then Eval.fail .wrongType
      let strict ← truth ((keywords.lookup "strict").getD (.bool false))
      Eval.make (.iterator (.zip strict (← args.mapM iterate)))
  | .map => do
      match args, keywords with
      | f :: v :: vs, [] => do Eval.make (.iterator (.map f (← (v :: vs).mapM iterate)))
      | _, _ => Eval.fail .wrongType
  | _ => do
      match ← positional args keywords 2 2 with
      | [f, v] => do Eval.make (.iterator (.filter f (← iterate v)))
      | _ => Eval.fail .wrongType

/-! ## Pieces of queries -/

/-- The single argument of a piece of a query, given by position or by its name. -/
def pieceArgument (parameter : String) (args : List Val) (keywords : Keywords) : Eval Val := do
  match ← named args keywords [parameter] [] 1 with
  | [some v] => pure v
  | _ => Eval.fail .wrongType

/-- A query from a value that holds its elements.  A text is refused although it has elements. -/
def sqlOfValue (e : Engine) (v : Val) : Eval Val := do
  match v with
  | .str _ => Eval.fail .textForElements
  | v => do pure (ofSql (sqlOf (← e.elements v)))

/-! ## Calls of classes -/

/-- Calls a class. -/
def construct (e : Engine) (c : Value.Class) (args : List Val) (keywords : Keywords) :
    Eval Val := do
  match c with
  | .bool => do
      match ← positional args keywords 0 1 with
      | v :: _ => do pure (.bool (← truth v))
      | [] => pure (.bool false)
  | .int => do pure (.int (← makeInt args keywords))
  | .float => makeFloat args keywords
  | .complex => makeComplex args keywords
  | .str => do pure (.str (← makeText args keywords))
  | .bytes => do pure (.bytes (← makeBytes e args keywords))
  | .tuple => do pure (.tuple (← elementsOr e args keywords))
  | .list => do Eval.makeList (← elementsOr e args keywords)
  | .set => do setOf e false ((← positional args keywords 0 1).headD (.tuple []))
  | .frozenset => makeFrozen e ((← positional args keywords 0 1).headD (.tuple []))
  | .dict => filledDict fun address => updateDict e address args keywords
  | .range => makeRange args keywords
  | .slice => makeSlice args keywords
  | .reversed => makeReversed args keywords
  | .enumerate | .zip | .map | .filter => makeIterator c args keywords
  | .object => do
      nothing args keywords
      pure (.foreign "object" "<object object at 0x>")
  | .none => do
      nothing args keywords
      pure .none
  | .ellipsis => do
      nothing args keywords
      pure .ellipsis
  | .type => do pure (.type (← classOf (← single args keywords)))
  | .record => do
      let _ ← positional args [] 0 0
      Eval.make (.record keywords)
  | .literal => do
      let v ← pieceArgument "fragment" args keywords
      pure (.literal (Text.plain (← textOf v)))
  | .argument => do pure (.argument (← pieceArgument "value" args keywords))
  | .splat => do pure (.splat (← e.elements (← pieceArgument "args" args keywords)))
  | .sql => do
      match ← named args keywords ["args"] [] 0 with
      | [some v] => sqlOfValue e v
      | _ => pure (.sql [])
  | .compiled => do
      match ← named args keywords ["sql", "params"] [] 1 with
      | [some sql, params] => do
          let params ← match params with
            | some v => pure v
            | none => Eval.makeList []
          Eval.make (.compiled sql params)
      | _ => Eval.fail .wrongType
  | .error name => do
      let shownArgs ← args.mapM shown
      if keywords.isEmpty then
        pure (.foreign name (name ++ "(" ++ String.intercalate ", " shownArgs ++ ")"))
      else Eval.fail .wrongType
  | _ => Eval.fail .wrongType

end BoundSql.Eval
