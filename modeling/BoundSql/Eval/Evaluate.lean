import BoundSql.Eval.Builtin
import BoundSql.Expr.Pattern
set_option autoImplicit false

/-!
# Evaluating expressions

The value of an expression where names have values.  Operands are evaluated from left to right,
each of them once, and only if they are needed.

There is one function for each kind of expression, and `evaluate` chooses among them.  They are
written against an engine for the level below, and `engineOf` puts a number of levels on top of each
other; `levelLimit` of them is what evaluation starts with.

What an expression does besides having a value is to change the store: it assigns names in its
frame, moves iterators on and changes collections.  A failure keeps these changes.  Conjunctions,
conditionals and chains of comparisons stop as soon as their value is known, so that what stands
behind is not evaluated.
-/

namespace BoundSql.Eval

open BoundSql.Value
open BoundSql.Expr (BinaryOp CallArgument Clause CompareOp Comparison ComprehensionKind Constant
  Conversion DictEntry FormatPiece Parameter ParameterKind Tree generatorWaits)

/-- The value of a constant. -/
def constantValue : Constant → Val
  | .none => .none
  | .ellipsis => .ellipsis
  | .bool b => .bool b
  | .int n => .int n
  | .float x => .float x
  | .imaginary x => .complex 0 x
  | .str s => .str s
  | .bytes bs => .bytes bs

/-- The value of an expression that may be missing. -/
def optionalValue (e : Engine) (env : Env) : Option Tree → Eval Val
  | some t => e.eval env t
  | none => pure .none

/-! ## Collections -/

/-- The values of the items of a display; a star stands for the elements of its collection. -/
def itemValues (e : Engine) (env : Env) (ts : List Tree) : Eval (List Val) := do
  let groups ← ts.mapM fun
    | .star t => do e.elements (← e.eval env t)
    | t => do pure [← e.eval env t]
  pure groups.flatten

/-- The most items of a display that are evaluated before the first of them is put in. -/
def itemsAtOnce : Nat := 30

/-- The value of a set display.  Constants make a set of their own first, which is put together
twice; few items without a star are all evaluated before the first of them is put in. -/
def setValue (e : Engine) (env : Env) (ts : List Tree) : Eval Val := do
  let t ←
    if 2 < ts.length && ts.all Tree.isConstant then do
      Slots.merged {} (← constantSlots (← itemValues e env ts))
    else if ts.length ≤ itemsAtOnce && !ts.any isStar then do
      Slots.addAll {} (← itemValues e env ts)
    else
      match ts.span (fun t => ts.length ≤ itemsAtOnce && !isStar t) with
      | (front, rest) => do
          let t ← Slots.addAll {} (← itemValues e env front)
          addItems t rest
  Eval.make (.set false t)
where
  /-- Puts items in as they are evaluated. -/
  addItems (t : Slots) : List Tree → Eval Slots
    | [] => pure t
    | .star c :: rest => do
        let v ← e.eval env c
        let t ← match ← sourceOf v with
          | .set u => t.merged u
          | .keys ks => (t.reserved ks.length).addAll ks
          | .other => e.fold v t fun t w => do pure (.yield (← t.add w))
        addItems t rest
    | item :: rest => do addItems (← t.add (← e.eval env item)) rest

/-- The entries of a mapping that is merged into another one. -/
def mappingEntries (v : Val) : Eval (List (Val × Val)) := do
  pure (← Eval.orFail .wrongType (← asEntries? v)).toList

/-- The most pairs of a dictionary display that are evaluated before the first of them is put
in. -/
def pairsAtOnce : Nat := 15

/-- Entries with those of pairs of a dictionary display. -/
def withPairs (e : Engine) (env : Env) (entries : Entries) (pairs : List (Tree × Tree)) :
    Eval Entries := do
  let pair (p : Tree × Tree) : Eval (Val × Val) := do
    let k ← e.eval env p.1
    pure (k, ← e.eval env p.2)
  if pairs.length ≤ pairsAtOnce then insertEntries entries (← pairs.mapM pair)
  else
    pairs.foldlM (fun (entries : Entries) p => do
      let (k, v) ← pair p
      insertEntry entries k v) entries

/-- The entries of a dictionary display; `pending` are the pairs since the last ones that were put
in. -/
def displayEntries (e : Engine) (env : Env) (entries : Entries) (pending : List (Tree × Tree)) :
    List DictEntry → Eval Entries
  | [] => withPairs e env entries pending
  | .pair key value :: rest => do
      let pairs := pending ++ [(key, value)]
      if pairsAtOnce < pending.length then
        displayEntries e env (← withPairs e env entries pairs) [] rest
      else displayEntries e env entries pairs rest
  | .merge mapping :: rest => do
      let entries ← withPairs e env entries pending
      let more ← mappingEntries (← e.eval env mapping)
      displayEntries e env (← insertEntries entries more) [] rest

/-- The value of a generator that waits: nothing is known of it but its name.  The elements of a
clause that waits come from another such generator. -/
def waitingGenerator (env : Env) (isAsync : Bool) (iterable : Val) : Eval Val := do
  if isAsync && (← classOf iterable) != .named "async_generator" then Eval.fail .wrongType
  if !isAsync then
    let _ ← iterate iterable
  let name := env.path ++ comprehensionName .generator
  pure (.foreign "async_generator" ("<async_generator object " ++ name ++ " at 0x>"))

/-- The value of a comprehension.  Its first iterable is evaluated where the comprehension
stands. -/
def comprehensionValue (e : Engine) (env : Env) (kind : ComprehensionKind) (element : Tree)
    (clauses : List Clause) : Eval Val := do
  match clauses with
  | [] => Eval.fail .wrongType
  | .mk isAsync _ iterable _ :: _ => do
      let iterable ← iterableValue e env iterable
      if generatorWaits element clauses then waitingGenerator env isAsync iterable
      else
        let g ← startComprehension env kind element clauses (← iterate iterable)
        let all {σ : Type} (f : σ → Val → Eval σ) (s : σ) : Eval σ :=
          Eval.deeper (foldComprehension e g f stepLimit g.active s)
        match kind with
        | .generator => Eval.make (.iterator (.generator g))
        | .list => do
            Eval.make (.list (← all (fun (acc : Array Val) v => pure (acc.push v)) #[]))
        | .set => do Eval.make (.set false (← all Slots.add {}))
        | .dict => do
            let add (entries : Entries) (v : Val) : Eval Entries :=
              match v with
              | .tuple [k, w] => insertEntry entries k w
              | _ => Eval.fail .wrongType
            Eval.make (.dict (← all add #[]))

/-! ## Calls -/

/-- Keyword arguments while they are put together; those of a mapping may have any keys. -/
abbrev KeywordEntries : Type := List (Val × Val)

/-- Keyword arguments with more of them; none may be given twice. -/
def withKeywords (given more : KeywordEntries) : Eval KeywordEntries := do
  let repeated ← anyElement (fun k => anyElement (sameElement k) (given.map (·.1)))
    (more.map (·.1))
  if repeated then Eval.fail .wrongType else pure (given ++ more)

/-- The keyword arguments of a call; `pending` are those behind the last mapping. -/
def keywordValues (e : Engine) (env : Env) (given pending : KeywordEntries) :
    List CallArgument → Eval KeywordEntries
  | [] => withKeywords given pending
  | .keyword id t :: rest => do
      let v ← e.eval env t
      keywordValues e env given (pending ++ [(.str id, v)]) rest
  | .doubleStarred t :: rest => do
      let given ← withKeywords given pending
      let given ← withKeywords given (← mappingEntries (← e.eval env t))
      keywordValues e env given [] rest
  | _ :: rest => keywordValues e env given pending rest

/-- Whether an argument is given by position. -/
def isPositional : CallArgument → Bool
  | .positional _ | .starred _ => true
  | _ => false

/-- The arguments of a call.  A starred collection that is the only positional argument is walked
through when all arguments are evaluated. -/
def argumentValues (e : Engine) (env : Env) (arguments : List CallArgument) :
    Eval (List Val × Keywords) := do
  let named (given : KeywordEntries) : Eval Keywords :=
    given.mapM fun k => do pure (← nameArgument k.1, k.2)
  match arguments.filter isPositional with
  | [.starred t] => do
      let row ← e.eval env t
      let given ← keywordValues e env [] [] arguments
      let args ← e.elements row
      pure (args, ← named given)
  | row => do
      let groups ← row.mapM fun
        | .starred t => do e.elements (← e.eval env t)
        | argument => do pure [← e.eval env argument.value]
      pure (groups.flatten, ← named (← keywordValues e env [] [] arguments))

/-- A function, with the values of its defaults. -/
def functionValue (e : Engine) (env : Env) (parameters : List Parameter) (body : Tree) :
    Eval Val := do
  let parameters ← parameters.mapM fun
    | .mk kind id default => do
        match default with
        | some t => do pure (kind, id, some (← e.eval env t))
        | none => pure (kind, id, none)
  let name := env.path ++ "<lambda>"
  let env ← withTable env
  Eval.make (.function {
    name, parameters, body, assigned := body.assignedNames, yields := body.yields,
    env := { env with path := name ++ ".<locals>." } })

/-! ## Functions that yield -/

/-- Takes down values that the function around an expression yields. -/
def yieldAll (env : Env) (vs : List Val) : Eval Unit := do
  let address ← assignmentFrame env.globals env.frames
  let f ← frameAt address
  Eval.save address (.frame { f with yielded := f.yielded ++ vs.toArray })

/-! ## Comparisons -/

/-- Whether a comparison of two values holds. -/
def compareValues (e : Engine) (op : CompareOp) (v w : Val) : Eval Bool := do
  match op with
  | .eq => equal v w
  | .ne => do pure !(← equal v w)
  | .lt => ordered .lt v w
  | .le => ordered .le v w
  | .gt => ordered .gt v w
  | .ge => ordered .ge v w
  | .is => identical v w
  | .isNot => do pure !(← identical v w)
  | .isIn => e.contains w v
  | .notIn => do pure !(← e.contains w v)

/-- Whether a chain of comparisons holds.  What stands behind one that fails is not evaluated. -/
def chainHolds (e : Engine) (env : Env) (v : Val) : List Comparison → Eval Bool
  | [] => pure true
  | .mk op right :: rest => do
      let w ← e.eval env right
      if ← compareValues e op v w then chainHolds e env w rest else pure false

/-- The first operand that decides, or the last one: an operand that counts as `decisive`
decides. -/
def firstDeciding (e : Engine) (env : Env) (decisive : Bool) : List Tree → Eval Val
  | [] => pure (.bool !decisive)
  | [t] => e.eval env t
  | t :: ts => do
      let v ← e.eval env t
      if (← truth v) == decisive then pure v else firstDeciding e env decisive ts

/-! ## Formatted texts -/

/-- A value turned into text by a conversion. -/
def convertedValue (c : Conversion) (v : Val) : Eval Val := do
  match c with
  | .none => pure v
  | .str => do pure (.str (← textOf v))
  | .repr => do pure (.str (← shown v))
  | .ascii => do pure (.str (asciiOnly (← shown v)))

/-- The text of the pieces of a formatted text.  The format of a field is known before its value is
turned into text; `fuel` bounds how deep formats are nested. -/
def formattedValue (e : Engine) (env : Env) : (fuel : Nat) → List FormatPiece → Eval Text
  | 0, _ => Eval.fail .tooDeep
  | fuel + 1, pieces => do
      let texts ← pieces.mapM fun
        | .text s => pure s
        | .field t conversion format => do
            let v ← e.eval env t
            let format ← formattedValue e env fuel format
            formatValue (← convertedValue conversion v) format
      pure texts.flatten

/-- The pieces of a literal pattern for texts and its items. -/
def patternOf? (op : BinaryOp) (left right : Tree) : Option (List FormatPiece) :=
  match op, left with
  | .mod, .const (.str pattern) => right.patternPieces? pattern
  | _, _ => none

/-! ## Expressions -/

/-- The name that stands for a constant whatever it is bound to. -/
def debugName : String := "__debug__"

/-- The value of an expression. -/
def evaluate (e : Engine) (env : Env) (t : Tree) : Eval Val := do
  match t with
  | .const c => pure (constantValue c)
  | .name id => if id == debugName then pure (.bool true) else lookupName env id
  | .attribute object field => do readAttribute (← e.eval env object) field
  | .subscript object index => do
      let v ← e.eval env object
      readItem v (← e.eval env index)
  | .slice start stop step => do
      let start ← optionalValue e env start
      let stop ← optionalValue e env stop
      pure (.slice start stop (← optionalValue e env step))
  | .call f arguments => do
      let f ← e.eval env f
      let (args, keywords) ← argumentValues e env arguments
      e.call f args keywords
  | .unary op t => do applyUnary op (← e.eval env t)
  | .not t => do pure (.bool !(← truth (← e.eval env t)))
  | .binary op l r => do
      match patternOf? op l r with
      | some pieces => do pure (.str (← formattedValue e env 4 pieces))
      | none => do
          let v ← e.eval env l
          binaryValue e op v (← e.eval env r)
  | .compare first rest => do pure (.bool (← chainHolds e env (← e.eval env first) rest))
  | .conjunction ts => firstDeciding e env false ts
  | .disjunction ts => firstDeciding e env true ts
  | .conditional test yes no => do
      if ← truth (← e.eval env test) then e.eval env yes else e.eval env no
  | .lambda parameters body => functionValue e env parameters body
  | .assign id t => do
      let v ← e.eval env t
      assignName env id v
      pure v
  | .tuple ts => do pure (.tuple (← itemValues e env ts))
  | .list ts => do Eval.makeList (← itemValues e env ts)
  | .set ts => setValue e env ts
  | .dict entries => do Eval.make (.dict (← displayEntries e env #[] [] entries))
  | .comprehension kind element clauses => comprehensionValue e env kind element clauses
  | .formatted pieces => do pure (.str (← formattedValue e env 4 pieces))
  | .yield t => do
      yieldAll env [← optionalValue e env t]
      pure .none
  | .yieldFrom t => do
      yieldAll env (← e.elements (← e.eval env t))
      pure .none
  | .star _ | .await _ => Eval.fail .wrongType

/-! ## Levels -/

/-- The engine one level above another. -/
def Engine.above (e : Engine) : Engine where
  eval := evaluate e
  call := callValue e
  next := nextElement e

/-- The engine of a given level. -/
def engineOf : (level : Nat) → Engine
  | 0 => Engine.exhausted
  | level + 1 => (engineOf level).above

/-- How many levels evaluation may go down.  Each level of an expression takes one, also where no
call is made, so there are more of them than of calls. -/
def levelLimit : Nat := 4000

/-- The engine that expressions are evaluated with. -/
def engine : Engine := engineOf levelLimit

theorem engineOf_succ (level : Nat) : engineOf (level + 1) = (engineOf level).above := rfl

end BoundSql.Eval
