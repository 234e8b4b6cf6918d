import BoundSql.Expr.Formatted
set_option autoImplicit false

/-!
# Reading expressions

A recursive descent over the tokens of a source.  The readers of one level of nesting take the
readers of the next level as an argument (`Readers`), so that no reader calls itself; a source
cannot be nested deeper than its tokens allow, which bounds the number of levels.

The functions follow the grammar rule by rule, from the loosest operator to names and brackets, and
a reader that finds nothing to take leaves the row as it was.  Trees are only built here.  Whether
names may stand where they stand is looked at afterwards, over the whole tree, since it depends on
the block that a name belongs to.
-/

namespace BoundSql.Expr

/-- A step of reading: takes tokens from the front, or refuses. -/
abbrev Reading (α : Type) : Type := StateT (List Token) Option α

namespace Reading

def refuse {α : Type} : Reading α := fun _ => none

/-- The next token, left in place. -/
def peek : Reading (Option Token) := fun ts => some (ts.head?, ts)

/-- Drops the next token. -/
def advance : Reading Unit := fun ts => some ((), ts.tail)

/-- The number of tokens that are left. -/
def remaining : Reading Nat := fun ts => some (ts.length, ts)

def atMark (symbol : String) : Reading Bool := fun ts =>
  match ts with
  | .mark s :: _ => some (s == symbol, ts)
  | _ => some (false, ts)

def atKeyword (word : String) : Reading Bool := fun ts =>
  match ts with
  | .keyword w :: _ => some (w == word, ts)
  | _ => some (false, ts)

/-- The next tokens are a name and the given symbol. -/
def atNameAndMark (symbol : String) : Reading (Option String) := fun ts =>
  match ts with
  | .name id :: .mark s :: _ => some (if s == symbol then some id else none, ts)
  | _ => some (none, ts)

/-- Takes the symbol if it is next. -/
def accept (symbol : String) : Reading Bool := do
  if ← atMark symbol then advance; pure true else pure false

/-- Takes the word if it is next. -/
def acceptKeyword (word : String) : Reading Bool := do
  if ← atKeyword word then advance; pure true else pure false

def expect (symbol : String) : Reading Unit := do
  unless ← accept symbol do refuse

def expectKeyword (word : String) : Reading Unit := do
  unless ← acceptKeyword word do refuse

def name : Reading String := fun ts =>
  match ts with
  | .name id :: rest => some (id, rest)
  | _ => none

/-- Takes all text literals that come next. -/
def texts : Reading (List TextLiteral) := fun ts =>
  some (ts.takeWhile isText |>.filterMap text?, ts.dropWhile isText)
where
  isText : Token → Bool
    | .text _ => true
    | _ => false
  text? : Token → Option TextLiteral
    | .text t => some t
    | _ => none

/-- Repeats a step until it answers with nothing, and after the first time at most once for each
token that is left. -/
def repeated {α : Type} (step : Reading (Option α)) : Reading (List α) := do
  match ← step with
  | some a => return a :: (← go ((← remaining) + 1))
  | none => pure []
where
  go : Nat → Reading (List α)
    | 0 => pure []
    | n + 1 => do
        match ← step with
        | some a => return a :: (← go n)
        | none => pure []

/-- Takes the symbol that comes next if it means something. -/
def acceptSymbol {α : Type} (meaning : String → Option α) : Reading (Option α) := do
  match ← peek with
  | some (.mark s) =>
      let a := meaning s
      if a.isSome then advance
      pure a
  | _ => pure none

/-- Folds operators and their right operands to the left. -/
def leftAssociative (operator : String → Option BinaryOp) (operand : Reading Tree) :
    Reading Tree := do
  let first ← operand
  let rest ← repeated (do
    match ← acceptSymbol operator with
    | some op => return some (op, ← operand)
    | none => pure none)
  pure (rest.foldl (fun left r => .binary r.1 left r.2) first)

end Reading

open Reading

/-- The readers of nested parts. -/
structure Readers where
  expression : Reading Tree
  disjunction : Reading Tree
  inversion : Reading Tree
  bitOr : Reading Tree
  factor : Reading Tree
  primary : Reading Tree
  /-- reads a whole source of its own -/
  source : List Char → Option Tree

namespace Readers

/-! ## Items and targets -/

/-- An expression, or a name with a value that it is bound to. -/
def named (r : Readers) : Reading Tree := do
  match ← atNameAndMark ":=" with
  | some id =>
      advance
      advance
      return .assign id (← r.expression)
  | none => r.expression

/-- An item of a display: a starred collection or a named expression. -/
def starNamed (r : Readers) : Reading Tree := do
  if ← accept "*" then return .star (← r.bitOr) else r.named

def isStar : Tree → Bool
  | .star _ => true
  | _ => false

/-- The items behind the first one, up to and with the closing bracket. -/
def itemsUntil (r : Readers) (close : String) : Reading (List Tree) := do
  let items ← repeated (do
    if ← accept "," then
      if ← atMark close then pure none else return some (← r.starNamed)
    else pure none)
  expect close
  pure items

/-- A tree that a comprehension can bind; targets are nested no deeper than brackets. -/
def isTarget : (fuel : Nat) → Tree → Bool
  | 0, _ => false
  | fuel + 1, t =>
      match t with
      | .name _ | .attribute .. | .subscript .. => true
      | .tuple items | .list items =>
          items.countP isStar ≤ 1 && items.all fun
            | .star (.star _) => false
            | .star t => isTarget fuel t
            | t => isTarget fuel t
      | _ => false

/-- One target of a comprehension. -/
def target (r : Readers) : Reading Tree := do
  let starred ← accept "*"
  let t ← r.primary
  if isTarget (nestingLimit + 1) t then pure (if starred then .star t else t) else refuse

/-- The targets of a clause: one, or several with commas between them. -/
def targets (r : Readers) : Reading Tree := do
  let first ← r.target
  if ← atMark "," then
    let rest ← repeated (do
      if ← accept "," then
        if ← atKeyword "in" then pure none else return some (← r.target)
      else pure none)
    let items := first :: rest
    if items.countP isStar ≤ 1 then pure (.tuple items) else refuse
  else if isStar first then refuse
  else pure first

/-! ## Comprehensions -/

/-- A comprehension clause comes next. -/
def atClause : Reading Bool := do
  if ← atKeyword "for" then pure true else atKeyword "async"

def clause (r : Readers) : Reading Clause := do
  let isAsync ← acceptKeyword "async"
  expectKeyword "for"
  let target ← r.targets
  expectKeyword "in"
  let iterable ← r.disjunction
  let conditions ← repeated (do
    if ← acceptKeyword "if" then return some (← r.disjunction) else pure none)
  pure (.mk isAsync target iterable conditions)

def clauses (r : Readers) : Reading (List Clause) :=
  repeated (do if ← atClause then return some (← r.clause) else pure none)

/-- The clauses behind an element, up to and with the closing bracket. -/
def comprehension (r : Readers) (kind : ComprehensionKind) (element : Tree) (close : String) :
    Reading Tree := do
  if isStar element then refuse
  else
    let clauses ← r.clauses
    expect close
    pure (.comprehension kind element clauses)

/-! ## Displays -/

/-- What follows the keyword `yield`. -/
def yielded (r : Readers) : Reading Tree := do
  if ← acceptKeyword "from" then return .yieldFrom (← r.expression)
  else if ← atMark ")" then pure (.yield none)
  else
    let item : Reading Tree := do
      if ← accept "*" then return .star (← r.bitOr) else r.expression
    let first ← item
    if ← atMark "," then
      let rest ← repeated (do
        if ← accept "," then
          if ← atMark ")" then pure none else return some (← item)
        else pure none)
      pure (.yield (some (.tuple (first :: rest))))
    else pure (.yield (some first))

/-- What follows an opening parenthesis that begins an atom. -/
def parenthesized (r : Readers) : Reading Tree := do
  if ← accept ")" then pure (.tuple [])
  else if ← acceptKeyword "yield" then
    let t ← r.yielded
    expect ")"
    pure t
  else
    let first ← r.starNamed
    if ← atMark "," then return .tuple (first :: (← r.itemsUntil ")"))
    else if ← atClause then r.comprehension .generator first ")"
    else
      expect ")"
      if isStar first then refuse else pure first

/-- What follows an opening square bracket that begins an atom. -/
def bracketed (r : Readers) : Reading Tree := do
  if ← accept "]" then pure (.list [])
  else
    let first ← r.starNamed
    if ← atClause then r.comprehension .list first "]"
    else return .list (first :: (← r.itemsUntil "]"))

/-- An entry of a dictionary display. -/
def dictEntry (r : Readers) : Reading DictEntry := do
  if ← accept "**" then return .merge (← r.bitOr)
  else
    let key ← r.expression
    expect ":"
    return .pair key (← r.expression)

/-- The entries behind the first one, up to and with the closing brace. -/
def entriesUntil (r : Readers) : Reading (List DictEntry) := do
  let entries ← repeated (do
    if ← accept "," then
      if ← atMark "\x7d" then pure none else return some (← r.dictEntry)
    else pure none)
  expect "\x7d"
  pure entries

/-- What follows an opening brace. -/
def braced (r : Readers) : Reading Tree := do
  if ← accept "\x7d" then pure (.dict [])
  else if ← atMark "**" then
    let first ← r.dictEntry
    return .dict (first :: (← r.entriesUntil))
  else
    let isAssignment := (← atNameAndMark ":=").isSome
    let first ← r.starNamed
    if ← atMark ":" then
      if isAssignment || isStar first then refuse
      else
        advance
        let value ← r.expression
        if ← atClause then r.comprehension .dict (.tuple [first, value]) "\x7d"
        else return .dict (.pair first value :: (← r.entriesUntil))
    else if ← atClause then r.comprehension .set first "\x7d"
    else return .set (first :: (← r.itemsUntil "\x7d"))

/-! ## Atoms and what may follow them -/

/-- The constant that a reserved word stands for. -/
def wordAtom (word : String) : Reading Tree :=
  match word with
  | "None" => pure (.const .none)
  | "True" => pure (.const (.bool true))
  | "False" => pure (.const (.bool false))
  | _ => refuse

/-- What text literals one behind the other stand for. -/
def textAtom (r : Readers) (literals : List TextLiteral) : Reading Tree :=
  match joinLiterals r.source literals with
  | some t => pure t
  | none => refuse

/-- What follows a symbol that begins an atom. -/
def symbolAtom (r : Readers) (symbol : String) : Reading Tree :=
  match symbol with
  | "(" => r.parenthesized
  | "[" => r.bracketed
  | "\x7b" => r.braced
  | "..." => pure (.const .ellipsis)
  | _ => refuse

def atom (r : Readers) : Reading Tree := do
  match ← peek with
  | some (.name id) =>
      advance
      pure (.name id)
  | some (.number c) =>
      advance
      pure (.const c)
  | some (.text _) => do r.textAtom (← texts)
  | some (.keyword w) =>
      advance
      wordAtom w
  | some (.mark s) =>
      advance
      r.symbolAtom s
  | _ => refuse

/-- How far a list of arguments has come: after a keyword no positional argument may follow, and
after a double star no starred one either. -/
inductive ArgumentPhase where
  | positional
  | keyword
  | mapping
  deriving DecidableEq, Repr, Inhabited

/-- One argument, and the phase behind it. -/
def argument (r : Readers) (phase : ArgumentPhase) : Reading (CallArgument × ArgumentPhase) := do
  if ← accept "**" then return (.doubleStarred (← r.expression), .mapping)
  else if ← accept "*" then
    if phase = .mapping then refuse
    else return (.starred (← r.expression), phase)
  else
    match ← atNameAndMark "=" with
    | some id =>
        advance
        advance
        let value ← r.expression
        pure (.keyword id value, if phase = .mapping then .mapping else .keyword)
    | none =>
        if phase = .positional then return (.positional (← r.named), .positional) else refuse

/-- The arguments up to and with the closing parenthesis, at most `fuel` of them. -/
def argumentsFrom (r : Readers) : (fuel : Nat) → ArgumentPhase → Reading (List CallArgument)
  | 0, _ => refuse
  | fuel + 1, phase => do
      if ← accept ")" then pure []
      else
        let (first, phase) ← r.argument phase
        if ← accept "," then return first :: (← argumentsFrom r fuel phase)
        else
          expect ")"
          pure [first]

/-- The arguments of a call behind its opening parenthesis.  A generator may be the sole argument
without parentheses of its own. -/
def arguments (r : Readers) : Reading (List CallArgument) := do
  if ← accept ")" then pure []
  else
    let (first, phase) ← r.argument .positional
    match first, (← atClause) with
    | .positional element, true => return [.positional (← r.comprehension .generator element ")")]
    | _, true => refuse
    | _, false =>
        if ← accept "," then return first :: (← argumentsFrom r (← remaining) phase)
        else
          expect ")"
          pure [first]

/-- A bound of a slice, which may be missing. -/
def sliceBound (r : Readers) : Reading (Option Tree) := do
  if (← atMark ":") || (← atMark ",") || (← atMark "]") then pure none
  else return some (← r.expression)

/-- What follows the first colon of a slice. -/
def sliceFrom (r : Readers) (start : Option Tree) : Reading Tree := do
  let stop ← r.sliceBound
  if ← accept ":" then return .slice start stop (← r.sliceBound)
  else pure (.slice start stop none)

/-- One item between the brackets of a subscript. -/
def sliceItem (r : Readers) : Reading Tree := do
  if ← accept "*" then return .star (← r.expression)
  else if ← accept ":" then r.sliceFrom none
  else
    let isAssignment := (← atNameAndMark ":=").isSome
    let first ← r.named
    if ← atMark ":" then
      if isAssignment then refuse
      else
        advance
        r.sliceFrom (some first)
    else pure first

/-- The index behind the opening bracket of a subscript; several items, or a starred one, are a
tuple. -/
def subscriptIndex (r : Readers) : Reading Tree := do
  let first ← r.sliceItem
  if ← atMark "," then
    let rest ← repeated (do
      if ← accept "," then
        if ← atMark "]" then pure none else return some (← r.sliceItem)
      else pure none)
    expect "]"
    pure (.tuple (first :: rest))
  else
    expect "]"
    pure (if isStar first then .tuple [first] else first)

/-- The accesses behind an atom, at most `fuel` of them. -/
def accesses (r : Readers) : (fuel : Nat) → Tree → Reading Tree
  | 0, t => pure t
  | fuel + 1, t => do
      if ← accept "." then
        let field ← Reading.name
        accesses r fuel (.attribute t field)
      else if ← accept "(" then
        let arguments ← r.arguments
        accesses r fuel (.call t arguments)
      else if ← accept "[" then
        let index ← r.subscriptIndex
        accesses r fuel (.subscript t index)
      else pure t

/-- An access comes next. -/
def atAccess : Reading Bool := do
  if (← atMark ".") || (← atMark "(") then pure true else atMark "["

def primaryHere (r : Readers) : Reading Tree := do
  let first ← r.atom
  if ← atAccess then r.accesses (← remaining) first else pure first

/-! ## Operators -/

def powerHere (r : Readers) : Reading Tree := do
  let base ← (do
    if ← acceptKeyword "await" then return .await (← r.primaryHere) else r.primaryHere)
  if ← accept "**" then return .binary .pow base (← r.factor) else pure base

def factorHere (r : Readers) : Reading Tree := do
  if ← accept "-" then return .unary .negate (← r.factor)
  else if ← accept "+" then return .unary .plus (← r.factor)
  else if ← accept "~" then return .unary .invert (← r.factor)
  else r.powerHere

def termHere (r : Readers) : Reading Tree :=
  leftAssociative (fun
    | "*" => some .mul
    | "/" => some .div
    | "//" => some .floorDiv
    | "%" => some .mod
    | "@" => some .matMul
    | _ => none) r.factorHere

def sumHere (r : Readers) : Reading Tree :=
  leftAssociative (fun
    | "+" => some .add
    | "-" => some .sub
    | _ => none) r.termHere

def shiftHere (r : Readers) : Reading Tree :=
  leftAssociative (fun
    | "<<" => some .shiftLeft
    | ">>" => some .shiftRight
    | _ => none) r.sumHere

def bitAndHere (r : Readers) : Reading Tree :=
  leftAssociative (fun s => if s = "&" then some .bitAnd else none) r.shiftHere

def bitXorHere (r : Readers) : Reading Tree :=
  leftAssociative (fun s => if s = "^" then some .bitXor else none) r.bitAndHere

def bitOrHere (r : Readers) : Reading Tree :=
  leftAssociative (fun s => if s = "|" then some .bitOr else none) r.bitXorHere

/-- The comparison operator that a symbol stands for. -/
def comparisonSymbol? (symbol : String) : Option CompareOp :=
  match symbol with
  | "==" => some .eq
  | "!=" => some .ne
  | "<" => some .lt
  | "<=" => some .le
  | ">" => some .gt
  | ">=" => some .ge
  | _ => none

/-- The comparison operator that comes next, taken. -/
def comparisonOperator : Reading (Option CompareOp) := do
  match ← acceptSymbol comparisonSymbol? with
  | some op => pure (some op)
  | none =>
      if ← acceptKeyword "in" then pure (some .isIn)
      else if ← acceptKeyword "not" then
        expectKeyword "in"
        pure (some .notIn)
      else if ← acceptKeyword "is" then
        if ← acceptKeyword "not" then pure (some .isNot) else pure (some .is)
      else pure none

def comparisonHere (r : Readers) : Reading Tree := do
  let first ← r.bitOrHere
  let rest ← repeated (do
    match ← comparisonOperator with
    | some op => return some (.mk op (← r.bitOrHere))
    | none => pure none)
  pure (if rest.isEmpty then first else .compare first rest)

def inversionHere (r : Readers) : Reading Tree := do
  if ← acceptKeyword "not" then return .not (← r.inversion) else r.comparisonHere

/-- Operands with a word between them; a single operand stands for itself. -/
def connected (word : String) (join : List Tree → Tree) (operand : Reading Tree) :
    Reading Tree := do
  let first ← operand
  let rest ← repeated (do
    if ← acceptKeyword word then return some (← operand) else pure none)
  pure (if rest.isEmpty then first else join (first :: rest))

def conjunctionHere (r : Readers) : Reading Tree :=
  connected "and" .conjunction r.inversionHere

def disjunctionHere (r : Readers) : Reading Tree :=
  connected "or" .disjunction r.conjunctionHere

/-! ## Functions -/

/-- What the parameters read so far say about those that may follow. -/
structure ParameterState where
  /-- a single slash has been read -/
  slash : Bool := false
  /-- a star has been read -/
  star : Bool := false
  /-- a star without a name has been read, and no parameter behind it yet -/
  bareStar : Bool := false
  /-- a parameter with a default value has been read -/
  default : Bool := false
  deriving DecidableEq, Repr, Inhabited

/-- A comma, or the colon that ends the parameters, which is left in place. -/
def parameterEnd : Reading Unit := do
  if ← accept "," then pure ()
  else if ← atMark ":" then pure ()
  else refuse

/-- A parameter whose place lets it be named only. -/
def positionalOnly : Parameter → Parameter
  | .mk _ id default => .mk .positionalOnly id default

/-- The parameters up to the colon, in reverse behind `done`, at most `fuel` of them. -/
def parametersFrom (r : Readers) :
    (fuel : Nat) → ParameterState → (done : List Parameter) → Reading (List Parameter)
  | 0, _, _ => refuse
  | fuel + 1, s, done => do
      if ← atMark ":" then
        if s.bareStar then refuse else pure done.reverse
      else if ← accept "/" then
        if s.slash || s.star || done.isEmpty then refuse
        else
          parameterEnd
          parametersFrom r fuel { s with slash := true } (done.map positionalOnly)
      else if ← accept "**" then
        if s.bareStar then refuse
        else
          let id ← Reading.name
          parameterEnd
          if ← atMark ":" then pure (.mk .keywords id none :: done).reverse else refuse
      else if ← accept "*" then
        if s.star then refuse
        else if ← accept "," then
          parametersFrom r fuel { s with star := true, bareStar := true } done
        else
          let id ← Reading.name
          parameterEnd
          parametersFrom r fuel { s with star := true } (.mk .rest id none :: done)
      else
        let id ← Reading.name
        let value ← (do if ← accept "=" then return some (← r.expression) else pure none)
        parameterEnd
        if s.star then
          parametersFrom r fuel { s with bareStar := false } (.mk .keywordOnly id value :: done)
        else if s.default && value.isNone then refuse
        else
          parametersFrom r fuel { s with default := s.default || value.isSome }
            (.mk .plain id value :: done)

def expressionHere (r : Readers) : Reading Tree := do
  if ← acceptKeyword "lambda" then
    let parameters ← parametersFrom r (← remaining) {} []
    expect ":"
    return .lambda parameters (← r.expression)
  else
    let first ← r.disjunctionHere
    if ← acceptKeyword "if" then
      let test ← r.disjunction
      expectKeyword "else"
      return .conditional test first (← r.expression)
    else pure first

/-! ## Levels -/

/-- Expressions with commas between them, up to the end of the source. -/
def whole (r : Readers) : Reading Tree := do
  let first ← r.expressionHere
  let t ← (do
    if ← atMark "," then
      let rest ← repeated (do
        if ← accept "," then
          match ← peek with
          | some .newline | none => pure none
          | _ => return some (← r.expressionHere)
        else pure none)
      pure (.tuple (first :: rest))
    else pure first)
  let _ ← repeated (do
    match ← peek with
    | some .newline => advance; pure (some ())
    | _ => pure none)
  if (← remaining) = 0 then pure t else refuse

/-- The tree of a source that is read from the outermost level on. -/
def readSource (r : Readers) (source : List Char) : Option Tree := do
  let ts ← tokens source
  let (t, _) ← r.whole.run ts
  some t

/-- The readers of the level around the given one. -/
def around (r : Readers) : Readers where
  expression := r.expressionHere
  disjunction := r.disjunctionHere
  inversion := r.inversionHere
  bitOr := r.bitOrHere
  factor := r.factorHere
  primary := r.primaryHere
  source := r.readSource

/-- Readers for sources that are nested at most `depth` levels deep. -/
def ofDepth : (depth : Nat) → Readers
  | 0 => ⟨refuse, refuse, refuse, refuse, refuse, refuse, fun _ => none⟩
  | depth + 1 => (ofDepth depth).around

end Readers

/-- The tree of a row of tokens, without regard to the scopes of its names. -/
def readTokens (ts : List Token) : Option Tree := do
  let (t, _) ← (Readers.ofDepth (levelBound ts)).whole.run ts
  some t

end BoundSql.Expr
