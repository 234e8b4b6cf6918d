import BoundSql.Expr.Tree
set_option autoImplicit false

/-!
# Scopes of names

What can be wrong with an expression although its tokens fit together: a parameter or a keyword
argument that occurs twice, a name that is bound where it must not be, a suspension outside a
function, a star outside a display.  A function and a comprehension open a block of their own;
the outermost iterable of a comprehension still belongs to the block around it.

The tree is walked once from left to right, with a stack of blocks that remember how each name was
used in them.  What is refused depends on the order in which names occur, since a name that has been
used in one way may not be bound in certain others behind that.  The result is yes or no; the
wording of a refusal is not kept.
-/

namespace BoundSql.Expr

/-- What opened a block. -/
inductive BlockKind where
  | outermost
  | function
  | comprehension
  deriving DecidableEq, Repr, Inhabited

/-- What a block knows of a name. -/
structure NameMarks where
  id : String
  /-- mentioned in the target of a clause -/
  iteration : Bool := false
  /-- bound in a block further out, by an assignment in this one -/
  outer : Bool := false
  deriving DecidableEq, Repr, Inhabited

/-- A block of names. -/
structure Block where
  kind : BlockKind
  /-- inside the iterable of a clause -/
  inIterable : Bool := false
  /-- inside the target of a clause -/
  inTarget : Bool := false
  /-- something in this block waits -/
  waits : Bool := false
  names : List NameMarks := []
  deriving DecidableEq, Repr, Inhabited

/-- A check with the open blocks, the innermost first. -/
abbrev Check (α : Type) : Type := StateT (List Block) Option α

namespace Scope

def refuse {α : Type} : Check α := fun _ => none

/-- Refuses unless the condition holds. -/
def require (condition : Bool) : Check Unit := if condition then pure () else refuse

/-- Names that cannot be bound. -/
def isReserved (id : String) : Bool := id == "__debug__"

/-- Names that stand for constants, however they are spelled. -/
def isConstantName (id : String) : Bool := id == "None" || id == "True" || id == "False"

/-- The innermost block. -/
def current : Check Block := fun bs =>
  match bs with
  | b :: _ => some (b, bs)
  | [] => none

/-- Changes the innermost block. -/
def modifyCurrent (f : Block → Block) : Check Unit := fun bs =>
  match bs with
  | b :: rest => some ((), f b :: rest)
  | [] => none

/-- The marks of a name in a block. -/
def marksOf (b : Block) (id : String) : NameMarks :=
  (b.names.find? (·.id == id)).getD { id }

/-- A block with other marks for a name. -/
def withMarks (b : Block) (m : NameMarks) : Block :=
  { b with names := m :: b.names.filter (·.id != m.id) }

/-- Notes that a name is mentioned in the innermost block; `outer` says that an assignment of the
block binds it further out.  The target of a clause cannot mention such a name, and whatever it
mentions counts as a name that the clause iterates over. -/
def mention (id : String) (outer : Bool) : Check Unit := do
  let b ← current
  let m := marksOf b id
  let m := { m with outer := m.outer || outer }
  if b.inTarget then
    require (!m.outer)
    modifyCurrent (withMarks · { m with iteration := true })
  else modifyCurrent (withMarks · m)

/-- Some comprehension around an assignment, up to the next function, iterates over the name. -/
def iteratesOver (id : String) : List Block → Bool
  | [] => false
  | b :: rest =>
      b.kind == .comprehension && ((marksOf b id).iteration || iteratesOver id rest)

/-- Runs a check with a flag of the innermost block set, and puts the flag back. -/
def within {α : Type} (enter : Block → Block) (leave : Block → Block → Block) (check : Check α) :
    Check α := do
  let before ← current
  modifyCurrent enter
  let a ← check
  modifyCurrent (leave before)
  pure a

def inIterable {α : Type} (check : Check α) : Check α :=
  within (fun b => { b with inIterable := true })
    (fun before b => { b with inIterable := before.inIterable }) check

def inTarget {α : Type} (check : Check α) : Check α :=
  within (fun b => { b with inTarget := true })
    (fun before b => { b with inTarget := before.inTarget }) check

/-- Runs a check in a new block, and answers with the block as it was left.  A block inside an
iterable counts as inside that iterable as a whole. -/
def inBlock (kind : BlockKind) (check : Check Unit) : Check Block := do
  let outer ← current
  modify ({ kind, inIterable := outer.inIterable } :: ·)
  check
  let b ← current
  modify List.tail
  pure b

/-! ## Visiting a tree -/

/-- Visits the trees of a list. -/
def all (visit : Tree → Check Unit) (ts : List Tree) : Check Unit := ts.forM visit

/-- Visits a tree that may be missing. -/
def optional (visit : Tree → Check Unit) : Option Tree → Check Unit
  | some t => visit t
  | none => pure ()

/-- An item of a display, which may be starred. -/
def item (visit : Tree → Check Unit) : Tree → Check Unit
  | .star t => visit t
  | t => visit t

/-- Whether an item is starred. -/
def isStarred : Tree → Bool
  | .star _ => true
  | _ => false

/-- Only so many items of a target may stand in front of the starred one. -/
def starInReach (items : List Tree) : Bool :=
  !items.any isStarred || (items.takeWhile (!isStarred ·)).length < 256

/-- The target of a clause; the number of steps inwards is bounded by `fuel`. -/
def target (visit : Tree → Check Unit) : (fuel : Nat) → Tree → Check Unit
  | 0, _ => refuse
  | fuel + 1, t =>
      match t with
      | .name id => do
          require (!isReserved id && !isConstantName id)
          mention id false
      | .attribute object field => do
          require (!isReserved field)
          visit object
      | .subscript object index => do
          visit object
          visit index
      | .tuple items | .list items => do
          require (starInReach items)
          items.forM fun
            | .star t => target visit fuel t
            | t => target visit fuel t
      | _ => refuse

/-- An assignment.  None may stand in an iterable, and none may bind what a comprehension around
it iterates over. -/
def assignment (visit : Tree → Check Unit) (id : String) (value : Tree) : Check Unit := do
  let b ← current
  require (!b.inIterable)
  if b.kind = .comprehension then
    require (!iteratesOver id (← get))
    mention id true
  visit value
  require (!isReserved id)
  mention id false

/-- The pieces of a formatted text; the number of steps inwards is bounded by `fuel`. -/
def formatPieces (visit : Tree → Check Unit) : (fuel : Nat) → List FormatPiece → Check Unit
  | 0, pieces => require pieces.isEmpty
  | fuel + 1, pieces => pieces.forM fun
      | .text _ => pure ()
      | .field value _ format => do
          visit value
          formatPieces visit fuel format

/-- The arguments of a call. -/
def callArguments (visit : Tree → Check Unit) (arguments : List CallArgument) : Check Unit := do
  let ids := arguments.filterMap fun
    | .keyword id _ => some id
    | _ => none
  require (ids.all (!isReserved ·) && decide ids.Nodup)
  arguments.forM fun
    | .positional t | .starred t => visit t
    | _ => pure ()
  arguments.forM fun
    | .keyword _ t | .doubleStarred t => visit t
    | _ => pure ()

/-- A function: default values belong to the block around it. -/
def function (visit : Tree → Check Unit) (parameters : List Parameter) (body : Tree) :
    Check Unit := do
  parameters.forM fun
    | .mk _ _ default => optional visit default
  let ids := parameters.map fun
    | .mk _ id _ => id
  require (ids.all (!isReserved ·) && decide ids.Nodup)
  let _ ← inBlock .function (visit body)

/-- A clause of a comprehension inside its block; the first one has its iterable outside. -/
def clause (visit : Tree → Check Unit) (fuel : Nat) (isFirst : Bool) : Clause → Check Unit
  | .mk isAsync t iterable conditions => do
      inTarget (target visit fuel t)
      unless isFirst do inIterable (visit iterable)
      all visit conditions
      if isAsync then modifyCurrent fun b => { b with waits := true }

/-- How many clauses of one comprehension may wait for their elements. -/
def waitingClauseLimit : Nat := 20

/-- A comprehension.  Unless it is a generator, one that waits has to stand in another one. -/
def comprehension (visit : Tree → Check Unit) (fuel : Nat) (kind : ComprehensionKind)
    (element : Tree) (clauses : List Clause) : Check Unit := do
  match clauses with
  | [] => refuse
  | first :: rest =>
      let .mk _ _ iterable _ := first
      let waiting := clauses.countP fun
        | .mk isAsync _ _ _ => isAsync
      require (decide (waiting ≤ waitingClauseLimit))
      inIterable (visit iterable)
      let b ← inBlock .comprehension (do
        clause visit fuel true first
        rest.forM (clause visit fuel false)
        match kind, element with
        | .dict, .tuple [key, value] => do
            visit value
            visit key
        | _, t => visit t)
      if b.waits && kind != .generator then
        let outer ← current
        require (outer.kind = .comprehension)
        modifyCurrent fun b => { b with waits := true }

/-- Visits one tree, given how to visit its parts. -/
def visitWith (visit : Tree → Check Unit) (fuel : Nat) : Tree → Check Unit
  | .const _ => pure ()
  | .name id => do
      require (!isConstantName id)
      mention id false
  | .attribute object _ => visit object
  | .subscript object index => do
      visit object
      visit index
  | .slice start stop step => do
      optional visit start
      optional visit stop
      optional visit step
  | .call f arguments => do
      visit f
      callArguments visit arguments
  | .unary _ t | .not t => visit t
  | .binary _ l r => do
      visit l
      visit r
  | .compare first rest => do
      visit first
      rest.forM fun
        | .mk _ right => visit right
  | .conjunction ts | .disjunction ts => all visit ts
  | .conditional test yes no => do
      visit test
      visit yes
      visit no
  | .lambda parameters body => function visit parameters body
  | .assign id value => assignment visit id value
  | .tuple ts | .list ts | .set ts => ts.forM (item visit)
  | .dict entries => entries.forM fun
      | .pair key value => do
          visit key
          visit value
      | .merge mapping => visit mapping
  | .star _ => refuse
  | .comprehension kind element clauses => comprehension visit fuel kind element clauses
  | .formatted pieces => formatPieces visit 3 pieces
  | .yield value => do
      optional visit value
      require ((← current).kind = .function)
  | .yieldFrom t => do
      visit t
      require ((← current).kind = .function)
  | .await t => do
      visit t
      require ((← current).kind = .comprehension)
      modifyCurrent fun b => { b with waits := true }

/-- Visits a tree of at most the given depth. -/
def visit : (depth : Nat) → Tree → Check Unit
  | 0 => fun _ => refuse
  | depth + 1 => visitWith (visit depth) (depth + 1)

end Scope

/-- Whether the scopes of a tree of at most the given depth are in order. -/
def Tree.scopesInOrder (depth : Nat) (t : Tree) : Bool :=
  ((Scope.visit depth t).run [{ kind := .outermost }]).isSome

end BoundSql.Expr
