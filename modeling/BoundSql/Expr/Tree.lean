import BoundSql.Expr.Token
set_option autoImplicit false

/-!
# Expressions

The tree of an expression as its reader builds it.  Displays, calls and comprehensions keep the
order in which they were written, which is the order in which they are evaluated.

Parts that are no expressions by themselves, such as clauses, arguments and replacement fields, are
types with a parameter for the expressions in them, so that `Tree` is one inductive type and
functions over it go through lists of these parts.  The questions that scopes and evaluation ask of
a whole tree stand here too: which names it assigns, whether it yields or waits, and whether it is a
constant.
-/

namespace BoundSql.Expr

inductive UnaryOp where
  | negate
  | plus
  | invert
  deriving DecidableEq, Repr, Inhabited

inductive BinaryOp where
  | add | sub | mul | div | floorDiv | mod | pow | matMul
  | bitAnd | bitOr | bitXor | shiftLeft | shiftRight
  deriving DecidableEq, Repr, Inhabited

inductive CompareOp where
  | eq | ne | lt | le | gt | ge | is | isNot | isIn | notIn
  deriving DecidableEq, Repr, Inhabited

/-- Which collection a comprehension builds. -/
inductive ComprehensionKind where
  | list | set | dict | generator
  deriving DecidableEq, Repr, Inhabited

/-- How a replacement field turns its value into text before formatting it. -/
inductive Conversion where
  | none | str | repr | ascii
  deriving DecidableEq, Repr, Inhabited

/-- How a parameter of a function takes its argument. -/
inductive ParameterKind where
  | positionalOnly
  | plain
  /-- takes all further positional arguments -/
  | rest
  | keywordOnly
  /-- takes all further keyword arguments -/
  | keywords
  deriving DecidableEq, Repr, Inhabited

mutual

/-- An expression. -/
inductive Tree where
  | const (value : Constant)
  | name (id : String)
  | attribute (object : Tree) (field : String)
  | subscript (object index : Tree)
  | slice (start stop step : Option Tree)
  | call (function : Tree) (arguments : List CallArgument)
  | unary (op : UnaryOp) (operand : Tree)
  | not (operand : Tree)
  | binary (op : BinaryOp) (left right : Tree)
  | compare (first : Tree) (rest : List Comparison)
  | conjunction (operands : List Tree)
  | disjunction (operands : List Tree)
  | conditional (test yes no : Tree)
  | lambda (parameters : List Parameter) (body : Tree)
  /-- binds a name and has the value that the name is bound to -/
  | assign (id : String) (value : Tree)
  | tuple (items : List Tree)
  | list (items : List Tree)
  | set (items : List Tree)
  | dict (entries : List DictEntry)
  /-- an item that stands for the elements of a collection -/
  | star (collection : Tree)
  /-- in a dictionary comprehension the element is the pair of key and value -/
  | comprehension (kind : ComprehensionKind) (element : Tree) (clauses : List Clause)
  | formatted (pieces : List FormatPiece)
  | yield (value : Option Tree)
  | yieldFrom (iterable : Tree)
  | await (operand : Tree)

/-- An argument of a call. -/
inductive CallArgument where
  | positional (value : Tree)
  | keyword (id : String) (value : Tree)
  | starred (collection : Tree)
  | doubleStarred (mapping : Tree)

/-- An operator of a chain of comparisons with its right operand. -/
inductive Comparison where
  | mk (op : CompareOp) (right : Tree)

/-- A parameter of a function. -/
inductive Parameter where
  | mk (kind : ParameterKind) (id : String) (default : Option Tree)

/-- An entry of a dictionary display. -/
inductive DictEntry where
  | pair (key value : Tree)
  | merge (mapping : Tree)

/-- A clause of a comprehension with its conditions. -/
inductive Clause where
  | mk (isAsync : Bool) (target iterable : Tree) (conditions : List Tree)

/-- A piece of a formatted text: literal text, or a replacement field with the pieces of its
format. -/
inductive FormatPiece where
  | text (value : Text)
  | field (value : Tree) (conversion : Conversion) (format : List FormatPiece)

end

deriving instance Repr, Inhabited for Tree
instance : Inhabited CallArgument := ⟨.positional default⟩
instance : Inhabited Clause := ⟨.mk false default default []⟩

/-! ## Parts of trees -/

/-- The value of an argument. -/
def CallArgument.value : CallArgument → Tree
  | positional t | keyword _ t | starred t | doubleStarred t => t

/-- The trees of a clause. -/
def Clause.trees : Clause → List Tree
  | mk _ target iterable conditions => target :: iterable :: conditions

/-- The iterable of a clause. -/
def Clause.iterable : Clause → Tree
  | mk _ _ iterable _ => iterable

/-- Whether a clause waits for its elements. -/
def Clause.isAsync : Clause → Bool
  | mk isAsync _ _ _ => isAsync

/-- The trees of a piece of a formatted text, its format included. -/
def FormatPiece.trees : FormatPiece → List Tree
  | text _ => []
  | field t _ format => t :: format.flatMap fun
      | .text _ => []
      | .field t _ _ => [t]

/-- The trees directly inside a tree, except for the body of a function. -/
def Tree.parts : Tree → List Tree
  | .const _ | .name _ => []
  | .attribute t _ | .unary _ t | .not t | .star t | .yieldFrom t | .await t | .assign _ t => [t]
  | .subscript t index => [t, index]
  | .slice a b c => a.toList ++ b.toList ++ c.toList
  | .call f arguments => f :: arguments.map CallArgument.value
  | .binary _ l r => [l, r]
  | .compare first rest => first :: rest.map fun
      | .mk _ t => t
  | .conjunction ts | .disjunction ts | .tuple ts | .list ts | .set ts => ts
  | .conditional a b c => [a, b, c]
  | .lambda parameters _ => parameters.flatMap fun
      | .mk _ _ default => default.toList
  | .dict entries => entries.flatMap fun
      | .pair k v => [k, v]
      | .merge t => [t]
  | .comprehension _ element clauses => element :: clauses.flatMap Clause.trees
  | .formatted pieces => pieces.flatMap FormatPiece.trees
  | .yield t => t.toList

/-- Whether a tree has the same value wherever it stands; `fuel` bounds the depth of the tree. -/
def Tree.isConstantWithin : (fuel : Nat) → Tree → Bool
  | 0, _ => false
  | fuel + 1, t =>
      match t with
      | .const _ => true
      | .unary _ t | .not t => isConstantWithin fuel t
      | .binary _ l r => isConstantWithin fuel l && isConstantWithin fuel r
      | .tuple ts => ts.all (isConstantWithin fuel)
      | _ => false

/-- How deep a tree is searched. -/
def Tree.searchDepth : Nat := 10000

/-- The names that assignments inside a tree bind, those in functions inside it left out; `fuel`
bounds the depth of the search. -/
def Tree.namesAssigned : (fuel : Nat) → Tree → List String
  | 0, _ => []
  | fuel + 1, t =>
      let inner := t.parts.flatMap (namesAssigned fuel)
      match t with
      | .assign id _ => id :: inner
      | _ => inner

/-- Whether a tree yields values, functions inside it left out; `fuel` bounds the depth of the
search. -/
def Tree.yieldsWithin : (fuel : Nat) → Tree → Bool
  | 0, _ => false
  | fuel + 1, t =>
      match t with
      | .yield _ | .yieldFrom _ => true
      | t => t.parts.any (yieldsWithin fuel)

/-- Whether a tree waits for something, generators and functions inside it left out; `fuel` bounds
the depth of the search. -/
def Tree.waitsWithin : (fuel : Nat) → Tree → Bool
  | 0, _ => false
  | fuel + 1, t =>
      match t with
      | .await _ => true
      | .comprehension .generator _ clauses =>
          (clauses.head?.map Clause.iterable).any (waitsWithin fuel)
      | .comprehension _ element clauses =>
          clauses.any Clause.isAsync || waitsWithin fuel element
            || (clauses.flatMap Clause.trees).any (waitsWithin fuel)
      | t => t.parts.any (waitsWithin fuel)

/-- Whether a tree has the same value wherever it stands. -/
def Tree.isConstant (t : Tree) : Bool := t.isConstantWithin searchDepth

/-- The names that assignments inside a tree bind. -/
def Tree.assignedNames (t : Tree) : List String := t.namesAssigned searchDepth

/-- Whether a tree yields values. -/
def Tree.yields (t : Tree) : Bool := t.yieldsWithin searchDepth

/-- Whether a generator with the given element and clauses waits for something; its first iterable
is evaluated outside of it. -/
def generatorWaits (element : Tree) (clauses : List Clause) : Bool :=
  let inside := match clauses with
    | [] => []
    | .mk _ target _ conditions :: rest => target :: conditions ++ rest.flatMap Clause.trees
  clauses.any Clause.isAsync || (element :: inside).any (Tree.waitsWithin Tree.searchDepth)

end BoundSql.Expr
