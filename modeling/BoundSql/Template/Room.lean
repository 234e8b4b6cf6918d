import BoundSql.Expr.Compile
import BoundSql.Expr.Depth
import BoundSql.Expr.Nesting
import BoundSql.Template.Site
set_option autoImplicit false

/-!
# The room for expressions

Whether a source is an expression is a matter of the language alone, and `Expr.compile` decides it.
Whether that can be found out is not: a source is read by rules that are entered one inside the
other, and its tree is taken apart level by level, on the same call stack that its caller stands on.
How far that goes depends on the caller and on how the interpreter was set up.

So the room is a parameter.  A room says over which sources something runs out, and what; nothing is
assumed about it but that a single name always fits.  What is said of all rooms holds wherever a
template is made.  `Room.behind` is the room that an interpreter leaves behind a number of calls
unless it is told otherwise, and `Room.ample` the room of the language alone, where nothing ever
runs out.
-/

namespace BoundSql.Template

open BoundSql.Expr (Token Tree)

/-- What runs out over the sources of expressions, before it can be told whether they are
expressions. -/
structure Room where
  exhausts : List Char → Option Exhaustion
  /-- a single name always fits -/
  name : ∀ source, source.all isNameChar = true → exhausts source = none

namespace Room

/-- The tree of an acceptable source, as far as there is room for it. -/
def compile (room : Room) (source : List Char) : Verdict Tree :=
  match room.exhausts source with
  | some e => .exhausted e
  | none => .ofOption (Expr.compile source)

/-- Nothing runs out. -/
def ample : Room where
  exhausts _ := none
  name _ _ := rfl

/-- How many rules of the grammar can be entered one inside the other. -/
def rulesLimit : Nat := 6000

/-- How many calls the call stack holds. -/
def stackLimit : Nat := 1000

/-- The tree that a source is read as, whatever becomes of its scopes. -/
def treeOf (source : List Char) : Option Tree := (Expr.tokens source).bind Expr.readTokens

/-- What runs out if trees may have so many levels, over the tokens that are taken from a source and
over its tree if it has one.  Rules are entered while the tokens are taken one by one, so their
memory may run out in front of a part that is no token.  A tree is taken apart before its scopes are
looked at. -/
def exhaustsWithin (levels : Nat) (ahead : List Token) (tree : Option Tree) : Option Exhaustion :=
  if rulesLimit < Expr.rulesOf ahead then some .memory
  else if tree.any (·.isDeeperThan levels) then some .stack
  else none

/-- The room behind so many calls.  The memory for the rules is always the same, and each level of a
tree is one more call. -/
def behind (calls : Nat) : Room where
  exhausts source :=
    if source.all isNameChar then none
    else exhaustsWithin (stackLimit - calls) (Expr.tokensAhead source) (treeOf source)
  name _ h := if_pos h

/-- The room of a scan that is asked for at the top of a program: a few calls stand in front of it.
-/
def standard : Room := behind 16

/-! ## What fits -/

theorem compile_eq_code_iff {room : Room} {source : List Char} {t : Tree} :
    room.compile source = .code t ↔ room.exhausts source = none ∧ Expr.compile source = some t := by
  rw [compile]
  cases room.exhausts source with
  | some e => simp
  | none => cases Expr.compile source <;> simp [Verdict.ofOption]

theorem compile_eq_exhausted_iff {room : Room} {source : List Char} {e : Exhaustion} :
    room.compile source = .exhausted e ↔ room.exhausts source = some e := by
  rw [compile]
  cases room.exhausts source with
  | some e' => simp
  | none => cases Expr.compile source <;> simp [Verdict.ofOption]

theorem ample_compile (source : List Char) :
    ample.compile source = .ofOption (Expr.compile source) := rfl

/-- Another room has room for whatever there is room for. -/
def Within (room roomier : Room) : Prop :=
  ∀ source, room.exhausts source = none → roomier.exhausts source = none

theorem within_ample (room : Room) : room.Within ample := fun _ _ => rfl

/-- Over a source that fits, nothing but the language decides. -/
theorem Within.compile_eq {room roomier : Room} (within : room.Within roomier)
    {source : List Char} (fits : room.exhausts source = none) :
    room.compile source = roomier.compile source := by
  rw [compile, compile, fits, within source fits]

theorem ample_compile_eq_code_iff {source : List Char} {t : Tree} :
    ample.compile source = .code t ↔ Expr.compile source = some t := by
  rw [compile_eq_code_iff]
  exact and_iff_right rfl

/-! ## Fewer calls -/

theorem exhaustsWithin_eq_none_iff {levels : Nat} {ahead : List Token}
    {tree : Option Tree} :
    exhaustsWithin levels ahead tree = none ↔
      Expr.rulesOf ahead ≤ rulesLimit ∧ ∀ t ∈ tree, t.isDeeperThan levels = false := by
  unfold exhaustsWithin
  split
  · next hrules => simp [Nat.not_le.mpr hrules]
  · next hrules => cases tree <;> simp [Nat.le_of_not_lt hrules]

/-- What fits behind some calls fits behind fewer of them. -/
theorem behind_within {calls more : Nat} (h : calls ≤ more) :
    (behind more).Within (behind calls) := by
  intro source fits
  by_cases hname : source.all isNameChar = true
  · exact (behind calls).name source hname
  · have hbehind : ∀ n, (behind n).exhausts source
        = exhaustsWithin (stackLimit - n) (Expr.tokensAhead source) (treeOf source) :=
      fun n => if_neg hname
    rw [hbehind, exhaustsWithin_eq_none_iff] at fits ⊢
    refine ⟨fits.1, fun t ht => ?_⟩
    have hlevels : stackLimit - more ≤ stackLimit - calls := Nat.sub_le_sub_left h _
    rw [Bool.eq_false_iff]
    intro deeper
    exact absurd (Expr.Tree.isDeeperThan_of_le hlevels deeper) (Bool.eq_false_iff.mp (fits.2 t ht))

end Room

end BoundSql.Template
