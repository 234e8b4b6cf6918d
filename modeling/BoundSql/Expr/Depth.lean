import BoundSql.Expr.Tree
set_option autoImplicit false

/-!
# How deep a tree is

A tree is taken apart level by level before it is evaluated, and only so many levels can be entered
one inside the other.  Each part of a tree stands one level further in than the tree; keyword
arguments, clauses, default values and replacement fields are levels of their own.

`levelsWithin` counts levels down to a bound, so that it can be evaluated on trees of any depth, and
`isDeeperThan` is the question that is asked of it.  It is enough to look one level further than a
limit to know whether the limit is kept (`Tree.levelsWithin_le_of_le`), and a tree that is deeper
than a limit is deeper than all smaller ones.  Depth is a property of the tree and not of how the
source is written: brackets that only group leave no trace in a tree.
-/

namespace BoundSql.Expr

/-- Trees that stand so many levels further in than the tree around them. -/
def inward (levels : Nat) (ts : List Tree) : List (Nat × Tree) := ts.map fun t => (levels, t)

/-- The parts of a clause of a comprehension with their levels. -/
def Clause.inner (c : Clause) : List (Nat × Tree) := inward 2 c.trees

/-- The values of an argument with their levels: an argument that is given by position is no level
of its own. -/
def CallArgument.inner : CallArgument → List (Nat × Tree)
  | positional t => [(1, t)]
  | keyword _ t | starred t | doubleStarred t => [(2, t)]

/-- The fields of a piece of a formatted text with their levels. -/
def FormatPiece.inner : FormatPiece → List (Nat × Tree)
  | text _ => []
  | field t _ format => (2, t) :: format.flatMap fun
      | .text _ => []
      | .field t _ _ => [(4, t)]

/-- The parts of a tree with their levels, the body of a function included. -/
def Tree.inner : Tree → List (Nat × Tree)
  | .call f arguments => (1, f) :: arguments.flatMap CallArgument.inner
  | .lambda parameters body => (1, body) :: inward 2 (Tree.lambda parameters body).parts
  | .comprehension .dict (.tuple pair) clauses => inward 1 pair ++ clauses.flatMap Clause.inner
  | .comprehension _ element clauses => (1, element) :: clauses.flatMap Clause.inner
  | .formatted pieces => pieces.flatMap FormatPiece.inner
  | t => inward 1 t.parts

/-- How many levels a tree has; `fuel` bounds the answer for trees that have more. -/
def Tree.levelsWithin : (fuel : Nat) → Tree → Nat
  | 0, _ => 0
  | fuel + 1, t => t.inner.foldl (fun n p => max n (p.1 + levelsWithin fuel p.2)) 1

/-- Whether a tree has more levels than so many. -/
def Tree.isDeeperThan (limit : Nat) (t : Tree) : Bool := limit < t.levelsWithin (limit + 1)

theorem levelsWithin_const (fuel : Nat) (c : Constant) :
    (Tree.const c).levelsWithin (fuel + 1) = 1 := rfl

theorem levelsWithin_name (fuel : Nat) (id : String) :
    (Tree.name id).levelsWithin (fuel + 1) = 1 := rfl

/-! ## Inner parts stand further in -/

theorem one_le_of_mem_inward {levels : Nat} {ts : List Tree} {p : Nat × Tree}
    (hlevels : 1 ≤ levels) (h : p ∈ inward levels ts) : 1 ≤ p.1 := by
  obtain ⟨t, -, rfl⟩ := List.mem_map.mp h
  exact hlevels

theorem Clause.one_le_of_mem_inner {clauses : List Clause} {p : Nat × Tree}
    (h : p ∈ clauses.flatMap Clause.inner) : 1 ≤ p.1 := by
  obtain ⟨c, -, hc⟩ := List.mem_flatMap.mp h
  exact one_le_of_mem_inward (by decide) hc

theorem CallArgument.one_le_of_mem_inner {a : CallArgument} {p : Nat × Tree} (h : p ∈ a.inner) :
    1 ≤ p.1 := by
  cases a <;> simp_all [CallArgument.inner]

theorem FormatPiece.one_le_of_mem_inner {piece : FormatPiece} {p : Nat × Tree}
    (h : p ∈ piece.inner) : 1 ≤ p.1 := by
  cases piece with
  | text s => cases h
  | field t conversion format =>
      rcases List.mem_cons.mp h with rfl | h
      · exact Nat.le_add_left 1 1
      · obtain ⟨inner, -, hinner⟩ := List.mem_flatMap.mp h
        cases inner with
        | text s => cases hinner
        | field u conversion format =>
            rw [List.mem_singleton.mp hinner]
            exact Nat.le_add_left 1 3

theorem Tree.one_le_of_mem_inner {t : Tree} {p : Nat × Tree} (h : p ∈ t.inner) : 1 ≤ p.1 := by
  unfold Tree.inner at h
  split at h
  · rcases List.mem_cons.mp h with rfl | h
    · exact Nat.le_refl 1
    · obtain ⟨a, -, ha⟩ := List.mem_flatMap.mp h
      exact CallArgument.one_le_of_mem_inner ha
  · rcases List.mem_cons.mp h with rfl | h
    · exact Nat.le_refl 1
    · exact one_le_of_mem_inward (by decide) h
  · rcases List.mem_append.mp h with h | h
    · exact one_le_of_mem_inward (Nat.le_refl 1) h
    · exact Clause.one_le_of_mem_inner h
  · rcases List.mem_cons.mp h with rfl | h
    · exact Nat.le_refl 1
    · exact Clause.one_le_of_mem_inner h
  · obtain ⟨piece, -, hpiece⟩ := List.mem_flatMap.mp h
    exact FormatPiece.one_le_of_mem_inner hpiece
  · exact one_le_of_mem_inward (Nat.le_refl 1) h

/-! ## Levels and limits -/

theorem foldl_max_le_iff {α : Type} (f : α → Nat) {l : List α} {start n : Nat} :
    l.foldl (fun m a => max m (f a)) start ≤ n ↔ start ≤ n ∧ ∀ a ∈ l, f a ≤ n := by
  induction l generalizing start with
  | nil => simp
  | cons a l ih => rw [List.foldl_cons, ih, Nat.max_le, List.forall_mem_cons, and_assoc]

theorem Tree.levelsWithin_succ_le_iff {fuel n : Nat} {t : Tree} :
    t.levelsWithin (fuel + 1) ≤ n ↔
      1 ≤ n ∧ ∀ p ∈ t.inner, p.1 + p.2.levelsWithin fuel ≤ n :=
  foldl_max_le_iff _

theorem Tree.levelsWithin_le_succ (fuel : Nat) (t : Tree) :
    t.levelsWithin fuel ≤ t.levelsWithin (fuel + 1) := by
  induction fuel generalizing t with
  | zero => exact Nat.zero_le _
  | succ fuel ih =>
      obtain ⟨hone, hinner⟩ := levelsWithin_succ_le_iff.mp (Nat.le_refl (t.levelsWithin (fuel + 2)))
      refine levelsWithin_succ_le_iff.mpr ⟨hone, fun p hp => ?_⟩
      exact Nat.le_trans (Nat.add_le_add_left (ih p.2) p.1) (hinner p hp)

theorem Tree.levelsWithin_mono {t : Tree} {fuel more : Nat} (h : fuel ≤ more) :
    t.levelsWithin fuel ≤ t.levelsWithin more := by
  induction h with
  | refl => exact Nat.le_refl _
  | step _ ih => exact Nat.le_trans ih (levelsWithin_le_succ _ t)

/-- Where one level more than the limit is looked at and the limit is kept, it is kept everywhere.
-/
theorem Tree.levelsWithin_le_of_le {limit : Nat} {t : Tree} (h : t.levelsWithin (limit + 1) ≤ limit)
    (fuel : Nat) : t.levelsWithin fuel ≤ limit := by
  induction limit using Nat.strongRecOn generalizing t fuel with
  | ind limit ih =>
      obtain ⟨hone, hinner⟩ := levelsWithin_succ_le_iff.mp h
      cases fuel with
      | zero => exact Nat.zero_le _
      | succ fuel =>
          refine levelsWithin_succ_le_iff.mpr ⟨hone, fun p hp => ?_⟩
          have hlevel := one_le_of_mem_inner hp
          have hpart := hinner p hp
          have hfewer : limit - p.1 + 1 ≤ limit := by omega
          have hlimit : p.2.levelsWithin (limit - p.1 + 1) ≤ limit - p.1 := by
            apply Nat.le_trans (levelsWithin_mono hfewer)
            omega
          have := ih (limit - p.1) (by omega) hlimit fuel
          omega

/-- Fewer levels are exceeded if more of them are. -/
theorem Tree.isDeeperThan_of_le {t : Tree} {limit more : Nat} (h : limit ≤ more)
    (deeper : t.isDeeperThan more = true) : t.isDeeperThan limit = true := by
  rw [isDeeperThan, decide_eq_true_eq] at deeper ⊢
  apply Nat.lt_of_not_le
  intro kept
  exact absurd (Nat.le_trans (levelsWithin_le_of_le kept (more + 1)) h) (Nat.not_le.mpr deeper)

end BoundSql.Expr
