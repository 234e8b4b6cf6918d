set_option autoImplicit false

/-!
# Sets of characters as run lengths

A set of code points is written as the lengths of its runs: first how many code points lie
outside, then how many inside, then outside again, and so on from code point 0.  Everything
after the last run lies outside.

Tables of Unicode are written like this because a class of characters is made of long runs, and a
list of lengths can be read by a function of a few lines.  `inRuns` answers the question for one
code point, and the lemmas beside it compare two tables run by run, without going through their
characters.
-/

namespace BoundSql.Text

/-- Membership in a set that is given by its run lengths. -/
def inRuns : List Nat → Nat → Bool
  | gap :: run :: rest, n =>
      if n < gap then false
      else if n < gap + run then true
      else inRuns rest (n - (gap + run))
  | _, _ => false

theorem inRuns_nil (n : Nat) : inRuns [] n = false := rfl

/-- Before the end of the first gap nothing belongs to the set. -/
theorem inRuns_of_lt_gap {gap run n : Nat} (rest : List Nat) (h : n < gap) :
    inRuns (gap :: run :: rest) n = false := by
  simp [inRuns, h]

/-- The first run belongs to the set as a whole. -/
theorem inRuns_of_mem_run {gap run n : Nat} (rest : List Nat) (h₁ : gap ≤ n)
    (h₂ : n < gap + run) : inRuns (gap :: run :: rest) n = true := by
  simp [inRuns, Nat.not_lt.2 h₁, h₂]

/-! ## One set as a part of another one -/

/-- The runs from the one on that ends behind `n`, and where `n` lies seen from them. -/
def runsFrom : List Nat → Nat → Nat × List Nat
  | gap :: run :: rest, n =>
      if n < gap + run then (n, gap :: run :: rest) else runsFrom rest (n - (gap + run))
  | _, n => (n, [])

/-- Whether each run of a set, which begins at `n`, lies in one run of another set.  Both are walked
along together. -/
def runsWithin (outer : List Nat) (n : Nat) : List Nat → Bool
  | gap :: run :: rest =>
      match runsFrom outer (n + gap) with
      | (k, gap' :: run' :: rest') =>
          gap' ≤ k && k + run ≤ gap' + run' && runsWithin (gap' :: run' :: rest') (k + run) rest
      | _ => false
  | _ => true

/-- Whatever lies at `n` or behind is looked up in the runs from there on. -/
theorem inRuns_runsFrom (runs : List Nat) (n m : Nat) :
    inRuns (runsFrom runs n).2 ((runsFrom runs n).1 + m) = inRuns runs (n + m) := by
  fun_induction runsFrom runs n with
  | case1 => rfl
  | case2 gap run rest n h ih =>
      have hmoved : n + m - (gap + run) = n - (gap + run) + m := by omega
      rw [ih, inRuns, if_neg (by omega), if_neg (by omega), hmoved]
  | case3 runs n hshort =>
      unfold inRuns
      split
      · exact absurd rfl (hshort _ _ _)
      · rfl

/-- A set is a part of another one if each of its runs lies in one run of the other. -/
theorem inRuns_of_runsWithin {outer runs : List Nat} {n : Nat} (h : runsWithin outer n runs = true)
    {m : Nat} (hm : inRuns runs m = true) : inRuns outer (n + m) = true := by
  fun_induction runsWithin outer n runs generalizing m with
  | case1 outer n gap run rest k gap' run' rest' hfrom ih =>
      obtain ⟨hrun, hrest⟩ := Bool.and_eq_true_iff.mp h
      obtain ⟨hbegin, hend⟩ := Bool.and_eq_true_iff.mp hrun
      have hbegin := of_decide_eq_true hbegin
      have hend := of_decide_eq_true hend
      have hfar (j : Nat) :
          inRuns (gap' :: run' :: rest') (k + j) = inRuns outer (n + gap + j) := by
        rw [← inRuns_runsFrom outer (n + gap), hfrom]
      rw [inRuns] at hm
      split at hm
      · cases hm
      · split at hm
        · have hmem := hfar (m - gap)
          rw [inRuns_of_mem_run rest' (by omega) (by omega)] at hmem
          rw [hmem]
          congr 1
          omega
        · have hmem := ih hrest hm
          rw [Nat.add_assoc, hfar] at hmem
          rw [← hmem]
          congr 1
          omega
  | case2 => cases h
  | case3 outer n runs hshort =>
      unfold inRuns at hm
      split at hm
      · exact absurd rfl (hshort _ _ _)
      · cases hm

end BoundSql.Text
