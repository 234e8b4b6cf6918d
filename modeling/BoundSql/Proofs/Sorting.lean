import BoundSql.Eval.Sorting
import BoundSql.Proofs.Sequence
import Mathlib.Data.List.Perm.Basic
set_option autoImplicit false

/-!
# What sorting does

Sorting asks whether one element precedes another one, and the question may fail.  Whatever the
answers are, sorting rearranges its elements (`sortKeyed_perm`).  It compares enough of them that
all are linked: if only elements of one kind can be compared, a list that is sorted is of one kind
(`sortKeyed_uniform`).  If all questions are answered, it does not fail, and if the answers are
those of an order, its result is in order (`sortKeyed_answers`).

The algorithm finds runs, makes short ones longer by insertion, and merges them, and each of its
functions has a lemma for each of these three facts.  They are kept apart because they need less and
less to be known of the answers: for the first one nothing at all, for the second one when a
question is answered, for the third one what the answers are.

The second fact is the one that is seldom stated of sorting.  A dictionary with keys of two kinds
cannot be sorted, whatever the order of its entries, and this is why.
-/

namespace BoundSql.Eval

open BoundSql.Value

/-! ## Rearranging -/

section Rearranging

variable {s t : Store}

/-- A run that falls is the elements in front of the rest, in reverse. -/
theorem falling_eq_ok {run xs r rest : List Keyed} {last : Keyed}
    (h : firstRun.falling run last xs s = .ok (r, rest) t) :
    ∃ more, r = more.reverse ++ run ∧ xs = more ++ rest := by
  induction xs generalizing run last s with
  | nil =>
      obtain ⟨heq, -⟩ := pure_eq_ok_iff.mp h
      obtain ⟨rfl, rfl⟩ := Prod.mk.inj heq
      exact ⟨[], rfl, rfl⟩
  | cons x xs ih =>
      obtain ⟨precedes, s₁, -, h⟩ := bind_eq_ok_iff.mp h
      cases precedes with
      | false =>
          obtain ⟨heq, -⟩ := pure_eq_ok_iff.mp h
          obtain ⟨rfl, rfl⟩ := Prod.mk.inj heq
          exact ⟨[], rfl, rfl⟩
      | true =>
          obtain ⟨more, rfl, rfl⟩ := ih h
          refine ⟨x :: more, ?_, rfl⟩
          rw [List.reverse_cons, List.append_assoc, List.singleton_append]

/-- A run that does not fall is the elements in front of the rest. -/
theorem rising_eq_ok {run xs r rest : List Keyed} {last : Keyed}
    (h : firstRun.rising run last xs s = .ok (r, rest) t) :
    ∃ more, r = run.reverse ++ more ∧ xs = more ++ rest := by
  induction xs generalizing run last s with
  | nil =>
      obtain ⟨heq, -⟩ := pure_eq_ok_iff.mp h
      obtain ⟨rfl, rfl⟩ := Prod.mk.inj heq
      exact ⟨[], (List.append_nil _).symm, rfl⟩
  | cons x xs ih =>
      obtain ⟨precedes, s₁, -, h⟩ := bind_eq_ok_iff.mp h
      cases precedes with
      | true =>
          obtain ⟨heq, -⟩ := pure_eq_ok_iff.mp h
          obtain ⟨rfl, rfl⟩ := Prod.mk.inj heq
          exact ⟨[], (List.append_nil _).symm, rfl⟩
      | false =>
          obtain ⟨more, rfl, rfl⟩ := ih h
          refine ⟨x :: more, ?_, rfl⟩
          rw [List.reverse_cons, List.append_assoc, List.singleton_append]

theorem firstRun_perm {xs run rest : List Keyed} (h : firstRun xs s = .ok (run, rest) t) :
    (run ++ rest).Perm xs ∧ (xs ≠ [] → run ≠ []) := by
  match xs with
  | [] | [_] =>
      obtain ⟨heq, -⟩ := pure_eq_ok_iff.mp h
      obtain ⟨rfl, rfl⟩ := Prod.mk.inj heq
      exact ⟨by rw [List.append_nil], id⟩
  | x :: y :: xs =>
      obtain ⟨precedes, s₁, -, h⟩ := bind_eq_ok_iff.mp h
      cases precedes with
      | true =>
          obtain ⟨more, rfl, rfl⟩ := falling_eq_ok h
          refine ⟨?_, fun _ => by simp⟩
          have hpair : ([y, x] : List Keyed).Perm [x, y] := .swap x y []
          exact (((List.reverse_perm more).append hpair).trans List.perm_append_comm).append_right
            rest
      | false =>
          obtain ⟨more, rfl, rfl⟩ := rising_eq_ok h
          exact ⟨.refl _, fun _ => by simp⟩

theorem insertionPlace_le {x : Keyed} {row : Array Keyed} {fuel low high i : Nat}
    (h : insertionPlace x row fuel low high s = .ok i t) (hle : low ≤ high) : i ≤ high := by
  induction fuel generalizing low high s with
  | zero =>
      obtain ⟨rfl, -⟩ := pure_eq_ok_iff.mp h
      exact hle
  | succ fuel ih =>
      rw [insertionPlace] at h
      split at h
      next hlt =>
        obtain ⟨precedes, s₁, -, h⟩ := bind_eq_ok_iff.mp h
        cases precedes with
        | true => exact Nat.le_trans (ih h (by omega)) (by omega)
        | false => exact ih h (by omega)
      next =>
        obtain ⟨rfl, -⟩ := pure_eq_ok_iff.mp h
        exact hle

theorem toList_insertIdxIfInBounds {row : Array Keyed} {x : Keyed} {i : Nat} (h : i ≤ row.size) :
    (row.insertIdxIfInBounds i x).toList = row.toList.take i ++ x :: row.toList.drop i := by
  have hlist : ∀ (xs : List Keyed) (i : Nat), i ≤ xs.length →
      xs.insertIdx i x = xs.take i ++ x :: xs.drop i := by
    intro xs
    induction xs with
    | nil =>
        intro i hi
        obtain rfl := Nat.le_zero.mp hi
        rfl
    | cons y xs ih =>
        intro i hi
        cases i with
        | zero => rfl
        | succ i =>
            rw [List.insertIdx_succ_cons, ih i (Nat.le_of_succ_le_succ hi)]
            rfl
  rw [Array.insertIdxIfInBounds, dif_pos h, Array.toList_insertIdx]
  exact hlist row.toList i (by simpa using h)

theorem insertAll_perm {row row' : Array Keyed} {xs : List Keyed}
    (h : insertAll row xs s = .ok row' t) : row'.toList.Perm (row.toList ++ xs) := by
  induction xs generalizing row s with
  | nil =>
      obtain ⟨rfl, -⟩ := pure_eq_ok_iff.mp h
      rw [List.append_nil]
  | cons x xs ih =>
      obtain ⟨i, s₁, hplace, h⟩ := bind_eq_ok_iff.mp h
      have hi := insertionPlace_le hplace (Nat.zero_le _)
      have hinserted : (row.insertIdxIfInBounds i x).toList.Perm (x :: row.toList) := by
        rw [toList_insertIdxIfInBounds hi]
        refine List.perm_middle.trans ?_
        rw [List.take_append_drop]
      exact (ih h).trans ((hinserted.append_right xs).trans List.perm_middle.symm)

theorem sortedRuns_perm {least fuel : Nat} {xs : List Keyed} {runs : List (List Keyed)}
    (h : sortedRuns least fuel xs s = .ok runs t) (hfuel : xs.length ≤ fuel) :
    runs.flatten.Perm xs := by
  induction fuel generalizing xs runs s t with
  | zero =>
      obtain rfl := List.eq_nil_of_length_eq_zero (Nat.le_zero.mp hfuel)
      obtain ⟨rfl, -⟩ := pure_eq_ok_iff.mp h
      exact .refl _
  | succ fuel ih =>
      cases xs with
      | nil =>
          obtain ⟨rfl, -⟩ := pure_eq_ok_iff.mp h
          exact .refl _
      | cons x xs =>
          obtain ⟨⟨run, rest⟩, s₁, hrun, h⟩ := bind_eq_ok_iff.mp h
          obtain ⟨whole, s₂, hwhole, h⟩ := bind_eq_ok_iff.mp h
          obtain ⟨others, s₃, hothers, h⟩ := bind_eq_ok_iff.mp h
          obtain ⟨rfl, -⟩ := pure_eq_ok_iff.mp h
          obtain ⟨hperm, hne⟩ := firstRun_perm hrun
          have hlength := hperm.length_eq
          have hpos := List.length_pos_iff.mpr (hne (by simp))
          rw [List.length_append, List.length_cons] at hlength
          rw [List.length_cons] at hfuel
          have hrest : (rest.drop (least - run.length)).length ≤ fuel := by
            rw [List.length_drop]
            omega
          calc (whole.toList :: others).flatten
              = whole.toList ++ others.flatten := List.flatten_cons
            _ |>.Perm ((run ++ rest.take (least - run.length))
                  ++ rest.drop (least - run.length)) :=
                (insertAll_perm hwhole).append (ih hothers hrest)
            _ = run ++ rest := by rw [List.append_assoc, List.take_append_drop]
            _ |>.Perm (x :: xs) := hperm

theorem mergeKeyed_perm {fuel : Nat} {xs ys zs : List Keyed}
    (h : mergeKeyed fuel xs ys s = .ok zs t) : zs.Perm (xs ++ ys) := by
  induction fuel generalizing xs ys zs s t with
  | zero =>
      obtain ⟨rfl, -⟩ := pure_eq_ok_iff.mp h
      exact .refl _
  | succ fuel ih =>
      match xs, ys with
      | [], ys =>
          obtain ⟨rfl, -⟩ := pure_eq_ok_iff.mp h
          exact .refl _
      | x :: xs, [] =>
          obtain ⟨rfl, -⟩ := pure_eq_ok_iff.mp h
          rw [List.append_nil]
      | x :: xs, y :: ys =>
          obtain ⟨precedes, s₁, -, h⟩ := bind_eq_ok_iff.mp h
          cases precedes with
          | true =>
              obtain ⟨rest, s₂, hrest, h⟩ := bind_eq_ok_iff.mp h
              obtain ⟨rfl, -⟩ := pure_eq_ok_iff.mp h
              exact ((ih hrest).cons y).trans List.perm_middle.symm
          | false =>
              obtain ⟨rest, s₂, hrest, h⟩ := bind_eq_ok_iff.mp h
              obtain ⟨rfl, -⟩ := pure_eq_ok_iff.mp h
              exact (ih hrest).cons x

/-- A round leaves half of the runs, rounded up. -/
theorem round_perm {s t : Store} {runs runs' : List (List Keyed)}
    (h : mergeRuns.round runs s = .ok runs' t) :
    runs'.flatten.Perm runs.flatten ∧ runs'.length = (runs.length + 1) / 2 := by
  match runs with
  | [] =>
      obtain ⟨rfl, -⟩ := pure_eq_ok_iff.mp h
      exact ⟨.refl _, rfl⟩
  | [_] =>
      obtain ⟨rfl, -⟩ := pure_eq_ok_iff.mp h
      exact ⟨.refl _, by simp⟩
  | a :: b :: rest =>
      obtain ⟨merged, s₁, hmerged, h⟩ := bind_eq_ok_iff.mp h
      obtain ⟨others, s₂, hothers, h⟩ := bind_eq_ok_iff.mp h
      obtain ⟨rfl, -⟩ := pure_eq_ok_iff.mp h
      obtain ⟨hperm, hlength⟩ := round_perm hothers
      constructor
      · rw [List.flatten_cons, List.flatten_cons, List.flatten_cons, ← List.append_assoc]
        exact (mergeKeyed_perm hmerged).append hperm
      · rw [List.length_cons, List.length_cons, List.length_cons, hlength]
        omega

theorem mergeRuns_perm {fuel : Nat} {runs : List (List Keyed)} {ys : List Keyed}
    (h : mergeRuns fuel runs s = .ok ys t) : ys.Perm runs.flatten := by
  induction fuel generalizing runs s t with
  | zero =>
      obtain ⟨rfl, -⟩ := pure_eq_ok_iff.mp h
      exact .refl _
  | succ fuel ih =>
      match runs with
      | [] =>
          obtain ⟨rfl, -⟩ := pure_eq_ok_iff.mp h
          exact .refl _
      | [run] =>
          obtain ⟨rfl, -⟩ := pure_eq_ok_iff.mp h
          rw [List.flatten_singleton]
      | a :: b :: rest =>
          obtain ⟨runs', s₁, hround, h⟩ := bind_eq_ok_iff.mp h
          exact (ih h).trans (round_perm hround).1

/-- Sorting rearranges its elements, whatever they are and however they compare. -/
theorem sortKeyed_perm {xs ys : List Keyed} (h : sortKeyed xs s = .ok ys t) : ys.Perm xs := by
  obtain ⟨runs, s₁, hruns, h⟩ := bind_eq_ok_iff.mp h
  exact (mergeRuns_perm h).trans (sortedRuns_perm hruns (Nat.le_refl _))

end Rearranging

/-! ## Linking -/

section Linking

variable {K : Type} {kind : Keyed → K} {s t : Store}

/-- All elements of a list are of one kind. -/
def Uniform (kind : Keyed → K) (xs : List Keyed) : Prop :=
  ∀ x ∈ xs, ∀ y ∈ xs, kind x = kind y

/-- Only elements of one kind can be compared. -/
def Separates (kind : Keyed → K) : Prop :=
  ∀ {x y : Keyed} {precedes : Bool} {s t : Store},
    x.precedes y s = .ok precedes t → kind x = kind y

theorem Uniform.perm {xs ys : List Keyed} (h : Uniform kind xs) (perm : ys.Perm xs) :
    Uniform kind ys :=
  fun x hx y hy => h x (perm.mem_iff.mp hx) y (perm.mem_iff.mp hy)

theorem uniform_of_forall {xs : List Keyed} {k : K} (h : ∀ x ∈ xs, kind x = k) :
    Uniform kind xs :=
  fun x hx y hy => (h x hx).trans (h y hy).symm

/-- Two lists of one kind that have elements of the same kind are of one kind together. -/
theorem Uniform.append {xs ys : List Keyed} {x y : Keyed} (hxs : Uniform kind xs)
    (hys : Uniform kind ys) (hx : x ∈ xs) (hy : y ∈ ys) (heq : kind x = kind y) :
    Uniform kind (xs ++ ys) := by
  refine @uniform_of_forall _ _ _ (kind y) fun z hz => ?_
  rcases List.mem_append.mp hz with hz | hz
  · exact (hxs z hz x hx).trans heq
  · exact hys z hz y hy

theorem falling_uniform (separates : Separates kind) {run xs r rest : List Keyed} {last : Keyed}
    (h : firstRun.falling run last xs s = .ok (r, rest) t) (hrun : ∀ z ∈ run, kind z = kind last) :
    Uniform kind r := by
  induction xs generalizing run last s with
  | nil =>
      obtain ⟨heq, -⟩ := pure_eq_ok_iff.mp h
      obtain ⟨rfl, rfl⟩ := Prod.mk.inj heq
      exact uniform_of_forall hrun
  | cons x xs ih =>
      obtain ⟨precedes, s₁, hcompared, h⟩ := bind_eq_ok_iff.mp h
      cases precedes with
      | false =>
          obtain ⟨heq, -⟩ := pure_eq_ok_iff.mp h
          obtain ⟨rfl, rfl⟩ := Prod.mk.inj heq
          exact uniform_of_forall hrun
      | true =>
          refine ih h fun z hz => ?_
          rcases List.mem_cons.mp hz with rfl | hz
          · rfl
          · exact (hrun z hz).trans (separates hcompared).symm

theorem rising_uniform (separates : Separates kind) {run xs r rest : List Keyed} {last : Keyed}
    (h : firstRun.rising run last xs s = .ok (r, rest) t) (hrun : ∀ z ∈ run, kind z = kind last) :
    Uniform kind r := by
  induction xs generalizing run last s with
  | nil =>
      obtain ⟨heq, -⟩ := pure_eq_ok_iff.mp h
      obtain ⟨rfl, rfl⟩ := Prod.mk.inj heq
      exact (uniform_of_forall hrun).perm (List.reverse_perm run)
  | cons x xs ih =>
      obtain ⟨precedes, s₁, hcompared, h⟩ := bind_eq_ok_iff.mp h
      cases precedes with
      | true =>
          obtain ⟨heq, -⟩ := pure_eq_ok_iff.mp h
          obtain ⟨rfl, rfl⟩ := Prod.mk.inj heq
          exact (uniform_of_forall hrun).perm (List.reverse_perm run)
      | false =>
          refine ih h fun z hz => ?_
          rcases List.mem_cons.mp hz with rfl | hz
          · rfl
          · exact (hrun z hz).trans (separates hcompared).symm

theorem firstRun_uniform (separates : Separates kind) {xs run rest : List Keyed}
    (h : firstRun xs s = .ok (run, rest) t) : Uniform kind run := by
  match xs with
  | [] =>
      obtain ⟨heq, -⟩ := pure_eq_ok_iff.mp h
      obtain ⟨rfl, rfl⟩ := Prod.mk.inj heq
      exact fun x hx => absurd hx List.not_mem_nil
  | [x] =>
      obtain ⟨heq, -⟩ := pure_eq_ok_iff.mp h
      obtain ⟨rfl, rfl⟩ := Prod.mk.inj heq
      exact @uniform_of_forall _ _ _ (kind x) fun z hz => by rw [List.mem_singleton.mp hz]
  | x :: y :: xs =>
      obtain ⟨precedes, s₁, hcompared, h⟩ := bind_eq_ok_iff.mp h
      have hpair : ∀ z ∈ [y, x], kind z = kind y := by
        intro z hz
        rcases List.mem_pair.mp hz with rfl | rfl
        · rfl
        · exact (separates hcompared).symm
      cases precedes with
      | true => exact falling_uniform separates h hpair
      | false => exact rising_uniform separates h hpair

/-- The search for a place begins with a comparison. -/
theorem insertionPlace_compares {x : Keyed} {row : Array Keyed} {fuel low high i : Nat}
    (h : insertionPlace x row (fuel + 1) low high s = .ok i t) (hlt : low < high)
    (hhigh : high ≤ row.size) :
    ∃ z ∈ row.toList, ∃ precedes s₁, x.precedes z s = .ok precedes s₁ := by
  rw [insertionPlace, if_pos hlt] at h
  obtain ⟨precedes, s₁, hcompared, -⟩ := bind_eq_ok_iff.mp h
  have hmiddle : low + (high - low) / 2 < row.size := by omega
  rw [Array.getElem?_eq_getElem hmiddle, Option.getD_some] at hcompared
  exact ⟨_, Array.getElem_mem_toList hmiddle, precedes, s₁, hcompared⟩

theorem insertAll_uniform (separates : Separates kind) {row row' : Array Keyed}
    {xs : List Keyed} (h : insertAll row xs s = .ok row' t) (hne : row.toList ≠ [])
    (hrow : Uniform kind row.toList) : Uniform kind row'.toList := by
  induction xs generalizing row s with
  | nil =>
      obtain ⟨rfl, -⟩ := pure_eq_ok_iff.mp h
      exact hrow
  | cons x xs ih =>
      obtain ⟨i, s₁, hplace, h⟩ := bind_eq_ok_iff.mp h
      have hsize : 0 < row.size := by simpa using List.length_pos_iff.mpr hne
      obtain ⟨z, hz, precedes, s₂, hcompared⟩ :=
        insertionPlace_compares hplace hsize (Nat.le_refl _)
      have hsingle : Uniform kind [x] :=
        @uniform_of_forall _ _ _ (kind x) fun z hz => by rw [List.mem_singleton.mp hz]
      have hperm : (row.insertIdxIfInBounds i x).toList.Perm ([x] ++ row.toList) := by
        rw [toList_insertIdxIfInBounds (insertionPlace_le hplace (Nat.zero_le _))]
        refine List.perm_middle.trans ?_
        rw [List.take_append_drop]
        exact .refl _
      refine ih h ?_ ((hsingle.append hrow List.mem_cons_self hz (separates hcompared)).perm hperm)
      intro hnil
      rw [hnil] at hperm
      exact absurd hperm.symm.eq_nil (by simp)

/-- Runs none of which is empty, each of one kind. -/
def UniformRuns (kind : Keyed → K) (runs : List (List Keyed)) : Prop :=
  ∀ run ∈ runs, run ≠ [] ∧ Uniform kind run

theorem sortedRuns_uniform (separates : Separates kind) {least fuel : Nat} {xs : List Keyed}
    {runs : List (List Keyed)} (h : sortedRuns least fuel xs s = .ok runs t) :
    UniformRuns kind runs := by
  induction fuel generalizing xs runs s t with
  | zero =>
      obtain ⟨rfl, -⟩ := pure_eq_ok_iff.mp h
      exact fun run hrun => absurd hrun List.not_mem_nil
  | succ fuel ih =>
      cases xs with
      | nil =>
          obtain ⟨rfl, -⟩ := pure_eq_ok_iff.mp h
          exact fun run hrun => absurd hrun List.not_mem_nil
      | cons x xs =>
          obtain ⟨⟨run, rest⟩, s₁, hrun, h⟩ := bind_eq_ok_iff.mp h
          obtain ⟨whole, s₂, hwhole, h⟩ := bind_eq_ok_iff.mp h
          obtain ⟨others, s₃, hothers, h⟩ := bind_eq_ok_iff.mp h
          obtain ⟨rfl, -⟩ := pure_eq_ok_iff.mp h
          have hne : run ≠ [] := (firstRun_perm hrun).2 (by simp)
          intro run' hrun'
          rcases List.mem_cons.mp hrun' with rfl | hrun'
          · refine ⟨fun hnil => hne ?_, ?_⟩
            · have hperm := insertAll_perm hwhole
              rw [hnil] at hperm
              exact (List.append_eq_nil_iff.mp hperm.symm.eq_nil).1
            · exact insertAll_uniform separates hwhole hne (firstRun_uniform separates hrun)
          · exact ih hothers run' hrun'

theorem mergeKeyed_uniform (separates : Separates kind) {fuel : Nat} {xs ys zs : List Keyed}
    (h : mergeKeyed (fuel + 1) xs ys s = .ok zs t) (hxs : xs ≠ [] ∧ Uniform kind xs)
    (hys : ys ≠ [] ∧ Uniform kind ys) : zs ≠ [] ∧ Uniform kind zs := by
  have hperm := mergeKeyed_perm h
  obtain ⟨x, xs, rfl⟩ := List.exists_cons_of_ne_nil hxs.1
  obtain ⟨y, ys, rfl⟩ := List.exists_cons_of_ne_nil hys.1
  obtain ⟨precedes, s₁, hcompared, -⟩ := bind_eq_ok_iff.mp h
  refine ⟨fun hnil => ?_, Uniform.perm ?_ hperm⟩
  · rw [hnil] at hperm
    exact absurd hperm.symm.eq_nil (by simp)
  · exact hxs.2.append hys.2 List.mem_cons_self List.mem_cons_self (separates hcompared).symm

theorem round_uniform (separates : Separates kind) {s t : Store} {runs runs' : List (List Keyed)}
    (h : mergeRuns.round runs s = .ok runs' t) (hruns : UniformRuns kind runs) :
    UniformRuns kind runs' := by
  match runs with
  | [] | [_] =>
      obtain ⟨rfl, -⟩ := pure_eq_ok_iff.mp h
      exact hruns
  | a :: b :: rest =>
      obtain ⟨merged, s₁, hmerged, h⟩ := bind_eq_ok_iff.mp h
      obtain ⟨others, s₂, hothers, h⟩ := bind_eq_ok_iff.mp h
      obtain ⟨rfl, -⟩ := pure_eq_ok_iff.mp h
      have ha := hruns a List.mem_cons_self
      have hb := hruns b (List.mem_cons_of_mem a List.mem_cons_self)
      intro run hrun
      rcases List.mem_cons.mp hrun with rfl | hrun
      · have hpos := List.length_pos_iff.mpr ha.1
        obtain ⟨fuel, hfuel⟩ : ∃ fuel, a.length + b.length = fuel + 1 :=
          ⟨a.length + b.length - 1, by omega⟩
        rw [hfuel] at hmerged
        exact mergeKeyed_uniform separates hmerged ha hb
      · refine round_uniform separates hothers (fun run hrun => hruns run ?_) run hrun
        exact List.mem_cons_of_mem a (List.mem_cons_of_mem b hrun)

theorem mergeRuns_uniform (separates : Separates kind) {fuel : Nat} {runs : List (List Keyed)}
    {ys : List Keyed} (h : mergeRuns fuel runs s = .ok ys t) (hruns : UniformRuns kind runs)
    (hfuel : runs.length ≤ fuel) : Uniform kind ys := by
  induction fuel generalizing runs s with
  | zero =>
      obtain rfl := List.eq_nil_of_length_eq_zero (Nat.le_zero.mp hfuel)
      obtain ⟨rfl, -⟩ := pure_eq_ok_iff.mp h
      exact fun x hx => absurd hx List.not_mem_nil
  | succ fuel ih =>
      match runs with
      | [] =>
          obtain ⟨rfl, -⟩ := pure_eq_ok_iff.mp h
          exact fun x hx => absurd hx List.not_mem_nil
      | [run] =>
          obtain ⟨rfl, -⟩ := pure_eq_ok_iff.mp h
          exact (hruns run List.mem_cons_self).2
      | a :: b :: rest =>
          obtain ⟨runs', s₁, hround, h⟩ := bind_eq_ok_iff.mp h
          refine ih h (round_uniform separates hround hruns) ?_
          rw [(round_perm hround).2]
          simp only [List.length_cons] at hfuel ⊢
          omega

/-- If only elements of one kind can be compared, a list that is sorted is of one kind. -/
theorem sortKeyed_uniform (separates : Separates kind) {xs ys : List Keyed}
    (h : sortKeyed xs s = .ok ys t) : Uniform kind xs := by
  have hperm := sortKeyed_perm h
  obtain ⟨runs, s₁, hruns, h⟩ := bind_eq_ok_iff.mp h
  exact (mergeRuns_uniform separates h (sortedRuns_uniform separates hruns)
    (Nat.le_refl _)).perm hperm.symm

end Linking

/-! ## Answers that do not fail -/

section Answers

variable {s : Store} {P : Keyed → Prop} {lt : Keyed → Keyed → Bool}

/-- Comparisons of some elements are answered, and leave the state as it is. -/
structure Answers (s : Store) (P : Keyed → Prop) (lt : Keyed → Keyed → Bool) : Prop where
  compare : ∀ {x y : Keyed}, P x → P y → x.precedes y s = .ok (lt x y) s

/-- The answers are those of an order. -/
structure Orders (P : Keyed → Prop) (lt : Keyed → Keyed → Bool) : Prop where
  asymm : ∀ {x y : Keyed}, P x → P y → lt x y = true → lt y x = false
  trans : ∀ {x y z : Keyed}, P x → P y → P z → lt y x = false → lt z y = false → lt z x = false

/-- No element precedes one in front of it. -/
def InOrder (lt : Keyed → Keyed → Bool) (xs : List Keyed) : Prop :=
  xs.Pairwise fun x y => lt y x = false

theorem inOrder_singleton (x : Keyed) : InOrder lt [x] := List.pairwise_singleton _ x

/-- If the first element of a row in order does not precede another element, none of the row does.
-/
theorem Orders.forall_of_inOrder (orders : Orders P lt) {x y : Keyed} {xs : List Keyed} (hy : P y)
    (hxs : ∀ z ∈ x :: xs, P z) (hin : InOrder lt (x :: xs)) (h : lt x y = false) :
    ∀ z ∈ x :: xs, lt z y = false := by
  obtain ⟨hx, hbehind⟩ := List.forall_mem_cons.mp hxs
  refine List.forall_mem_cons.mpr ⟨h, fun z hz => ?_⟩
  exact orders.trans hy hx (hbehind z hz) h ((List.pairwise_cons.mp hin).1 z hz)

theorem falling_answers (answers : Answers s P lt) {run xs : List Keyed} {last : Keyed}
    (hlast : P last) (hrun : ∀ z ∈ run, P z) (hxs : ∀ z ∈ xs, P z)
    (horder : Orders P lt → InOrder lt (last :: run)) :
    ∃ r rest, firstRun.falling (last :: run) last xs s = .ok (r, rest) s ∧
      (Orders P lt → InOrder lt r) := by
  induction xs generalizing run last with
  | nil => exact ⟨_, _, rfl, horder⟩
  | cons x xs ih =>
      have hx := hxs x List.mem_cons_self
      have hcompared := answers.compare hx hlast
      rw [firstRun.falling, bind_of_ok hcompared]
      cases hlt : lt x last with
      | false => exact ⟨_, _, rfl, horder⟩
      | true =>
          have hrun' := List.forall_mem_cons.mpr ⟨hlast, hrun⟩
          refine ih hx hrun' (fun z hz => hxs z (List.mem_cons_of_mem x hz)) fun orders => ?_
          have hfront := orders.asymm hx hlast hlt
          exact List.pairwise_cons.mpr
            ⟨orders.forall_of_inOrder hx hrun' (horder orders) hfront, horder orders⟩

theorem rising_answers (answers : Answers s P lt) {run xs : List Keyed} {last : Keyed}
    (hlast : P last) (hrun : ∀ z ∈ run, P z) (hxs : ∀ z ∈ xs, P z)
    (horder : Orders P lt → InOrder lt (last :: run).reverse) :
    ∃ r rest, firstRun.rising (last :: run) last xs s = .ok (r, rest) s ∧
      (Orders P lt → InOrder lt r) := by
  induction xs generalizing run last with
  | nil => exact ⟨_, _, rfl, horder⟩
  | cons x xs ih =>
      have hx := hxs x List.mem_cons_self
      have hcompared := answers.compare hx hlast
      rw [firstRun.rising, bind_of_ok hcompared]
      cases hlt : lt x last with
      | true => exact ⟨_, _, rfl, horder⟩
      | false =>
          refine ih hx (List.forall_mem_cons.mpr ⟨hlast, hrun⟩)
            (fun z hz => hxs z (List.mem_cons_of_mem x hz)) fun orders => ?_
          have hback := List.pairwise_reverse.mp (horder orders)
          refine List.pairwise_reverse.mpr (List.pairwise_cons.mpr
            ⟨List.forall_mem_cons.mpr ⟨hlt, fun z hz => ?_⟩, hback⟩)
          exact orders.trans (hrun z hz) hlast hx ((List.pairwise_cons.mp hback).1 z hz) hlt

theorem firstRun_answers (answers : Answers s P lt) {xs : List Keyed} (hxs : ∀ z ∈ xs, P z) :
    ∃ run rest, firstRun xs s = .ok (run, rest) s ∧ (Orders P lt → InOrder lt run) := by
  match xs with
  | [] => exact ⟨[], [], rfl, fun _ => List.Pairwise.nil⟩
  | [x] => exact ⟨[x], [], rfl, fun _ => inOrder_singleton x⟩
  | x :: y :: xs =>
      obtain ⟨hx, hy, hrest⟩ : P x ∧ P y ∧ ∀ z ∈ xs, P z := by simpa using hxs
      have hcompared := answers.compare hy hx
      rw [firstRun, bind_of_ok hcompared]
      cases hlt : lt y x with
      | true =>
          refine falling_answers answers hy (by simpa using hx) hrest fun orders => ?_
          exact List.pairwise_pair.mpr (orders.asymm hy hx hlt)
      | false =>
          refine rising_answers answers hy (by simpa using hx) hrest fun _ => ?_
          exact List.pairwise_pair.mpr hlt

/-- The middle element of a row that is in order parts it. -/
theorem inOrder_middle {row : Array Keyed} {i : Nat} (hi : i < row.size)
    (h : InOrder lt row.toList) :
    (∀ z ∈ row.toList.take i, lt row[i] z = false) ∧
      ∀ z ∈ row.toList.drop (i + 1), lt z row[i] = false := by
  have hsplit : row.toList = row.toList.take i ++ row[i] :: row.toList.drop (i + 1) := by
    rw [← Array.getElem_toList hi, ← List.drop_eq_getElem_cons (by simpa using hi),
      List.take_append_drop]
  rw [hsplit, InOrder, List.pairwise_append] at h
  exact ⟨fun z hz => h.2.2 z hz _ List.mem_cons_self, (List.pairwise_cons.mp h.2.1).1⟩

section Middle

variable {x : Keyed} {row : Array Keyed} {i : Nat} (orders : Orders P lt) (hx : P x)
  (hrow : ∀ z ∈ row.toList, P z) (hi : i < row.size) (hin : InOrder lt row.toList)

include orders hx hrow hi hin

/-- What precedes the middle element precedes all behind it. -/
theorem Orders.precedes_behind (h : lt x row[i] = true) :
    ∀ z ∈ row.toList.drop i, lt x z = true := by
  rw [List.drop_eq_getElem_cons (by simpa using hi), Array.getElem_toList]
  refine List.forall_mem_cons.mpr ⟨h, fun z hz => ?_⟩
  by_contra hnot
  have hpast := orders.trans (hrow _ (Array.getElem_mem_toList hi))
    (hrow z (List.mem_of_mem_drop hz)) hx ((inOrder_middle hi hin).2 z hz)
    (Bool.eq_false_iff.mpr hnot)
  exact Bool.noConfusion (h.symm.trans hpast)

/-- What does not precede the middle element precedes none in front of it. -/
theorem Orders.precedes_none_before (h : lt x row[i] = false) :
    ∀ z ∈ row.toList.take (i + 1), lt x z = false := by
  rw [List.take_succ_eq_append_getElem (by simpa using hi), Array.getElem_toList]
  intro z hz
  rcases List.mem_append.mp hz with hz | hz
  · exact orders.trans (hrow z (List.mem_of_mem_take hz)) (hrow _ (Array.getElem_mem_toList hi)) hx
      ((inOrder_middle hi hin).1 z hz) h
  · rw [List.mem_singleton.mp hz]
    exact h

end Middle

/-- An element is put behind those that it does not precede, and in front of the others. -/
theorem insertionPlace_answers (answers : Answers s P lt) {x : Keyed} {row : Array Keyed}
    {fuel low high : Nat} (hx : P x) (hrow : ∀ z ∈ row.toList, P z)
    (hle : low ≤ high) (hhigh : high ≤ row.size) (hfuel : high - low < fuel) :
    ∃ i, insertionPlace x row fuel low high s = .ok i s ∧
      (Orders P lt → InOrder lt row.toList →
        (∀ z ∈ row.toList.take low, lt x z = false) →
        (∀ z ∈ row.toList.drop high, lt x z = true) →
        (∀ z ∈ row.toList.take i, lt x z = false) ∧
          ∀ z ∈ row.toList.drop i, lt x z = true) := by
  induction fuel generalizing low high with
  | zero => omega
  | succ fuel ih =>
      rw [insertionPlace]
      split
      next hlt =>
        obtain ⟨middle, hmiddle⟩ : ∃ middle, middle = low + (high - low) / 2 := ⟨_, rfl⟩
        dsimp only
        rw [← hmiddle]
        have hbelow : low ≤ middle := by omega
        have habove : middle < high := by omega
        have hsize : middle < row.size := Nat.lt_of_lt_of_le habove hhigh
        have hz : P row[middle] := hrow _ (Array.getElem_mem_toList hsize)
        rw [Array.getElem?_eq_getElem hsize, Option.getD_some, bind_of_ok (answers.compare hx hz)]
        cases hcompared : lt x row[middle] with
        | true =>
            obtain ⟨i, hplace, hparts⟩ := ih hbelow (by omega) (by omega)
            exact ⟨i, hplace, fun orders hin hlow _ =>
              hparts orders hin hlow (orders.precedes_behind hx hrow hsize hin hcompared)⟩
        | false =>
            obtain ⟨i, hplace, hparts⟩ := @ih (middle + 1) high (by omega) hhigh (by omega)
            exact ⟨i, hplace, fun orders hin _ hhigh =>
              hparts orders hin (orders.precedes_none_before hx hrow hsize hin hcompared) hhigh⟩
      next hge =>
        obtain rfl : low = high := by omega
        exact ⟨low, rfl, fun _ _ hfront hback => ⟨hfront, hback⟩⟩

theorem insertAll_answers (answers : Answers s P lt) {row : Array Keyed} {xs : List Keyed}
    (hrow : ∀ z ∈ row.toList, P z) (hxs : ∀ z ∈ xs, P z) :
    ∃ row', insertAll row xs s = .ok row' s ∧
      (Orders P lt → InOrder lt row.toList → InOrder lt row'.toList) := by
  induction xs generalizing row with
  | nil => exact ⟨row, rfl, fun _ h => h⟩
  | cons x xs ih =>
      have hx := hxs x List.mem_cons_self
      have hfuel : row.size - 0 < row.size + 1 := Nat.lt_succ_self _
      obtain ⟨i, hplace, hparts⟩ := insertionPlace_answers answers hx hrow (Nat.zero_le _)
        (Nat.le_refl _) hfuel
      have hlist := @toList_insertIdxIfInBounds row x i
        (insertionPlace_le hplace (Nat.zero_le _))
      have hinserted : ∀ z ∈ (row.insertIdxIfInBounds i x).toList, P z := by
        rw [hlist]
        intro z hz
        rcases List.mem_append.mp hz with hz | hz
        · exact hrow z (List.mem_of_mem_take hz)
        · rcases List.mem_cons.mp hz with rfl | hz
          · exact hx
          · exact hrow z (List.mem_of_mem_drop hz)
      obtain ⟨row', hrun, hin⟩ := ih hinserted fun z hz => hxs z (List.mem_cons_of_mem x hz)
      refine ⟨row', by rw [insertAll, bind_of_ok hplace, hrun], fun orders hrow' => ?_⟩
      obtain ⟨hfront, hback⟩ := hparts orders hrow' (by simp)
        (by simp [← Array.length_toList])
      refine hin orders ?_
      rw [hlist, InOrder, List.pairwise_append]
      refine ⟨hrow'.sublist (List.take_sublist ..), List.pairwise_cons.mpr
        ⟨fun z hz => ?_, hrow'.sublist (List.drop_sublist ..)⟩, fun z hz w hw => ?_⟩
      · exact orders.asymm hx (hrow z (List.mem_of_mem_drop hz)) (hback z hz)
      · rcases List.mem_cons.mp hw with rfl | hw
        · exact hfront z hz
        · have hsplit := hrow'
          rw [← List.take_append_drop i row.toList, InOrder, List.pairwise_append] at hsplit
          exact hsplit.2.2 z hz w hw

theorem sortedRuns_answers (answers : Answers s P lt) (least fuel : Nat) {xs : List Keyed}
    (hxs : ∀ z ∈ xs, P z) :
    ∃ runs, sortedRuns least fuel xs s = .ok runs s ∧ (∀ run ∈ runs, ∀ z ∈ run, P z) ∧
      (Orders P lt → ∀ run ∈ runs, InOrder lt run) := by
  induction fuel generalizing xs with
  | zero => exact ⟨[], rfl, by simp, by simp⟩
  | succ fuel ih =>
      cases xs with
      | nil => exact ⟨[], rfl, by simp, by simp⟩
      | cons x xs =>
          obtain ⟨run, rest, hrun, horder⟩ := firstRun_answers answers hxs
          have hall : ∀ z ∈ run ++ rest, P z :=
            fun z hz => hxs z ((firstRun_perm hrun).1.mem_iff.mp hz)
          obtain ⟨hfront, hrest⟩ := List.forall_mem_append.mp hall
          obtain ⟨whole, hwhole, hin⟩ := @insertAll_answers _ _ _ answers run.toArray
            (rest.take (least - run.length)) hfront fun z hz => hrest z (List.mem_of_mem_take hz)
          obtain ⟨others, hothers, hmembers, hsorted⟩ := @ih (rest.drop (least - run.length))
            fun z hz => hrest z (List.mem_of_mem_drop hz)
          refine ⟨whole.toList :: others, ?_, List.forall_mem_cons.mpr ⟨fun z hz => ?_, hmembers⟩,
            fun orders => List.forall_mem_cons.mpr ⟨hin orders (horder orders), hsorted orders⟩⟩
          · refine (bind_of_ok hrun _).trans ?_
            dsimp only
            rw [bind_of_ok hwhole, bind_of_ok hothers]
            rfl
          · rcases List.mem_append.mp ((insertAll_perm hwhole).mem_iff.mp hz) with hz | hz
            · exact hfront z hz
            · exact hrest z (List.mem_of_mem_take hz)

theorem mergeKeyed_answers (answers : Answers s P lt) {fuel : Nat} {xs ys : List Keyed}
    (hxs : ∀ z ∈ xs, P z) (hys : ∀ z ∈ ys, P z) (hfuel : xs.length + ys.length ≤ fuel) :
    ∃ zs, mergeKeyed fuel xs ys s = .ok zs s ∧
      (Orders P lt → InOrder lt xs → InOrder lt ys → InOrder lt zs) := by
  induction fuel generalizing xs ys with
  | zero =>
      obtain rfl := List.eq_nil_of_length_eq_zero (by omega : xs.length = 0)
      exact ⟨ys, rfl, fun _ _ h => h⟩
  | succ fuel ih =>
      match xs, ys with
      | [], ys => exact ⟨ys, rfl, fun _ _ h => h⟩
      | x :: xs, [] => exact ⟨x :: xs, rfl, fun _ h _ => h⟩
      | x :: xs, y :: ys =>
          obtain ⟨hx, hxs'⟩ := List.forall_mem_cons.mp hxs
          obtain ⟨hy, hys'⟩ := List.forall_mem_cons.mp hys
          rw [List.length_cons, List.length_cons] at hfuel
          rw [mergeKeyed, bind_of_ok (answers.compare hy hx)]
          cases hlt : lt y x with
          | true =>
              obtain ⟨zs, hzs, hin⟩ := @ih (x :: xs) ys hxs hys'
                (by rw [List.length_cons]; omega)
              refine ⟨y :: zs, bind_of_ok hzs _, fun orders hinx hiny => ?_⟩
              refine List.pairwise_cons.mpr ⟨fun z hz => ?_,
                hin orders hinx (List.pairwise_cons.mp hiny).2⟩
              rcases List.mem_append.mp ((mergeKeyed_perm hzs).mem_iff.mp hz) with hz | hz
              · exact orders.forall_of_inOrder hy hxs hinx (orders.asymm hy hx hlt) z hz
              · exact (List.pairwise_cons.mp hiny).1 z hz
          | false =>
              obtain ⟨zs, hzs, hin⟩ := @ih xs (y :: ys) hxs' hys
                (by rw [List.length_cons]; omega)
              refine ⟨x :: zs, bind_of_ok hzs _, fun orders hinx hiny => ?_⟩
              refine List.pairwise_cons.mpr ⟨fun z hz => ?_,
                hin orders (List.pairwise_cons.mp hinx).2 hiny⟩
              rcases List.mem_append.mp ((mergeKeyed_perm hzs).mem_iff.mp hz) with hz | hz
              · exact (List.pairwise_cons.mp hinx).1 z hz
              · exact orders.forall_of_inOrder hx hys hiny hlt z hz

theorem round_answers (answers : Answers s P lt) {runs : List (List Keyed)}
    (hruns : ∀ run ∈ runs, ∀ z ∈ run, P z) :
    ∃ runs', mergeRuns.round runs s = .ok runs' s ∧ (∀ run ∈ runs', ∀ z ∈ run, P z) ∧
      (Orders P lt → (∀ run ∈ runs, InOrder lt run) → ∀ run ∈ runs', InOrder lt run) := by
  match runs with
  | [] => exact ⟨[], rfl, hruns, fun _ h => h⟩
  | [run] => exact ⟨[run], rfl, hruns, fun _ h => h⟩
  | a :: b :: rest =>
      obtain ⟨ha, hruns⟩ := List.forall_mem_cons.mp hruns
      obtain ⟨hb, hrest⟩ := List.forall_mem_cons.mp hruns
      obtain ⟨merged, hmerged, hin⟩ := mergeKeyed_answers answers ha hb (Nat.le_refl _)
      obtain ⟨others, hothers, hmembers, hsorted⟩ := round_answers answers hrest
      refine ⟨merged :: others, ?_, List.forall_mem_cons.mpr ⟨fun z hz => ?_, hmembers⟩,
        fun orders h => ?_⟩
      · rw [mergeRuns.round, bind_of_ok hmerged, bind_of_ok hothers]
        rfl
      · rcases List.mem_append.mp ((mergeKeyed_perm hmerged).mem_iff.mp hz) with hz | hz
        · exact ha z hz
        · exact hb z hz
      · obtain ⟨hina, h⟩ := List.forall_mem_cons.mp h
        obtain ⟨hinb, h⟩ := List.forall_mem_cons.mp h
        exact List.forall_mem_cons.mpr ⟨hin orders hina hinb, hsorted orders h⟩

theorem mergeRuns_answers (answers : Answers s P lt) {fuel : Nat} {runs : List (List Keyed)}
    (hruns : ∀ run ∈ runs, ∀ z ∈ run, P z) (hfuel : runs.length ≤ fuel) :
    ∃ ys, mergeRuns fuel runs s = .ok ys s ∧
      (Orders P lt → (∀ run ∈ runs, InOrder lt run) → InOrder lt ys) := by
  induction fuel generalizing runs with
  | zero =>
      obtain rfl := List.eq_nil_of_length_eq_zero (Nat.le_zero.mp hfuel)
      exact ⟨[], rfl, fun _ _ => List.Pairwise.nil⟩
  | succ fuel ih =>
      match runs with
      | [] => exact ⟨[], rfl, fun _ _ => List.Pairwise.nil⟩
      | [run] => exact ⟨run, rfl, fun _ h => h run List.mem_cons_self⟩
      | a :: b :: rest =>
          obtain ⟨runs', hround, hmembers, hsorted⟩ := round_answers answers hruns
          have hlength : runs'.length ≤ fuel := by
            rw [(round_perm hround).2]
            simp only [List.length_cons] at hfuel ⊢
            omega
          obtain ⟨ys, hys, hin⟩ := ih hmembers hlength
          exact ⟨ys, (bind_of_ok hround _).trans hys,
            fun orders h => hin orders (hsorted orders h)⟩

/-- If all comparisons are answered, sorting does not fail.  Its result is in order if the answers
are those of an order. -/
theorem sortKeyed_answers (answers : Answers s P lt) {xs : List Keyed} (hxs : ∀ z ∈ xs, P z) :
    ∃ ys, sortKeyed xs s = .ok ys s ∧ (Orders P lt → InOrder lt ys) := by
  obtain ⟨runs, hruns, hmembers, hsorted⟩ :=
    sortedRuns_answers answers (leastRun xs.length) xs.length hxs
  obtain ⟨ys, hys, hin⟩ := mergeRuns_answers answers hmembers (Nat.le_refl _)
  exact ⟨ys, (bind_of_ok hruns _).trans hys, fun orders => hin orders (hsorted orders)⟩

end Answers

end BoundSql.Eval
