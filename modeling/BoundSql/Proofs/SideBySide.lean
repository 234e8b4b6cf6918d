import Mathlib
import BoundSql.Query.Compiler
set_option autoImplicit false

/-!
# Literals side by side

Where a row of nodes has several literals side by side, they could as well be one.  Two rows that
are the same up to that are written out as the same text with the same parameters
(`compile_eq_of_joinLiterals_eq`), unless literal text is changed on the way, and stay the same up
to that when more nodes are put in front of them, behind them, or in the places of their arguments.

The same up to that means that the rows are equal when their literals are joined (`joinLiterals`),
which is a normal form: joining twice is joining once, and joining one part of a row first makes no
difference (`joinLiterals_joinLiterals_append`).  Literals without characters disappear by it.

This is how the text of a template and its parts are related, since a run of literal text is cut in
two by whatever splits the template; and it is the sense in which a fragment and its text are equal.
-/

namespace BoundSql.Query

variable {α V : Type}

/-! ## Joining -/

/-- A literal as a row of nodes; one without text is left out. -/
def literalRow (s : String) : List (Node V) := if s = "" then [] else [.literal s]

/-- Literal text in front of a row whose literals are joined. -/
def withText (s : String) : List (Node V) → List (Node V)
  | [] => literalRow s
  | .literal t :: ns => .literal (s ++ t) :: ns
  | .argument v :: ns => literalRow s ++ .argument v :: ns

/-- A row of nodes with all literals that stand side by side joined, and those without text left
out. -/
def joinLiterals : List (Node V) → List (Node V)
  | [] => []
  | .literal s :: ns => withText s (joinLiterals ns)
  | .argument v :: ns => .argument v :: joinLiterals ns

@[simp] theorem literalRow_empty : literalRow "" = ([] : List (Node V)) := if_pos rfl

theorem literalRow_of_ne {s : String} (h : s ≠ "") :
    literalRow s = [(.literal s : Node V)] := if_neg h

@[simp] theorem withText_empty (ns : List (Node V)) : withText "" ns = ns := by
  cases ns with
  | nil => exact literalRow_empty
  | cons n ns =>
      cases n with
      | literal t => rw [withText, String.empty_append]
      | argument v => rw [withText, literalRow_empty, List.nil_append]

/-- Text in front of text is one text. -/
theorem withText_withText (s t : String) (ns : List (Node V)) :
    withText s (withText t ns) = withText (s ++ t) ns := by
  by_cases ht : t = ""
  · rw [ht, withText_empty, String.append_empty]
  · have hst : s ++ t ≠ "" := fun h => ht (String.append_eq_empty_iff.mp h).2
    cases ns with
    | nil =>
        rw [withText, withText, literalRow_of_ne ht, literalRow_of_ne hst, withText]
    | cons n ns =>
        cases n with
        | literal u => rw [withText, withText, withText, String.append_assoc]
        | argument v =>
            rw [withText, withText, literalRow_of_ne ht, literalRow_of_ne hst, List.cons_append,
              List.cons_append, withText]

/-- Text in front of a row that is joined is joined with more nodes behind it like text in front of
both. -/
theorem joinLiterals_withText_append (s : String) (ns ms : List (Node V)) :
    joinLiterals (withText s ns ++ ms) = withText s (joinLiterals (ns ++ ms)) := by
  have hrow : ∀ ks : List (Node V),
      joinLiterals (literalRow s ++ ks) = withText s (joinLiterals ks) := by
    intro ks
    by_cases hs : s = ""
    · rw [hs, literalRow_empty, List.nil_append, withText_empty]
    · rw [literalRow_of_ne hs, List.cons_append, List.nil_append, joinLiterals]
  cases ns with
  | nil => exact hrow ms
  | cons n ns =>
      cases n with
      | literal t =>
          rw [withText, List.cons_append, List.cons_append, joinLiterals, joinLiterals,
            withText_withText]
      | argument v => rw [withText, List.append_assoc, hrow]

theorem joinLiterals_joinLiterals_append (ns ms : List (Node V)) :
    joinLiterals (joinLiterals ns ++ ms) = joinLiterals (ns ++ ms) := by
  induction ns with
  | nil => rfl
  | cons n ns ih =>
      cases n with
      | literal s =>
          rw [joinLiterals, joinLiterals_withText_append, ih, List.cons_append, joinLiterals]
      | argument v =>
          rw [joinLiterals, List.cons_append, joinLiterals, ih, List.cons_append, joinLiterals]

theorem joinLiterals_append_of_eq (ns : List (Node V)) {ms ms' : List (Node V)}
    (h : joinLiterals ms = joinLiterals ms') :
    joinLiterals (ns ++ ms) = joinLiterals (ns ++ ms') := by
  induction ns with
  | nil => exact h
  | cons n ns ih =>
      cases n with
      | literal s => rw [List.cons_append, List.cons_append, joinLiterals, joinLiterals, ih]
      | argument v => rw [List.cons_append, List.cons_append, joinLiterals, joinLiterals, ih]

/-- Rows that are the same up to joining stay so behind one another. -/
theorem joinLiterals_append_congr {ns ns' ms ms' : List (Node V)}
    (hn : joinLiterals ns = joinLiterals ns') (hm : joinLiterals ms = joinLiterals ms') :
    joinLiterals (ns ++ ms) = joinLiterals (ns' ++ ms') := by
  calc joinLiterals (ns ++ ms)
      = joinLiterals (joinLiterals ns ++ ms) := (joinLiterals_joinLiterals_append ns ms).symm
    _ = joinLiterals (ns' ++ ms) := by rw [hn, joinLiterals_joinLiterals_append]
    _ = joinLiterals (ns' ++ ms') := joinLiterals_append_of_eq ns' hm

/-! ## What joining leaves as it is -/

theorem values_withText (s : String) (ns : List (Node V)) :
    (withText s ns).filterMap Node.value? = ns.filterMap Node.value? := by
  have hrow : (literalRow s : List (Node V)).filterMap Node.value? = [] := by
    by_cases hs : s = ""
    · rw [hs, literalRow_empty, List.filterMap_nil]
    · rw [literalRow_of_ne hs]
      rfl
  cases ns with
  | nil => exact hrow
  | cons n ns =>
      cases n with
      | literal t => rfl
      | argument v => rw [withText, List.filterMap_append, hrow, List.nil_append]

/-- The values of the arguments stay, in their order. -/
theorem values_joinLiterals (ns : List (Node V)) :
    (joinLiterals ns).filterMap Node.value? = ns.filterMap Node.value? := by
  induction ns with
  | nil => rfl
  | cons n ns ih =>
      cases n with
      | literal s => rw [joinLiterals, values_withText, ih]; rfl
      | argument v => rw [joinLiterals, List.filterMap_cons, List.filterMap_cons, ih]

/-- Rows that are the same up to joining have the same values. -/
theorem values_eq_of_joinLiterals_eq {ns ms : List (Node V)}
    (h : joinLiterals ns = joinLiterals ms) :
    ns.filterMap Node.value? = ms.filterMap Node.value? := by
  rw [← values_joinLiterals ns, h, values_joinLiterals]

section Texts

variable {p : Placeholder}

theorem join_texts_withText (s : String) (ns : List (Node V)) (next : Nat) :
    String.join (Compiler.texts ⟨p, none⟩ next (withText s ns))
      = s ++ String.join (Compiler.texts ⟨p, none⟩ next ns) := by
  have hrow : ∀ ks : List (Node V),
      String.join (Compiler.texts ⟨p, none⟩ next (literalRow s ++ ks))
        = s ++ String.join (Compiler.texts ⟨p, none⟩ next ks) := by
    intro ks
    by_cases hs : s = ""
    · rw [hs, literalRow_empty, List.nil_append, String.empty_append]
    · rw [literalRow_of_ne hs, List.cons_append, List.nil_append, Compiler.texts,
        String.join_cons, Compiler.literalText]
  cases ns with
  | nil =>
      have hnil := hrow []
      rwa [List.append_nil] at hnil
  | cons n ns =>
      cases n with
      | literal t =>
          rw [withText, Compiler.texts, Compiler.texts, String.join_cons, String.join_cons,
            Compiler.literalText, Compiler.literalText, String.append_assoc]
      | argument v => exact hrow (.argument v :: ns)

/-- The text that is written for a row stays, unless literal text is changed on the way. -/
theorem join_texts_joinLiterals (ns : List (Node V)) (next : Nat) :
    String.join (Compiler.texts ⟨p, none⟩ next (joinLiterals ns))
      = String.join (Compiler.texts ⟨p, none⟩ next ns) := by
  induction ns generalizing next with
  | nil => rfl
  | cons n ns ih =>
      cases n with
      | literal s =>
          rw [joinLiterals, join_texts_withText, ih, Compiler.texts, String.join_cons,
            Compiler.literalText]
      | argument v =>
          rw [joinLiterals, Compiler.texts, Compiler.texts, String.join_cons, String.join_cons, ih]

/-- Queries that are the same up to joining are written out the same. -/
theorem compile_eq_of_joinLiterals_eq (p : Placeholder) {q r : Sql V}
    (h : joinLiterals q.args = joinLiterals r.args) :
    Compiler.compile ⟨p, none⟩ q = Compiler.compile ⟨p, none⟩ r := by
  have htext : String.join (Compiler.texts ⟨p, none⟩ 1 q.args)
      = String.join (Compiler.texts ⟨p, none⟩ 1 r.args) := by
    rw [← join_texts_joinLiterals q.args, h, join_texts_joinLiterals]
  rw [Compiler.compile, Compiler.compile, htext, Sql.params, Sql.params,
    values_eq_of_joinLiterals_eq h]

end Texts

/-! ## Rows in the places of arguments -/

/-- A row with other rows of nodes in the places of its arguments, one for each, in order. -/
def fillIn : List (Node α) → List (List (Node V)) → List (Node V)
  | [], _ => []
  | .literal s :: ns, rows => .literal s :: fillIn ns rows
  | .argument _ :: _, [] => []
  | .argument _ :: ns, row :: rows => row ++ fillIn ns rows

theorem joinLiterals_fillIn_withText (s : String) (ns : List (Node α))
    (rows : List (List (Node V))) :
    joinLiterals (fillIn (withText s ns) rows) = withText s (joinLiterals (fillIn ns rows)) := by
  have hrow : ∀ ks : List (Node α),
      joinLiterals (fillIn (literalRow s ++ ks) rows)
        = withText s (joinLiterals (fillIn ks rows)) := by
    intro ks
    by_cases hs : s = ""
    · rw [hs, literalRow_empty, List.nil_append, withText_empty]
    · rw [literalRow_of_ne hs, List.cons_append, List.nil_append, fillIn, joinLiterals]
  cases ns with
  | nil =>
      have hnil := hrow []
      rwa [List.append_nil] at hnil
  | cons n ns =>
      cases n with
      | literal t =>
          rw [withText, fillIn, fillIn, joinLiterals, joinLiterals, withText_withText]
      | argument v => exact hrow (.argument v :: ns)

/-- It does not matter whether literals are joined before the places of arguments are filled. -/
theorem joinLiterals_fillIn_joinLiterals (ns : List (Node α)) (rows : List (List (Node V))) :
    joinLiterals (fillIn (joinLiterals ns) rows) = joinLiterals (fillIn ns rows) := by
  induction ns generalizing rows with
  | nil => rfl
  | cons n ns ih =>
      cases n with
      | literal s => rw [joinLiterals, joinLiterals_fillIn_withText, ih, fillIn, joinLiterals]
      | argument v =>
          cases rows with
          | nil => rfl
          | cons row rows => exact joinLiterals_append_of_eq row (ih rows)

/-- Rows that are the same up to joining stay so when the places of their arguments are filled. -/
theorem joinLiterals_fillIn_eq {ns ms : List (Node α)} (h : joinLiterals ns = joinLiterals ms)
    (rows : List (List (Node V))) :
    joinLiterals (fillIn ns rows) = joinLiterals (fillIn ms rows) := by
  rw [← joinLiterals_fillIn_joinLiterals ns, h, joinLiterals_fillIn_joinLiterals]

/-- The places of a row that is followed by another one are filled first. -/
theorem fillIn_append (ns ms : List (Node α)) {rows : List (List (Node V))}
    (h : rows.length = (ns.filterMap Node.value?).length) (others : List (List (Node V))) :
    fillIn (ns ++ ms) (rows ++ others) = fillIn ns rows ++ fillIn ms others := by
  induction ns generalizing rows with
  | nil =>
      obtain rfl : rows = [] := List.length_eq_zero_iff.mp h
      rfl
  | cons n ns ih =>
      cases n with
      | literal s => rw [List.cons_append, fillIn, fillIn, ih h, List.cons_append]
      | argument v =>
          cases rows with
          | nil => cases h
          | cons row rows =>
              rw [List.cons_append, List.cons_append, fillIn, fillIn, ih (Nat.succ.inj h),
                List.append_assoc]

end BoundSql.Query
