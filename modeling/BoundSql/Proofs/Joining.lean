import BoundSql.Query.Compiler
import BoundSql.Value.Operator
set_option autoImplicit false

/-!
# Queries one after the other

Joining two queries puts a blank between their nodes.  The second query is written out as it is on
its own, except that its placeholders count on from the parameters of the first one; and since the
result is a row of nodes again, it does not matter in which order several queries are joined.

That placeholders count on is said without looking into the text: `Compiler.countingOn` is the
compiler whose placeholders begin later, and what the second query contributes is its text under
that compiler (`Compiler.compile_join`).  Where placeholders are not numbered, that is the same
compiler.

A `Chain` is any way to put queries together by joining two at a time.  Its value depends on the row
of its queries and not on how they are bracketed (`Chain.value_eq_of_queries_eq`).
-/

namespace BoundSql.Query

variable {V : Type}

/-! ## Counting on -/

/-- A compiler whose placeholders count on behind `n` parameters. -/
def Compiler.countingOn (c : Compiler) (n : Nat) : Compiler :=
  { c with placeholder := fun i => c.placeholder (i + n) }

/-- Counting on and beginning later come to the same texts. -/
theorem Compiler.texts_countingOn (c : Compiler) (n next : Nat) (ns : List (Node V)) :
    (c.countingOn n).texts next ns = c.texts (next + n) ns := by
  induction ns generalizing next with
  | nil => rfl
  | cons node ns ih =>
      cases node with
      | literal s => rw [texts, texts, ih, literalText, literalText, countingOn]
      | argument v =>
          have hplace : (c.countingOn n).placeholder next
              = c.placeholder ((next + n : Nat) : Int) := by
            rw [countingOn, Int.natCast_add]
          rw [texts, texts, ih, hplace, Nat.add_right_comm]

/-- Rows of nodes one behind the other are written out one behind the other; the second one counts
on from the first. -/
theorem Compiler.join_texts_append (c : Compiler) (ns ms : List (Node V)) :
    String.join (c.texts 1 (ns ++ ms))
      = String.join (c.texts 1 ns)
        ++ String.join ((c.countingOn (ns.filterMap Node.value?).length).texts 1 ms) := by
  rw [texts_append, String.join_append, texts_countingOn]

/-- A joined query is the first text, a blank, and the second text with its placeholders counting
on from the parameters of the first query. -/
theorem Compiler.compile_join (c : Compiler) (q r : Sql V) :
    c.compile (q.join r)
      = ⟨(c.compile q).sql ++ c.literalText Sql.blank
            ++ ((c.countingOn q.params.length).compile r).sql,
          (c.compile q).params ++ ((c.countingOn q.params.length).compile r).params⟩ := by
  have hsql : (c.compile (q.join r)).sql
      = (c.compile q).sql ++ (c.literalText Sql.blank
        ++ ((c.countingOn q.params.length).compile r).sql) := by
    calc (c.compile (q.join r)).sql
        = String.join (c.texts 1 q.args) ++ String.join
            ((c.countingOn q.params.length).texts 1 (.literal Sql.blank :: r.args)) :=
          c.join_texts_append q.args (.literal Sql.blank :: r.args)
      _ = _ := by rw [texts, String.join_cons]; rfl
  rw [String.append_assoc, ← hsql]
  exact congrArg (Compiled.mk _) (Sql.params_join q r)

/-! ## Joining as making a query of elements -/

/-- Joining is making a query of the two queries and the blank between them. -/
theorem Sql.join_eq_ofElements_nested (q r : Sql V) :
    q.join r = Sql.ofElements [q.toElement, .literal Sql.blank, r.toElement] := by
  simp only [Sql.join, Sql.ofElements, Sql.toElement, flattenAll, Element.flatten,
    flattenAll_toElement, List.append_nil, List.singleton_append]

theorem Sql.join_assoc (q r t : Sql V) : (q.join r).join t = q.join (r.join t) := by
  simp only [Sql.join, List.append_assoc, List.cons_append]

/-! ## Chains -/

/-- Queries joined in some order: a query, or two chains that are joined. -/
inductive Chain (V : Type) where
  | query (q : Sql V)
  | plus (left right : Chain V)
  deriving DecidableEq, Repr

instance : Inhabited (Chain V) := ⟨.query default⟩

namespace Chain

/-- The query that a chain comes to. -/
def value : Chain V → Sql V
  | query q => q
  | plus left right => left.value.join right.value

/-- The queries of a chain from left to right. -/
def queries : Chain V → List (Sql V)
  | query q => [q]
  | plus left right => left.queries ++ right.queries

theorem queries_ne_nil (t : Chain V) : t.queries ≠ [] := by
  induction t with
  | query q => exact List.cons_ne_nil q []
  | plus left right ihl _ => exact fun h => ihl (List.append_eq_nil_iff.mp h).1

end Chain

/-- Rows with a separator between them, followed by more of them. -/
theorem intercalate_append {α : Type} (sep : List α) {xss yss : List (List α)} (hx : xss ≠ [])
    (hy : yss ≠ []) :
    sep.intercalate (xss ++ yss) = sep.intercalate xss ++ (sep ++ sep.intercalate yss) := by
  induction xss with
  | nil => exact absurd rfl hx
  | cons xs xss ih =>
      cases xss with
      | nil =>
          rw [List.singleton_append, List.intercalate_cons_of_ne_nil hy, List.intercalate_singleton,
            List.append_assoc]
      | cons zs xss =>
          rw [List.cons_append, List.cons_append, List.intercalate_cons_cons,
            List.intercalate_cons_cons, ← List.cons_append, ih (List.cons_ne_nil zs xss),
            List.append_assoc, List.append_assoc, List.append_assoc]

/-- A chain comes to the nodes of its queries with a blank between one query and the next, whether
or not they have any. -/
theorem Chain.args_value (t : Chain V) :
    t.value.args = [Node.literal Sql.blank].intercalate (t.queries.map Sql.args) := by
  induction t with
  | query q => exact List.intercalate_singleton.symm
  | plus left right ihl ihr =>
      have hl : left.queries.map Sql.args ≠ [] := by
        rw [Ne, List.map_eq_nil_iff]
        exact left.queries_ne_nil
      have hr : right.queries.map Sql.args ≠ [] := by
        rw [Ne, List.map_eq_nil_iff]
        exact right.queries_ne_nil
      rw [queries, List.map_append, intercalate_append _ hl hr, ← ihl, ← ihr]
      rfl

/-- Chains of the same queries come to the same query. -/
theorem Chain.value_eq_of_queries_eq {s t : Chain V} (h : s.queries = t.queries) :
    s.value = t.value := by
  have hargs : s.value.args = t.value.args := by rw [s.args_value, h, ← t.args_value]
  exact congrArg Sql.mk hargs

/-! ## The laws of joining -/

open BoundSql.Value (Store Val applyBinary ofSql) in
/-- What the plus of two queries is.  Its text is the text of the first query, a blank, and the text
of the second one with the placeholders counting on, and its parameters are those of both.  It is
the query made of the two with a blank between them, it is associative, and a chain of queries comes
to the same whichever way it is bracketed: every query, the empty one too, stands between its
blanks. -/
theorem join_counts_on_and_associates :
    (∀ (a b : Sql Val) (s : Store),
      applyBinary .add (ofSql a) (ofSql b) s = .ok (ofSql (a.join b)) s) ∧
    (∀ (p : Placeholder) (a b : Sql Val),
      Compiler.compile ⟨p, none⟩ (a.join b)
        = ⟨(Compiler.compile ⟨p, none⟩ a).sql ++ " "
              ++ (Compiler.compile ⟨fun i => p (i + a.params.length), none⟩ b).sql,
            (Compiler.compile ⟨p, none⟩ a).params ++ (Compiler.compile ⟨p, none⟩ b).params⟩) ∧
    (∀ a b c : Sql Val, (a.join b).join c = a.join (b.join c)) ∧
    (∀ a b : Sql Val, a.join b = Sql.ofElements [a.toElement, .literal " ", b.toElement]) ∧
    ∀ s t : Chain Val, s.queries = t.queries →
      s.value = t.value ∧
        s.value.args = [Node.literal " "].intercalate (s.queries.map Sql.args) ∧
        ∀ c : Compiler, c.compile s.value = c.compile t.value := by
  refine ⟨fun _ _ _ => rfl, fun p a b => ?_, Sql.join_assoc, Sql.join_eq_ofElements_nested, ?_⟩
  · exact Compiler.compile_join ⟨p, none⟩ a b
  · intro s t h
    have hvalue : s.value = t.value := Chain.value_eq_of_queries_eq h
    exact ⟨hvalue, s.args_value, fun c => congrArg c.compile hvalue⟩

open BoundSql.Value (Val) in
/-- Two bracketings of a query, the empty query and a third one with a parameter of its own. -/
theorem join_counts_on_and_associates_around_empty :
    let q : Sql Val := ⟨[.literal "a = ", .argument (.int 1)]⟩
    let r : Sql Val := ⟨[.argument (.int 2)]⟩
    let s : Chain Val := .plus (.plus (.query q) (.query ⟨[]⟩)) (.query r)
    let t : Chain Val := .plus (.query q) (.plus (.query ⟨[]⟩) (.query r))
    s.queries = t.queries ∧ s.value = t.value ∧
      s.value.args = [.literal "a = ", .argument (.int 1), .literal " ", .literal " ",
        .argument (.int 2)] :=
  have hchains := join_counts_on_and_associates.2.2.2.2
    (.plus (.plus (.query ⟨[.literal "a = ", .argument (.int 1)]⟩) (.query ⟨[]⟩))
      (.query ⟨[.argument (.int 2)]⟩))
    (.plus (.query ⟨[.literal "a = ", .argument (.int 1)]⟩)
      (.plus (.query ⟨[]⟩) (.query ⟨[.argument (.int 2)]⟩))) rfl
  ⟨rfl, hchains.1, hchains.2.1⟩

end BoundSql.Query
