import Mathlib.Logic.Relation
import BoundSql.Query.Sql
import BoundSql.Value.Basic
set_option autoImplicit false

/-!
# Groups of elements

How the elements of a query are grouped into queries of their own does not matter.  Elements that
stand side by side may become one query, in the query itself or in a query inside of it, and so may
the items of a splat, if the separators between them go along.

A step of this kind is one rule of `Regroups`, used in some place: in the query, in a query inside
of it, or in a splat.  A splat allows less than a query, since it puts separators between its items,
and so the relation is told which of the two it is in (`Holder`).  A step changes no node
(`Regroups.flatten_eq`), and so no number of steps does (`Regrouped.flattenAll_eq`).  The one thing
to look out for is a step that would leave a splat without items, or make items for one that has
none (`Regroups.ne_nil`).

So whoever builds a query from fragments need not care how often fragments were joined before.
-/

namespace BoundSql.Query

variable {V : Type}

/-! ## Items side by side -/

/-- Between two rows of items of a splat stands one separator. -/
theorem flattenItems_append {es fs : List (Element V)} (hes : es ≠ []) (hfs : fs ≠ []) :
    flattenItems (es ++ fs) = flattenItems es ++ separator :: flattenItems fs := by
  have hrest : ∀ gs : List (Element V),
      flattenRest (gs ++ fs) = flattenRest gs ++ separator :: flattenItems fs := by
    intro gs
    induction gs with
    | nil =>
        obtain ⟨f, fs, rfl⟩ := List.exists_cons_of_ne_nil hfs
        rfl
    | cons g gs ih =>
        rw [List.cons_append, flattenRest, flattenRest, ih, List.cons_append, List.append_assoc]
  obtain ⟨e, es, rfl⟩ := List.exists_cons_of_ne_nil hes
  rw [List.cons_append, flattenItems, flattenItems, hrest, List.append_assoc]

/-- An item on its own has no separator. -/
@[simp] theorem flattenItems_singleton (e : Element V) : flattenItems [e] = e.flatten :=
  List.append_nil e.flatten

/-- Items can be put in the place of others that have the same nodes, if neither of the two rows is
empty. -/
theorem flattenItems_congr {es fs : List (Element V)} (hes : es ≠ []) (hfs : fs ≠ [])
    (h : flattenItems es = flattenItems fs) (before after : List (Element V)) :
    flattenItems (before ++ (es ++ after)) = flattenItems (before ++ (fs ++ after)) := by
  have hbehind : flattenItems (es ++ after) = flattenItems (fs ++ after) := by
    by_cases hafter : after = []
    · rw [hafter, List.append_nil, List.append_nil, h]
    · rw [flattenItems_append hes hafter, flattenItems_append hfs hafter, h]
  by_cases hbefore : before = []
  · rw [hbefore, List.nil_append, List.nil_append, hbehind]
  · rw [flattenItems_append hbefore (List.append_ne_nil_of_left_ne_nil hes after),
      flattenItems_append hbefore (List.append_ne_nil_of_left_ne_nil hfs after), hbehind]

/-! ## Steps -/

/-- What holds elements: a query, side by side, or a splat, as its items. -/
inductive Holder where
  | query
  | splat
  deriving DecidableEq, Repr, Inhabited

/-- The nodes of elements in a holder. -/
def Holder.flatten : Holder → List (Element V) → List (Node V)
  | query => flattenAll
  | splat => flattenItems

/-- One step of regrouping. -/
inductive Regroups : Holder → List (Element V) → List (Element V) → Prop where
  /-- any elements side by side become one query -/
  | gathered (es : List (Element V)) : Regroups .query es [.sql es]
  /-- an item of a splat becomes a query of its own -/
  | item (e : Element V) : Regroups .splat [e] [.sql [e]]
  /-- two items of a splat become one query, which has the separator between them -/
  | pair (e f : Element V) : Regroups .splat [e, f] [.sql [e, .literal separatorText, f]]
  /-- a plain value becomes an argument -/
  | bound (holder : Holder) (v : V) : Regroups holder [.plain v] [.argument v]
  /-- an inner query is made before the outer one, so that a row of nodes stands in its place -/
  | made (holder : Holder) (es : List (Element V)) :
      Regroups holder [.sql es] [(Sql.ofElements es).toElement]
  | insideQuery (holder : Holder) {es fs : List (Element V)} (inner : Regroups .query es fs) :
      Regroups holder [.sql es] [.sql fs]
  | insideSplat (holder : Holder) {es fs : List (Element V)} (inner : Regroups .splat es fs) :
      Regroups holder [.splat es] [.splat fs]
  /-- other elements stand in front and behind -/
  | beside {holder : Holder} {es fs : List (Element V)} (before after : List (Element V))
      (inner : Regroups holder es fs) :
      Regroups holder (before ++ (es ++ after)) (before ++ (fs ++ after))

/-- Elements that are regrouped any number of times. -/
abbrev Regrouped (es fs : List (Element V)) : Prop :=
  Relation.ReflTransGen (Regroups .query) es fs

/-- In a splat no step makes items out of nothing, and none takes the last one away. -/
theorem Regroups.ne_nil {holder : Holder} {es fs : List (Element V)} (h : Regroups holder es fs)
    (hholder : holder = .splat) : es ≠ [] ∧ fs ≠ [] := by
  induction h with
  | gathered es => cases hholder
  | item e => exact ⟨List.cons_ne_nil _ _, List.cons_ne_nil _ _⟩
  | pair e f => exact ⟨List.cons_ne_nil _ _, List.cons_ne_nil _ _⟩
  | bound holder v => exact ⟨List.cons_ne_nil _ _, List.cons_ne_nil _ _⟩
  | made holder es => exact ⟨List.cons_ne_nil _ _, List.cons_ne_nil _ _⟩
  | insideQuery holder inner ih => exact ⟨List.cons_ne_nil _ _, List.cons_ne_nil _ _⟩
  | insideSplat holder inner ih => exact ⟨List.cons_ne_nil _ _, List.cons_ne_nil _ _⟩
  | beside before after inner ih =>
      obtain ⟨hes, hfs⟩ := ih hholder
      exact ⟨List.append_ne_nil_of_right_ne_nil _ (List.append_ne_nil_of_left_ne_nil hes _),
        List.append_ne_nil_of_right_ne_nil _ (List.append_ne_nil_of_left_ne_nil hfs _)⟩

/-- A single element has the same nodes in every holder. -/
theorem Holder.flatten_singleton (holder : Holder) (e : Element V) :
    holder.flatten [e] = e.flatten := by
  cases holder with
  | query => exact List.append_nil e.flatten
  | splat => exact flattenItems_singleton e

/-- A step changes no node. -/
theorem Regroups.flatten_eq {holder : Holder} {es fs : List (Element V)}
    (h : Regroups holder es fs) : holder.flatten es = holder.flatten fs := by
  induction h with
  | gathered es => exact (Holder.flatten_singleton .query (.sql es)).symm
  | item e =>
      rw [Holder.flatten_singleton, Holder.flatten_singleton]
      exact (Holder.flatten_singleton .query e).symm
  | pair e f =>
      have hpair : flattenItems [e, f] = e.flatten ++ separator :: f.flatten := by
        rw [flattenItems, flattenRest, flattenRest, List.append_nil]
      have hquery : flattenAll [e, .literal separatorText, f]
          = e.flatten ++ separator :: f.flatten := by
        rw [flattenAll, flattenAll, flattenAll, flattenAll, List.append_nil]
        rfl
      rw [Holder.flatten_singleton, Holder.flatten, hpair, Element.flatten, hquery]
  | bound holder v => rw [Holder.flatten_singleton, Holder.flatten_singleton]; rfl
  | made holder es =>
      rw [Holder.flatten_singleton, Holder.flatten_singleton, Sql.toElement, Element.flatten,
        Element.flatten, flattenAll_toElement, Sql.ofElements]
  | insideQuery holder inner ih =>
      rw [Holder.flatten_singleton, Holder.flatten_singleton, Element.flatten, Element.flatten]
      exact ih
  | insideSplat holder inner ih =>
      rw [Holder.flatten_singleton, Holder.flatten_singleton, Element.flatten, Element.flatten]
      exact ih
  | @beside holder es fs before after inner ih =>
      cases holder with
      | query =>
          have hnodes : flattenAll es = flattenAll fs := ih
          rw [Holder.flatten, flattenAll_append, flattenAll_append, hnodes, flattenAll_append,
            flattenAll_append]
      | splat =>
          obtain ⟨hes, hfs⟩ := inner.ne_nil rfl
          exact flattenItems_congr hes hfs ih before after

theorem Regrouped.flattenAll_eq {es fs : List (Element V)} (h : Regrouped es fs) :
    flattenAll es = flattenAll fs := by
  induction h with
  | refl => rfl
  | tail others last ih => exact ih.trans last.flatten_eq

/-! ## Queries -/

/-- Grouping is irrelevant.  Elements that are regrouped, however often and however deep in the
query, make the same query.  What elements flatten to are literals and arguments only; elements one
behind the other flatten to their nodes one behind the other; and a query flattens to its own nodes,
so that making it again changes nothing. -/
theorem regrouped_elements_make_same_query :
    (∀ es fs : List (Element V), Regrouped es fs → Sql.ofElements fs = Sql.ofElements es) ∧
    (∀ es : List (Element V), ∀ n ∈ flattenAll es,
      (∃ fragment, n = .literal fragment) ∨ ∃ v, n = .argument v) ∧
    (∀ es fs : List (Element V), flattenAll (es ++ fs) = flattenAll es ++ flattenAll fs) ∧
    ∀ q : Sql V, Sql.ofElements (q.args.map Node.toElement) = q ∧
      flattenAll [q.toElement] = q.args := by
  refine ⟨fun es fs h => ?_, fun es n _ => ?_, flattenAll_append, fun q => ⟨?_, ?_⟩⟩
  · exact congrArg Sql.mk h.flattenAll_eq.symm
  · cases n with
    | literal fragment => exact .inl ⟨fragment, rfl⟩
    | argument v => exact .inr ⟨v, rfl⟩
  · rw [Sql.ofElements, flattenAll_toElement]
  · exact congrArg Sql.args (Sql.ofElements_toElement q)

open BoundSql.Value (Val) in
/-- Three steps: a literal and a value become a query, that query is made, and the items of the
splat behind it become one query with the separator between them. -/
theorem regrouped_elements_make_same_query_of_splat :
    let front : List (Element Val) := [.literal "a = ", .plain (.int 1)]
    let items : List (Element Val) := [.plain (.int 2), .sql []]
    let made : Element Val := .sql [.literal "a = ", .argument (.int 1)]
    let joined : Element Val := .splat [.sql [.plain (.int 2), .literal ",", .sql []]]
    Regrouped (front ++ [.splat items]) [made, joined] ∧
      Sql.ofElements [made, joined] = Sql.ofElements (front ++ [.splat items]) := by
  intro front items made joined
  have hgathered : Regroups .query (front ++ [.splat items]) [.sql front, .splat items] :=
    .beside [] [.splat items] (.gathered front)
  have hmade : Regroups .query [.sql front, .splat items] [made, .splat items] :=
    .beside [] [.splat items] (.made .query front)
  have hitems : Regroups .query [.splat items] [joined] := .insideSplat .query (.pair _ _)
  have hjoined : Regroups .query [made, .splat items] [made, joined] := .beside [made] [] hitems
  have hsteps : Regrouped (front ++ [.splat items]) [made, joined] :=
    ((Relation.ReflTransGen.single hgathered).tail hmade).tail hjoined
  exact ⟨hsteps, regrouped_elements_make_same_query.1 _ _ hsteps⟩

end BoundSql.Query
