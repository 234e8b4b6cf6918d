import BoundSql.Query.Compiler
set_option autoImplicit false

/-!
# Writing a query in a single pass

A query is compiled in two steps: its elements are flattened into a row of nodes, and the row is
written out.  This module writes the elements out directly, in one walk from left to right with one
counter for the placeholders (`Element.write`), and shows that nothing is lost or renumbered on the
way through the row of nodes.

The walk goes over the tree of elements, with a `Draft` that holds the text so far and the
parameters so far; the number of a placeholder is the length of the latter.  By induction over the
tree, writing an element is writing the nodes that it flattens to one after the other
(`Element.write_eq_foldl`, with the same for rows of elements and for items of splats), and writing
a row of nodes is what a compiler does with it (`Compiler.write_compiled`).

Elements that were flattened before, such as queries that are made of queries, can be settled
beforehand without a difference (`Element.settle`).
-/

namespace BoundSql.Query

variable {V : Type}

/-! ## The walk -/

/-- A query that is written as far as some point: its text, the values bound so far with the
numbers of their placeholders, and the number that comes next. -/
structure Draft (V : Type) where
  text : String := ""
  bound : List (V × Nat) := []
  next : Nat := 1
  deriving DecidableEq, Repr, Inhabited

namespace Draft

/-- Goes on with literal text. -/
def literal (c : Compiler) (d : Draft V) (fragment : String) : Draft V :=
  { d with text := d.text ++ c.literalText fragment }

/-- Goes on with a placeholder, which takes the next number. -/
def argument (c : Compiler) (d : Draft V) (v : V) : Draft V where
  text := d.text ++ c.placeholder d.next
  bound := d.bound ++ [(v, d.next)]
  next := d.next + 1

/-- The query that was written. -/
def compiled (d : Draft V) : Compiled V := ⟨d.text, d.bound.map Prod.fst⟩

end Draft

mutual

/-- Goes on with an element. -/
def Element.write (c : Compiler) (d : Draft V) : Element V → Draft V
  | .literal fragment => d.literal c fragment
  | .argument v => d.argument c v
  | .plain v => d.argument c v
  | .sql elements => writeAll c d elements
  | .splat items => writeItems c d items

/-- Goes on with elements, one behind the other. -/
def writeAll (c : Compiler) (d : Draft V) : List (Element V) → Draft V
  | [] => d
  | e :: es => writeAll c (e.write c d) es

/-- Goes on with the items of a splat, with the separator between one item and the next. -/
def writeItems (c : Compiler) (d : Draft V) : List (Element V) → Draft V
  | [] => d
  | [e] => e.write c d
  | e :: f :: es => writeItems c ((e.write c d).literal c separatorText) (f :: es)

end

/-- Writes elements out from the beginning. -/
def Compiler.write (c : Compiler) (elements : List (Element V)) : Draft V :=
  writeAll c {} elements

/-- Writing the items of a splat is writing its items with separators put between them. -/
theorem writeItems_eq_writeAll_intersperse (c : Compiler) (d : Draft V)
    (items : List (Element V)) :
    writeItems c d items = writeAll c d (items.intersperse (.literal separatorText)) := by
  induction items generalizing d with
  | nil => rw [writeItems, List.intersperse_nil, writeAll]
  | cons e es ih =>
      cases es with
      | nil => rw [writeItems, List.intersperse_singleton, writeAll, writeAll]
      | cons f es =>
          rw [writeItems, ih, List.intersperse_cons_cons, writeAll, writeAll, Element.write]

/-! ## The walk over nodes -/

/-- Goes on with a node. -/
def Draft.node (c : Compiler) (d : Draft V) : Node V → Draft V
  | .literal fragment => d.literal c fragment
  | .argument v => d.argument c v

mutual

/-- An element is written like the row of its nodes. -/
theorem Element.write_eq_foldl (c : Compiler) (d : Draft V) (e : Element V) :
    e.write c d = e.flatten.foldl (Draft.node c) d := by
  cases e with
  | literal fragment => rfl
  | argument v => rfl
  | plain v => rfl
  | sql elements =>
      rw [Element.write, Element.flatten]
      exact writeAll_eq_foldl c d elements
  | splat items =>
      rw [Element.write, Element.flatten]
      exact writeItems_eq_foldl c d items

theorem writeAll_eq_foldl (c : Compiler) (d : Draft V) (es : List (Element V)) :
    writeAll c d es = (flattenAll es).foldl (Draft.node c) d := by
  cases es with
  | nil => rfl
  | cons e es =>
      rw [writeAll, flattenAll, List.foldl_append, ← Element.write_eq_foldl c d e]
      exact writeAll_eq_foldl c _ es

theorem writeItems_eq_foldl (c : Compiler) (d : Draft V) (items : List (Element V)) :
    writeItems c d items = (flattenItems items).foldl (Draft.node c) d := by
  match items with
  | [] => rfl
  | [e] =>
      rw [writeItems, flattenItems, flattenRest, List.append_nil]
      exact Element.write_eq_foldl c d e
  | e :: f :: es =>
      -- The nodes of the further items are a separator and the nodes of a shorter splat.
      have hrest : flattenItems (e :: f :: es)
          = e.flatten ++ separator :: flattenItems (f :: es) := rfl
      rw [writeItems, hrest, List.foldl_append, List.foldl_cons, ← Element.write_eq_foldl c d e]
      exact writeItems_eq_foldl c _ (f :: es)

end

/-! ## What a row of nodes adds -/

/-- The texts of the nodes are written one behind the other. -/
theorem foldl_node_text (c : Compiler) (ns : List (Node V)) (d : Draft V) :
    (ns.foldl (Draft.node c) d).text = d.text ++ String.join (c.texts d.next ns) := by
  induction ns generalizing d with
  | nil => simp [Compiler.texts]
  | cons n ns ih =>
      rw [List.foldl_cons, ih]
      cases n with
      | literal s =>
          simp only [Draft.node, Draft.literal, Compiler.texts, String.join_cons,
            String.append_assoc]
      | argument v =>
          simp only [Draft.node, Draft.argument, Compiler.texts, String.join_cons,
            String.append_assoc]

/-- The values of the nodes are bound in their order, by consecutive numbers. -/
theorem foldl_node_bound (c : Compiler) (ns : List (Node V)) (d : Draft V) :
    (ns.foldl (Draft.node c) d).bound
      = d.bound ++ (ns.filterMap Node.value?).zipIdx d.next := by
  induction ns generalizing d with
  | nil => simp
  | cons n ns ih =>
      rw [List.foldl_cons, ih]
      cases n with
      | literal s => rfl
      | argument v =>
          simp only [Draft.node, Draft.argument, List.filterMap_cons, Node.value?_argument,
            List.zipIdx_cons, List.append_assoc, List.singleton_append]

/-- What the walk binds are the parameters of the query, numbered from one. -/
theorem Compiler.write_bound (c : Compiler) (es : List (Element V)) :
    (c.write es).bound = (Sql.ofElements es).params.zipIdx 1 := by
  rw [Compiler.write, writeAll_eq_foldl, foldl_node_bound]
  rfl

/-- The walk over the elements and the compilation of their row of nodes write the same query. -/
theorem Compiler.write_compiled (c : Compiler) (es : List (Element V)) :
    (c.write es).compiled = c.compile (Sql.ofElements es) := by
  have htext : (c.write es).text = String.join (c.texts 1 (flattenAll es)) := by
    rw [Compiler.write, writeAll_eq_foldl, foldl_node_text]
    exact String.empty_append
  rw [Draft.compiled, htext, Compiler.write_bound, List.zipIdx_map_fst]
  rfl

/-! ## Queries that are made from the inside out -/

mutual

/-- The element with every query in it made first: a query that stands inside another one is a row
of nodes by the time the outer one is made. -/
def Element.settle : Element V → Element V
  | .literal fragment => .literal fragment
  | .argument v => .argument v
  | .plain v => .plain v
  | .sql elements => (Sql.ofElements (settleAll elements)).toElement
  | .splat items => .splat (settleAll items)

/-- The elements with every query in them made first. -/
def settleAll : List (Element V) → List (Element V)
  | [] => []
  | e :: es => e.settle :: settleAll es

end

mutual

theorem Element.flatten_settle (e : Element V) : e.settle.flatten = e.flatten := by
  cases e with
  | literal fragment => rfl
  | argument v => rfl
  | plain v => rfl
  | sql elements =>
      rw [Element.settle, Sql.toElement, Element.flatten, flattenAll_toElement, Element.flatten]
      exact flattenAll_settleAll elements
  | splat items =>
      rw [Element.settle, Element.flatten, Element.flatten]
      exact flattenItems_settleAll items

/-- Making inner queries first changes no node. -/
theorem flattenAll_settleAll (es : List (Element V)) :
    flattenAll (settleAll es) = flattenAll es := by
  cases es with
  | nil => rfl
  | cons e es =>
      rw [settleAll, flattenAll, flattenAll, Element.flatten_settle e, flattenAll_settleAll es]

theorem flattenItems_settleAll (items : List (Element V)) :
    flattenItems (settleAll items) = flattenItems items := by
  cases items with
  | nil => rfl
  | cons e es =>
      rw [settleAll, flattenItems, flattenItems, Element.flatten_settle e,
        flattenRest_settleAll es]

theorem flattenRest_settleAll (items : List (Element V)) :
    flattenRest (settleAll items) = flattenRest items := by
  cases items with
  | nil => rfl
  | cons e es =>
      rw [settleAll, flattenRest, flattenRest, Element.flatten_settle e,
        flattenRest_settleAll es]

end

/-! ## Two steps are one -/

end BoundSql.Query
