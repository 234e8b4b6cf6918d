import BoundSql.Proofs.Grouping
import BoundSql.Proofs.Joining
set_option autoImplicit false

/-!
# Separators of splats

A splat puts a separator between one item and the next before it is known what the items come to.
So it is a comma separated list of what its items come to, splats inside of it included, if and only
if no splat has an item without nodes beside another item: an item without nodes leaves one
separator too many behind.

`Element.entries` is the list that a splat is meant for, with the items of inner splats in their
places.  One direction is an induction over the elements (`Element.Filled.flatten_eq`,
`AllFilled.flattenItems_eq`).  For the other one it is enough to count: flattening never comes to
fewer nodes than the separated list has (`Element.length_intercalate_le`), and to more of them as
soon as one item is empty (`length_splats_le`), so that equal rows leave no room for an empty item
anywhere.

An empty item does no harm where it is the only one.  Beside others it shows as a comma that
separates nothing.
-/

namespace BoundSql.Query

variable {V : Type}

/-! ## What a splat comes to -/

mutual

/-- The rows of nodes that an element adds to a list: for a splat the rows of its items, and for any
other element its nodes, if it has some. -/
def Element.entries : Element V → List (List (Node V))
  | .literal fragment => [[.literal fragment]]
  | .argument v => [[.argument v]]
  | .plain v => [[.argument v]]
  | .sql elements => if (flattenAll elements).isEmpty then [] else [flattenAll elements]
  | .splat items => entriesOfItems items

/-- The rows of nodes that the items of a splat add to a list. -/
def entriesOfItems : List (Element V) → List (List (Node V))
  | [] => []
  | e :: es => e.entries ++ entriesOfItems es

end

mutual

/-- No splat in an element has an item without nodes beside another item. -/
def Element.Filled : Element V → Prop
  | .splat items => (items.length ≤ 1 ∨ ∀ e ∈ items, e.flatten ≠ []) ∧ AllFilled items
  | _ => True

/-- No splat among elements, or inside of them, has an item without nodes beside another item. -/
def AllFilled : List (Element V) → Prop
  | [] => True
  | e :: es => e.Filled ∧ AllFilled es

end

mutual

/-- No row is empty. -/
theorem Element.ne_nil_of_mem_entries (e : Element V) : ∀ row ∈ e.entries, row ≠ [] := by
  intro row hrow
  cases e with
  | literal fragment => rw [List.mem_singleton.mp hrow]; exact List.cons_ne_nil _ _
  | argument v => rw [List.mem_singleton.mp hrow]; exact List.cons_ne_nil _ _
  | plain v => rw [List.mem_singleton.mp hrow]; exact List.cons_ne_nil _ _
  | sql elements =>
      rw [Element.entries] at hrow
      split at hrow
      next => cases hrow
      next hne =>
        rw [List.mem_singleton.mp hrow]
        exact fun hnil => hne (List.isEmpty_iff.mpr hnil)
  | splat items => exact ne_nil_of_mem_entriesOfItems items row hrow

theorem ne_nil_of_mem_entriesOfItems (items : List (Element V)) :
    ∀ row ∈ entriesOfItems items, row ≠ [] := by
  intro row hrow
  cases items with
  | nil => cases hrow
  | cons e es =>
      rw [entriesOfItems, List.mem_append] at hrow
      rcases hrow with hrow | hrow
      · exact e.ne_nil_of_mem_entries row hrow
      · exact ne_nil_of_mem_entriesOfItems es row hrow

end

/-! ## Splats without empty items -/

mutual

/-- Without empty items, the nodes of an element are its rows with separators between them. -/
theorem Element.Filled.flatten_eq {e : Element V} (h : e.Filled) :
    e.flatten = [separator].intercalate e.entries := by
  cases e with
  | literal fragment => exact List.intercalate_singleton.symm
  | argument v => exact List.intercalate_singleton.symm
  | plain v => exact List.intercalate_singleton.symm
  | sql elements =>
      rw [Element.flatten, Element.entries]
      split
      next hnil => exact List.isEmpty_iff.mp hnil
      next => exact List.intercalate_singleton.symm
  | splat items =>
      obtain ⟨hitems, hall⟩ := h
      exact hall.flattenItems_eq hitems

theorem AllFilled.flattenItems_eq {items : List (Element V)} (h : AllFilled items)
    (hitems : items.length ≤ 1 ∨ ∀ e ∈ items, e.flatten ≠ []) :
    flattenItems items = [separator].intercalate (entriesOfItems items) := by
  match items with
  | [] => rfl
  | [e] =>
      rw [flattenItems_singleton, entriesOfItems, entriesOfItems, List.append_nil]
      exact h.1.flatten_eq
  | e :: f :: es =>
      have hnodes : ∀ g ∈ e :: f :: es, g.flatten ≠ [] := by
        rcases hitems with hshort | hnodes
        · simp only [List.length_cons] at hshort
          omega
        · exact hnodes
      have hfirst := h.1.flatten_eq
      have hrest := AllFilled.flattenItems_eq h.2 (.inr fun g hg => hnodes g (.tail e hg))
      -- rows without nodes would be no rows at all, and the separator between them would go
      have hrow : e.entries ≠ [] := by
        intro hnil
        rw [hnil] at hfirst
        exact hnodes e List.mem_cons_self hfirst
      have hrows : entriesOfItems (f :: es) ≠ [] := by
        intro hnil
        rw [hnil, flattenItems] at hrest
        exact hnodes f (.tail e List.mem_cons_self) (List.append_eq_nil_iff.mp hrest).1
      have hcons := flattenItems_append (List.cons_ne_nil e []) (List.cons_ne_nil f es)
      have hrows' : entriesOfItems (e :: f :: es) = e.entries ++ entriesOfItems (f :: es) := rfl
      rw [List.singleton_append, flattenItems_singleton, hfirst, hrest] at hcons
      rw [hcons, hrows', intercalate_append _ hrow hrows, List.singleton_append]

end

/-! ## Counting nodes -/

/-- The nodes of a splat are those of its items and a separator for every item but one. -/
theorem length_flattenItems (items : List (Element V)) :
    (flattenItems items).length = (flattenAll items).length + (items.length - 1) := by
  induction items with
  | nil => rfl
  | cons e es ih =>
      cases es with
      | nil => simp [flattenAll]
      | cons f es =>
          have hcons := flattenItems_append (List.cons_ne_nil e []) (List.cons_ne_nil f es)
          rw [List.singleton_append, flattenItems_singleton] at hcons
          rw [hcons, flattenAll, List.length_append, List.length_append, List.length_cons, ih]
          simp only [List.length_cons]
          omega

theorem length_intercalate_separator (rows : List (List (Node V))) :
    ([separator].intercalate rows).length = rows.flatten.length + (rows.length - 1) := by
  induction rows with
  | nil => rfl
  | cons row rows ih =>
      cases rows with
      | nil => simp
      | cons row' rows =>
          have hflat : (row :: row' :: rows).flatten.length
              = row.length + (row' :: rows).flatten.length := by
            rw [List.flatten_cons, List.length_append]
          rw [List.intercalate_cons_cons, List.length_append, List.length_append, ih, hflat]
          simp only [List.length_cons, List.length_nil]
          omega

/-- Rows that are not empty have at least a node each. -/
theorem length_le_length_flatten {rows : List (List (Node V))} (h : ∀ row ∈ rows, row ≠ []) :
    rows.length ≤ rows.flatten.length := by
  induction rows with
  | nil => exact Nat.le_refl 0
  | cons row rows ih =>
      have hrow : 0 < row.length := List.length_pos_iff.mpr (h row List.mem_cons_self)
      have hrows := ih fun other hother => h other (List.mem_cons_of_mem row hother)
      rw [List.flatten_cons, List.length_append, List.length_cons]
      omega

mutual

/-- A splat never has fewer nodes than the list of its rows, and it has more if an item without
nodes stands beside another item. -/
theorem Element.length_intercalate_le (e : Element V) :
    ([separator].intercalate e.entries).length ≤ e.flatten.length ∧
      (([separator].intercalate e.entries).length = e.flatten.length → e.Filled) := by
  match e with
  | .literal fragment => exact ⟨Nat.le_refl _, fun _ => trivial⟩
  | .argument v => exact ⟨Nat.le_refl _, fun _ => trivial⟩
  | .plain v => exact ⟨Nat.le_refl _, fun _ => trivial⟩
  | .sql elements =>
      have hfilled : (Element.sql elements).Filled := trivial
      rw [← hfilled.flatten_eq]
      exact ⟨Nat.le_refl _, fun _ => hfilled⟩
  | .splat [] => exact ⟨Nat.le_refl _, fun _ => ⟨.inl (Nat.zero_le 1), trivial⟩⟩
  | .splat [e] =>
      obtain ⟨hle, hfilled⟩ := e.length_intercalate_le
      rw [Element.entries, entriesOfItems, entriesOfItems, List.append_nil, Element.flatten,
        flattenItems_singleton]
      exact ⟨hle, fun heq => ⟨.inl (Nat.le_refl 1), hfilled heq, trivial⟩⟩
  | .splat (e :: f :: es) =>
      obtain ⟨hle, hfilled⟩ := length_entriesOfItems_le (e :: f :: es)
      have hnodes := length_flattenItems (e :: f :: es)
      have hitems : (e :: f :: es).length = es.length + 2 := rfl
      have hempty : (entriesOfItems (e :: f :: es)).length = 0 →
          (entriesOfItems (e :: f :: es)).flatten.length = 0 := by
        intro hnil
        rw [List.length_eq_zero_iff.mp hnil]
        rfl
      rw [Element.entries, Element.flatten, length_intercalate_separator, hnodes]
      constructor
      · omega
      · intro heq
        obtain ⟨hall, hne⟩ := hfilled (by omega)
        exact ⟨.inr hne, hall⟩

theorem length_entriesOfItems_le (items : List (Element V)) :
    (entriesOfItems items).flatten.length + (entriesOfItems items).length
        ≤ (flattenAll items).length + items.length ∧
      ((entriesOfItems items).flatten.length + (entriesOfItems items).length
          = (flattenAll items).length + items.length →
        AllFilled items ∧ ∀ e ∈ items, e.flatten ≠ []) := by
  match items with
  | [] => exact ⟨Nat.le_refl _, fun _ => ⟨trivial, nofun⟩⟩
  | e :: es =>
      obtain ⟨hle, hfilled⟩ := e.length_intercalate_le
      obtain ⟨hles, hall⟩ := length_entriesOfItems_le es
      have hrows := length_le_length_flatten e.ne_nil_of_mem_entries
      rw [length_intercalate_separator] at hle hfilled
      rw [entriesOfItems, flattenAll, List.flatten_append, List.length_append, List.length_append,
        List.length_append, List.length_cons]
      constructor
      · omega
      · intro heq
        obtain ⟨hall, hne⟩ := hall (by omega)
        have hpos : 0 < e.flatten.length := by omega
        refine ⟨⟨hfilled (by omega), hall⟩, fun f hf => ?_⟩
        rcases List.mem_cons.mp hf with rfl | hf
        · exact List.length_pos_iff.mp hpos
        · exact hne f hf

end

/-! ## Splats in a splat -/

theorem length_splats_le (rows : List (List (Element V))) :
    (flattenAll rows.flatten).length + rows.flatten.length
        ≤ (flattenAll (rows.map .splat)).length + rows.length ∧
      ((flattenAll rows.flatten).length + rows.flatten.length
          = (flattenAll (rows.map .splat)).length + rows.length → ∀ row ∈ rows, row ≠ []) := by
  induction rows with
  | nil => exact ⟨Nat.le_refl _, fun _ => nofun⟩
  | cons row rows ih =>
      obtain ⟨hle, hall⟩ := ih
      have hrow := length_flattenItems row
      rw [List.flatten_cons, flattenAll_append, List.map_cons, flattenAll, Element.flatten,
        List.length_append, List.length_append, List.length_append, List.length_cons, hrow]
      constructor
      · omega
      · intro heq other hother
        rcases List.mem_cons.mp hother with rfl | hother
        · exact List.length_pos_iff.mp (by omega)
        · exact hall (by omega) other hother

theorem flattenItems_splats {rows : List (List (Element V))} (h : ∀ row ∈ rows, row ≠ []) :
    flattenItems (rows.map .splat) = flattenItems rows.flatten := by
  induction rows with
  | nil => rfl
  | cons row rows ih =>
      have ih := ih fun other hother => h other (List.mem_cons_of_mem row hother)
      cases rows with
      | nil =>
          rw [List.map_singleton, flattenItems_singleton, List.flatten_singleton, Element.flatten]
      | cons row' rows =>
          have hrow := h row List.mem_cons_self
          have hrow' := h row' (List.mem_cons_of_mem row List.mem_cons_self)
          have hrest : (row' :: rows).flatten ≠ [] := by
            rw [List.flatten_cons]
            exact List.append_ne_nil_of_left_ne_nil hrow' _
          have hcons := flattenItems_append (List.cons_ne_nil (.splat row) [])
            (List.cons_ne_nil (.splat row') (rows.map .splat))
          rw [List.singleton_append, flattenItems_singleton, Element.flatten] at hcons
          have hflat : (row :: row' :: rows).flatten = row ++ (row' :: rows).flatten :=
            List.flatten_cons
          rw [List.map_cons, List.map_cons, hcons, ← List.map_cons, ih, hflat,
            flattenItems_append hrow hrest]

/-- A splat of splats is the splat of their items if and only if none of them is empty, or if there
is only one. -/
theorem flattenItems_splats_iff (rows : List (List (Element V))) :
    flattenItems (rows.map .splat) = flattenItems rows.flatten ↔
      rows.length ≤ 1 ∨ ∀ row ∈ rows, row ≠ [] := by
  constructor
  · intro h
    by_cases hshort : rows.length ≤ 1
    · exact .inl hshort
    · obtain ⟨hle, hall⟩ := length_splats_le rows
      have hlength := congrArg List.length h
      rw [length_flattenItems, length_flattenItems, List.length_map] at hlength
      have hempty : rows.flatten.length = 0 → (flattenAll rows.flatten).length = 0 := by
        intro hnil
        rw [List.length_eq_zero_iff.mp hnil]
        rfl
      exact .inr (hall (by omega))
  · rintro (hshort | hall)
    · match rows with
      | [] => rfl
      | [row] =>
          rw [List.map_singleton, flattenItems_singleton, List.flatten_singleton, Element.flatten]
      | _ :: _ :: rows =>
          simp only [List.length_cons] at hshort
          omega
    · exact flattenItems_splats hall

/-! ## Separators that are left over -/

/-- An item without nodes beside other items leaves one separator behind. -/
theorem exists_flattenItems_insert {e : Element V} (hnodes : e.flatten = [])
    {before after : List (Element V)} (hbeside : before ++ after ≠ []) :
    ∃ x y, flattenItems (before ++ after) = x ++ y ∧
      flattenItems (before ++ e :: after) = x ++ separator :: y := by
  have hitem : after ≠ [] → flattenItems (e :: after) = separator :: flattenItems after := by
    intro hafter
    have hcons := flattenItems_append (List.cons_ne_nil e []) hafter
    rwa [List.singleton_append, flattenItems_singleton, hnodes, List.nil_append] at hcons
  by_cases hbefore : before = []
  · rw [hbefore, List.nil_append] at hbeside
    exact ⟨[], flattenItems after, by rw [hbefore]; rfl, by rw [hbefore]; exact hitem hbeside⟩
  · have hinsert := flattenItems_append hbefore (List.cons_ne_nil e after)
    by_cases hafter : after = []
    · refine ⟨flattenItems before, [], by rw [hafter, List.append_nil, List.append_nil], ?_⟩
      rw [hinsert, hafter, flattenItems_singleton, hnodes]
    · refine ⟨flattenItems before ++ [separator], flattenItems after, ?_, ?_⟩
      · rw [flattenItems_append hbefore hafter, List.append_assoc, List.singleton_append]
      · rw [hinsert, hitem hafter, List.append_assoc, List.singleton_append]

/-! ## Comma separated lists -/

/-- A splat is the comma separated list of the rows that its items come to, none of them empty, if
and only if no splat in it has an item without nodes beside another item.  Splats as items are a
splat of all their items if and only if none of them is without items, unless there is only one; and
an item without nodes beside other items leaves one separator behind, whatever the others are. -/
theorem splat_is_comma_list_iff (items : List (Element V)) :
    (∀ row ∈ entriesOfItems items, row ≠ []) ∧
    ((Element.splat items).flatten = [separator].intercalate (entriesOfItems items) ↔
      (Element.splat items).Filled) ∧
    (∀ rows : List (List (Element V)),
      (Element.splat (rows.map .splat)).flatten = (Element.splat rows.flatten).flatten ↔
        rows.length ≤ 1 ∨ ∀ row ∈ rows, row ≠ []) ∧
    ∀ (before : List (Element V)) (e : Element V) (after : List (Element V)),
      items = before ++ e :: after → e.flatten = [] → before ++ after ≠ [] →
        ∃ x y, (Element.splat (before ++ after)).flatten = x ++ y ∧
          (Element.splat items).flatten = x ++ separator :: y := by
  refine ⟨ne_nil_of_mem_entriesOfItems items, ⟨fun h => ?_, fun h => h.flatten_eq⟩, fun rows => ?_,
    fun before e after hitems hnodes hbeside => ?_⟩
  · exact (Element.splat items).length_intercalate_le.2 (congrArg List.length h.symm)
  · rw [Element.flatten, Element.flatten]
    exact flattenItems_splats_iff rows
  · rw [hitems, Element.flatten, Element.flatten]
    exact exists_flattenItems_insert hnodes hbeside

open BoundSql.Value (Val) in
/-- A value, a splat of a value and a query, and the same with an empty query between them. -/
theorem splat_is_comma_list_iff_of_empty_query :
    let x : Element Val := .plain (.int 1)
    let inner : Element Val := .splat [.plain (.int 2), .sql [.literal "now()"]]
    ((Element.splat [x, inner]).Filled ∧ (Element.splat [x, inner]).flatten
        = [.argument (.int 1), separator, .argument (.int 2), separator, .literal "now()"]) ∧
      ¬ (Element.splat [x, .sql [], inner]).Filled ∧
      ∃ y z, (Element.splat [x, inner]).flatten = y ++ z ∧
        (Element.splat [x, .sql [], inner]).flatten = y ++ separator :: z := by
  intro x inner
  have hnodes : ∀ {e f : Element Val}, e.flatten ≠ [] → f.flatten ≠ [] →
      ∀ g ∈ [e, f], g.flatten ≠ [] :=
    fun he hf => List.forall_mem_cons.mpr ⟨he, List.forall_mem_singleton.mpr hf⟩
  have hinner : inner.Filled :=
    ⟨.inr (hnodes (List.cons_ne_nil _ _) (List.cons_ne_nil _ _)), trivial, trivial, trivial⟩
  have hfilled : (Element.splat [x, inner]).Filled :=
    ⟨.inr (hnodes (List.cons_ne_nil _ _) (List.cons_ne_nil _ _)), trivial, hinner, trivial⟩
  have hempty : ¬ (Element.splat [x, .sql [], inner]).Filled := by
    rintro ⟨hshort | hall, -⟩
    · exact absurd hshort (by decide)
    · exact hall (.sql []) (.tail x List.mem_cons_self) rfl
  have hlist := (splat_is_comma_list_iff [x, inner]).2.1.mpr hfilled
  have hleft := (splat_is_comma_list_iff [x, .sql [], inner]).2.2.2 [x] (.sql []) [inner] rfl rfl
    (List.cons_ne_nil _ _)
  exact ⟨⟨hfilled, hlist⟩, hempty, hleft⟩

open BoundSql.Value (Val) in
/-- An empty query in front of a value, and an empty splat in front of a splat: a separator leads
the list. -/
theorem separator_leads_splat_of_empty_query :
    let x : Element Val := .plain (.int 1)
    ((Element.splat [.sql [], x]).flatten = [separator, .argument (.int 1)] ∧
      [separator].intercalate (entriesOfItems [.sql [], x]) = [Node.argument (.int 1)]) ∧
    (Element.splat [.splat [], .splat [x]]).flatten = [separator, .argument (.int 1)] ∧
      (Element.splat [x]).flatten = [Node.argument (.int 1)] :=
  ⟨⟨rfl, rfl⟩, rfl, rfl⟩

end BoundSql.Query
