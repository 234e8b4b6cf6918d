import BoundSql.Proofs.Itemising
import BoundSql.Proofs.QuoteClosed
set_option autoImplicit false

/-!
# Quotes beside placeholders

A row of items is accepted if no value in it has a neighbour with a quote on its side.  In the SQL
text of the row a quote can stand beside a placeholder all the same: the nearest text on that side
has no characters then, and the quote belongs to one that is further away.

The check looks at the item in front of a value and at the one behind it, and at no other.  What the
text of the row shows beside a placeholder comes from the nearest item that has any characters.
`firstText?` and `lastText?` are what the check sees, and `rowText` is what is written; for all rows
that are accepted the two are compared, and each quote beside a placeholder is traced back to an
item without characters between them.

So items without characters are the only way around the check.  A row in which they put a
placeholder inside of an SQL string is given at the end.
-/

namespace BoundSql.Template

open BoundSql.Query (Compiler Element Node Placeholder Sql flattenAll)
open BoundSql.Value (Eval Store Val elementOf isNode)

namespace Item

variable {V : Type}

/-! ## The nearest text -/

/-- The text that stands first in a row. -/
def firstText? (items : List (Item V)) : Option String := items.findSome? text?

/-- The text that stands last in a row. -/
def lastText? (items : List (Item V)) : Option String := items.reverse.findSome? text?

@[simp] theorem firstText?_text (s : String) (items : List (Item V)) :
    firstText? (.text s :: items) = some s := rfl

@[simp] theorem firstText?_value (v : V) (items : List (Item V)) :
    firstText? (.value v :: items) = firstText? items := rfl

@[simp] theorem lastText?_text (s : String) (items : List (Item V)) :
    lastText? (items ++ [.text s]) = some s := by
  rw [lastText?, List.reverse_append]
  rfl

@[simp] theorem lastText?_value (v : V) (items : List (Item V)) :
    lastText? (items ++ [.value v]) = lastText? items := by
  rw [lastText?, List.reverse_append]
  rfl

/-- No neighbour of a value has a quote on the side of the value. -/
def Apart (items : List (Item V)) : Prop :=
  ∀ before v after, items = before ++ .value v :: after →
    (∀ s, before.getLast? = some (.text s) → s.toList.getLast? ≠ some '\'') ∧
      ∀ s, after.head? = some (.text s) → s.toList.head? ≠ some '\''

theorem apart_of_quotedIndex?_eq_none {items : List (Item V)} (h : quotedIndex? items = none) :
    Apart items := by
  have htouch : ∀ i, ¬ TouchesQuote items i := by
    intro i hi
    rcases quotedFrom_endsQuoted (.text "") items 0 with ⟨-, hall⟩ | ⟨k, hsome, -⟩
    · exact hall i (touchesQuote_emptyText.mpr hi)
    · cases h.symm.trans hsome
  rintro before v after rfl
  refine ⟨fun s hs hquote => htouch before.length ⟨⟨v, by simp⟩, .inl ?_⟩,
    fun s hs hquote => htouch before.length ⟨⟨v, by simp⟩, .inr ⟨s, ?_, hquote⟩⟩⟩
  · obtain ⟨before, rfl⟩ := List.getLast?_eq_some_iff.mp hs
    exact ⟨before.length, s, by simp, by simp, hquote⟩
  · rw [List.head?_eq_getElem?] at hs
    simpa [List.getElem?_append] using hs

end Item

/-! ## Quotes in the text of a row -/

section Texts

variable {V : Type} {p : Placeholder} {before after : List (Item V)} {v : V} {next : Nat}

/-- The SQL text of a row whose first placeholder has the number `next`. -/
def rowText (p : Placeholder) (next : Nat) (items : List (Item V)) : String :=
  String.join ((⟨p, none⟩ : Compiler).texts next (items.map Item.node))

theorem rowText_append (p : Placeholder) (next : Nat) (items others : List (Item V)) :
    rowText p next (items ++ others) = rowText p next items
      ++ rowText p (next + (items.filterMap Item.value?).length) others := by
  rw [rowText, List.map_append, Compiler.texts_append, String.join_append, values_map_node]
  rfl

theorem rowText_text (p : Placeholder) (next : Nat) (s : String) (items : List (Item V)) :
    rowText p next (.text s :: items) = s ++ rowText p next items := by
  rw [rowText, List.map_cons, Item.node, Compiler.texts, String.join_cons]
  rfl

theorem rowText_value (p : Placeholder) (next : Nat) (v : V) (items : List (Item V)) :
    rowText p next (.value v :: items) = p next ++ rowText p (next + 1) items := by
  rw [rowText, List.map_cons, Item.node, Compiler.texts, String.join_cons]
  rfl

theorem rowText_nil (p : Placeholder) (next : Nat) :
    rowText p next ([] : List (Item V)) = "" := rfl

/-- A quote in front of a placeholder. -/
theorem lastText?_of_quote (hp : ∀ n : Nat, 0 < n → '\'' ∉ (p n).toList)
    (hnext : 0 < next) (h : Item.Apart (before ++ .value v :: after))
    (hquote : (rowText p next before).toList.getLast? = some '\'') :
    Item.lastText? before = some "" := by
  induction before using List.reverseRecOn generalizing v after with
  | nil => cases hquote
  | append_singleton before item ih =>
      rw [rowText_append, String.toList_append, List.getLast?_append] at hquote
      cases item with
      | text s =>
          have htext := (h (before ++ [.text s]) v after rfl).1 s List.getLast?_concat
          rw [rowText_text, rowText_nil, String.append_empty] at hquote
          rcases Option.or_eq_some_iff.mp hquote with hs | ⟨hs, -⟩
          · exact absurd hs htext
          · have hempty : s = "" := by simpa using hs
            rw [Item.lastText?_text, hempty]
      | value u =>
          rw [List.append_assoc] at h
          rw [rowText_value, rowText_nil, String.append_empty] at hquote
          rcases Option.or_eq_some_iff.mp hquote with hs | ⟨-, hs⟩
          · exact absurd (List.mem_of_getLast? hs) (hp _ (Nat.add_pos_left hnext _))
          · rw [Item.lastText?_value]
            exact ih h hs

/-- A quote behind a placeholder. -/
theorem firstText?_of_quote (hp : ∀ n : Nat, 0 < n → '\'' ∉ (p n).toList)
    (hnext : 0 < next) (h : Item.Apart (before ++ .value v :: after))
    (hquote : (rowText p next after).toList.head? = some '\'') :
    Item.firstText? after = some "" := by
  induction after generalizing before v next with
  | nil => cases hquote
  | cons item after ih =>
      cases item with
      | text s =>
          have htext := (h before v (.text s :: after) rfl).2 s rfl
          rw [rowText_text, String.toList_append, List.head?_append] at hquote
          rcases Option.or_eq_some_iff.mp hquote with hs | ⟨hs, -⟩
          · exact absurd hs htext
          · have hempty : s = "" := by simpa using hs
            rw [Item.firstText?_text, hempty]
      | value u =>
          have hrow : before ++ .value v :: .value u :: after
              = before ++ [.value v] ++ .value u :: after := by simp
          rw [hrow] at h
          rw [rowText_value, String.toList_append, List.head?_append] at hquote
          rcases Option.or_eq_some_iff.mp hquote with hs | ⟨-, hs⟩
          · exact absurd (List.mem_of_head? hs) (hp _ hnext)
          · rw [Item.firstText?_value]
            exact ih (Nat.succ_pos next) h hs

end Texts

/-! ## Rows that are accepted -/

/-- Values that are no pieces of a query are bound where they stand. -/
theorem flattenAll_of_isNode_eq_false {items : List (Item Val)}
    (h : ∀ v ∈ items.filterMap Item.value?, isNode v = false) :
    flattenAll (items.map (Item.toElement elementOf)) = items.map Item.node := by
  refine flattenAll_of_flatten_eq fun item hitem => ?_
  cases item with
  | text s => simp [Item.toElement, Item.node, Element.flatten]
  | value v =>
      have hv : isNode v = false := h v (List.mem_filterMap.mpr ⟨_, hitem, rfl⟩)
      rw [Item.toElement, Value.elementOf_of_isNode_eq_false hv, Element.flatten, Item.node]

/-- A row of items that is accepted has its values apart from quotes, and is written as it
stands. -/
theorem fromItems_eq_ok {items : List (Item Val)} {s s' : Store} {q : Sql Val}
    (h : fromItems items s = .ok q s')
    (plain : ∀ v ∈ items.filterMap Item.value?, isNode v = false) :
    Item.Apart items ∧ ∀ p, ((⟨p, none⟩ : Compiler).compile q).sql = rowText p 1 items := by
  cases hquoted : quotedIndex? items with
  | some i =>
      obtain ⟨_, _, hrefused⟩ := fromItems_of_quotedIndex?_eq_some hquoted s
      cases hrefused.symm.trans h
  | none =>
      rw [fromItems_of_quotedIndex?_eq_none hquoted] at h
      obtain ⟨rfl, -⟩ := EStateM.Result.ok.inj h
      refine ⟨Item.apart_of_quotedIndex?_eq_none hquoted, fun p => ?_⟩
      rw [Compiler.compile, Sql.ofElements, flattenAll_of_isNode_eq_false plain]
      rfl

/-- In the SQL text of an accepted row of texts and plain values, a quote beside a placeholder
stands behind a text without characters: the nearest text on that side is empty. -/
theorem quote_beside_placeholder {room : Room} {v w : Val} {build : Build (Sql Val)}
    {r r' s : Store}
    {before after : List Val} {q : Sql Val} {p : Placeholder} (asks : ByItems room r v build)
    (row : Eval.engine.elements v r = .ok (before ++ w :: after) r') (hrun : build r = .ok q s)
    (plain : ∀ u ∈ before ++ w :: after, isNode u = false) (hw : itemOf w = .value w)
    (hp : ∀ n : Nat, 0 < n → '\'' ∉ (p n).toList) :
    ∃ (n : Nat) (front rest : String),
      ((⟨p, none⟩ : Compiler).compile q).sql = front ++ p n ++ rest ∧
      front = rowText p 1 (before.map itemOf) ∧
      n = ((before.map itemOf).filterMap Item.value?).length + 1 ∧
      rest = rowText p (n + 1) (after.map itemOf) ∧
      (front.toList.getLast? = some '\'' → Item.lastText? (before.map itemOf) = some "") ∧
      (rest.toList.head? = some '\'' → Item.firstText? (after.map itemOf) = some "") := by
  have hitems : (before ++ w :: after).map itemOf
      = before.map itemOf ++ .value w :: after.map itemOf := by
    rw [List.map_append, List.map_cons, hw]
  have hvalue : ∀ u x, (itemOf u).value? = some x → x = u := by
    intro u x hx
    cases u <;> simp_all [itemOf, Item.value?]
  have hplain : ∀ x ∈ ((before ++ w :: after).map itemOf).filterMap Item.value?,
      isNode x = false := by
    intro x hx
    obtain ⟨item, hitem, hx⟩ := List.mem_filterMap.mp hx
    obtain ⟨u, hu, rfl⟩ := List.mem_map.mp hitem
    rw [hvalue u x hx]
    exact plain u hu
  rw [asks.run_eq row] at hrun
  obtain ⟨hapart, hsql⟩ := fromItems_eq_ok hrun hplain
  rw [hitems] at hapart
  refine ⟨_, _, _, ?_, rfl, rfl, rfl, lastText?_of_quote hp Nat.one_pos hapart,
    firstText?_of_quote hp (Nat.succ_pos _) hapart⟩
  rw [hsql, hitems, rowText_append, rowText_value, Nat.add_comm 1, String.append_assoc]

theorem not_mem_dollar (n : Nat) (hn : 0 < n) : '\'' ∉ (Placeholder.dollar n).toList := by
  have hstyle : ("dollar", Placeholder.dollar) ∈ Placeholder.styles := List.mem_cons_self
  exact List.count_eq_zero.mp ((Compiler.quoteNeutral_of_mem_styles hstyle).placeholder n hn)

/-- A quote in front of the placeholder, behind a text without characters. -/
theorem quote_beside_placeholder_of_empty_text :
    ∃ q, fromElements (.tuple [.str "a = 'b'", .str "", .int 5]) {} = .ok q {} ∧
      ∃ front rest, ((⟨Placeholder.dollar, none⟩ : Compiler).compile q).sql
          = front ++ Placeholder.dollar 1 ++ rest ∧
        front.toList.getLast? = some '\'' ∧
        Item.lastText? ([.str "a = 'b'", .str ""].map itemOf) = some "" := by
  have hrow : fromElements (.tuple [.str "a = 'b'", .str "", .int 5]) {}
      = fromItems [.text "a = 'b'", .text "", .value (.int 5)] {} := rfl
  have hrun := hrow.trans (fromItems_of_quotedIndex?_eq_none (by decide) {})
  obtain ⟨n, front, rest, hsql, hfront, hn, -, hlast, -⟩ :=
    @quote_beside_placeholder .standard _ (.int 5) _ {} {} _ [.str "a = 'b'", .str ""] [] _ _
      (.elements (.tuple [.str "a = 'b'", .str "", .int 5])) rfl hrun (by simp [isNode]) rfl
      not_mem_dollar
  have hquote : front.toList.getLast? = some '\'' := by
    rw [hfront]
    rfl
  obtain rfl : n = 1 := hn
  exact ⟨_, hrun, front, rest, hsql, hquote, hlast hquote⟩

/-- Texts without characters keep the quotes from the check of the neighbours: the value is
accepted, and its placeholder stands inside an SQL string. -/
theorem placeholder_in_string_of_empty_texts :
    ∃ q, fromElements (.tuple [.str "'", .str "", .int 5, .str "", .str "'"]) {} = .ok q {} ∧
      ((⟨Placeholder.dollar, none⟩ : Compiler).compile q).sql = "'$1'" ∧ q.params = [.int 5] := by
  have hrow : fromElements (.tuple [.str "'", .str "", .int 5, .str "", .str "'"]) {}
      = fromItems [.text "'", .text "", .value (.int 5), .text "", .text "'"] {} := rfl
  have hrun := hrow.trans (fromItems_of_quotedIndex?_eq_none (by decide) {})
  refine ⟨_, hrun, ?_, ?_⟩ <;> cbv

end BoundSql.Template
