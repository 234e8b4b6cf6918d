import BoundSql.Proofs.Independence
import BoundSql.Proofs.Reading
set_option autoImplicit false

/-!
# Templates and rows of items

The text of a template and its values can be given cut apart: each run of literal text as an item,
and between them the values, each of them bound.  Both ways make the same query wherever the items
are accepted.  They differ about quotes.  A template counts them, and takes a marker behind a string
that is closed; a row of items looks no further than the neighbours of a value, and refuses it next
to a quote.

`SiteTouchesQuote` says when a template has a site with a quote right beside it, and the items are
refused exactly if there is one.  The refusal names the value and its neighbours, so the text of the
value is asked for, and that can fail: an integer with too many digits is not shown at all.
`Describable` is the condition under which the refusal can be worded, and without it the failure to
show the value comes out instead.

What a caller gets is therefore one of three outcomes, which `ByItems` lists; which one it is can be
said beforehand from the parts of the template and the values at its sites.
-/

namespace BoundSql.Template

open BoundSql.Query (Element Sql)
open BoundSql.Value (Eval OnlyReads Store Val elementOf isNode)

/-! ## Which value touches a quote -/

namespace Item

variable {V : Type}

/-- An item is a value, and the text in front of it ends with a quote or the text behind it begins
with one. -/
def TouchesQuote (items : List (Item V)) (i : Nat) : Prop :=
  (∃ v, items[i]? = some (.value v)) ∧
    ((∃ j s, i = j + 1 ∧ items[j]? = some (.text s) ∧ s.toList.getLast? = some '\'') ∨
      ∃ s, items[i + 1]? = some (.text s) ∧ s.toList.head? = some '\'')

theorem endsQuoted_iff {item : Item V} :
    item.endsQuoted = true ↔ ∃ s, item = .text s ∧ s.toList.getLast? = some '\'' := by
  cases item <;> simp [endsQuoted]

theorem any_beginsQuoted_iff {item : Option (Item V)} :
    item.any beginsQuoted = true ↔ ∃ s, item = some (.text s) ∧ s.toList.head? = some '\'' := by
  rcases item with _ | item
  · simp
  · cases item <;> simp [beginsQuoted]

theorem isValue_iff {item : Item V} : item.isValue = true ↔ ∃ v, item = .value v := by
  cases item <;> simp [isValue]

/-- The check that is made at an item, told from the item in front of it. -/
theorem touchesQuote_one_iff {item next : Item V} {rest : List (Item V)} :
    TouchesQuote (item :: next :: rest) 1 ↔
      (next.isValue && (item.endsQuoted || rest.head?.any beginsQuoted)) = true := by
  rw [Bool.and_eq_true, Bool.or_eq_true, isValue_iff, endsQuoted_iff, any_beginsQuoted_iff,
    TouchesQuote]
  simp [List.head?_eq_getElem?]

/-- An item is looked at together with its neighbours only. -/
theorem touchesQuote_cons {item : Item V} {rest : List (Item V)} {i : Nat} :
    TouchesQuote (item :: rest) (i + 2) ↔ TouchesQuote rest (i + 1) := by
  simp [TouchesQuote]

theorem not_touchesQuote_nil (item : Item V) (i : Nat) : ¬TouchesQuote [item] (i + 1) := by
  simp [TouchesQuote]

end Item

/-- Along the items behind `item`: the search stops at the first value that touches a quote. -/
theorem quotedFrom_endsQuoted {V : Type} (item : Item V) (rest : List (Item V)) (i : Nat) :
    (quotedFrom item.endsQuoted i rest = none ∧
        ∀ k, ¬Item.TouchesQuote (item :: rest) (k + 1)) ∨
      ∃ k, quotedFrom item.endsQuoted i rest = some (i + k) ∧
        Item.TouchesQuote (item :: rest) (k + 1) ∧
        ∀ l < k, ¬Item.TouchesQuote (item :: rest) (l + 1) := by
  induction rest generalizing item i with
  | nil => exact .inl ⟨rfl, fun k => Item.not_touchesQuote_nil item k⟩
  | cons next rest ih =>
      have hone := @Item.touchesQuote_one_iff _ item next rest
      rw [quotedFrom]
      split
      next htouch => exact .inr ⟨0, rfl, hone.mpr htouch, fun l hl => absurd hl l.not_lt_zero⟩
      next htouch =>
        rcases ih next (i + 1) with ⟨hnone, hall⟩ | ⟨k, hsome, hk, hbefore⟩
        · refine .inl ⟨hnone, fun k => ?_⟩
          cases k with
          | zero => exact mt hone.mp htouch
          | succ k => exact mt Item.touchesQuote_cons.mp (hall k)
        · refine .inr ⟨k + 1, ?_, Item.touchesQuote_cons.mpr hk, fun l hl => ?_⟩
          · rw [hsome, Nat.add_assoc, Nat.add_comm 1]
          · cases l with
            | zero => exact mt hone.mp htouch
            | succ l => exact mt Item.touchesQuote_cons.mp (hbefore l (by omega))

/-- A text without characters changes nothing in front of a row. -/
theorem touchesQuote_emptyText {V : Type} {items : List (Item V)} {i : Nat} :
    Item.TouchesQuote (.text "" :: items) (i + 1) ↔ Item.TouchesQuote items i := by
  cases i with
  | zero => simp [Item.TouchesQuote]
  | succ i => simp [Item.TouchesQuote]

theorem quotedIndex?_eq_none {V : Type} {items : List (Item V)}
    (h : ∀ i, ¬Item.TouchesQuote items i) : quotedIndex? items = none := by
  rcases quotedFrom_endsQuoted (.text "") items 0 with ⟨hnone, -⟩ | ⟨k, -, hk, -⟩
  · exact hnone
  · exact absurd (touchesQuote_emptyText.mp hk) (h k)

theorem quotedIndex?_eq_some {V : Type} {items : List (Item V)} {i : Nat}
    (h : Item.TouchesQuote items i) (hfirst : ∀ j < i, ¬Item.TouchesQuote items j) :
    quotedIndex? items = some i := by
  rcases quotedFrom_endsQuoted (.text "") items 0 with ⟨-, hall⟩ | ⟨k, hk, htouch, hbefore⟩
  · exact absurd (touchesQuote_emptyText.mpr h) (hall i)
  · have hki : k = i := by
      rcases Nat.lt_trichotomy k i with hlt | heq | hgt
      · exact absurd (touchesQuote_emptyText.mp htouch) (hfirst k hlt)
      · exact heq
      · exact absurd (touchesQuote_emptyText.mpr h) (hbefore i hgt)
    rw [hki, Nat.zero_add] at hk
    exact hk

theorem take_three {α : Type} (l : List α) :
    l.take 3 = l[0]?.toList ++ l[1]?.toList ++ l[2]?.toList := by
  rcases l with _ | ⟨a, _ | ⟨b, _ | ⟨c, l⟩⟩⟩ <;> rfl

/-- The neighbours of an item are the item in front of it, if there is one, and the item behind
it. -/
theorem neighbours_eq {α : Type} (items : List α) (i : Nat) :
    neighbours items i
      = (if i = 0 then [] else items[i - 1]?.toList) ++ items[i]?.toList
          ++ items[i + 1]?.toList := by
  cases i with
  | zero =>
      rw [neighbours, if_pos rfl]
      rcases items with _ | ⟨a, _ | ⟨b, items⟩⟩ <;> rfl
  | succ i =>
      have hdrop : neighbours items (i + 1) = (items.drop i).take 3 := by
        rw [neighbours, List.drop_take]
        congr 1
        omega
      rw [hdrop, take_three, if_neg i.succ_ne_zero]
      simp only [List.getElem?_drop, Nat.add_sub_cancel, Nat.add_zero, Nat.add_assoc]

/-! ## How items are described -/

/-- Every value of a row has a text that shows it. -/
def Describable (items : List (Item Val)) (s : Store) : Prop :=
  ∀ v, .value v ∈ items → ∃ text, Value.shown v s = .ok text s

/-- The text that describes one item. -/
def itemText : Item Val → Eval String
  | .text s => pure s
  | .value v => do pure ("\x7b" ++ (← Value.shown v) ++ "\x7d")

theorem described_eq (items : List (Item Val)) :
    described items = (do pure (String.join (← items.mapM itemText))) := by
  have hitem : (fun item : Item Val => match item with
      | .text s => (pure s : Eval String)
      | .value v => do pure ("\x7b" ++ (← Value.shown v) ++ "\x7d")) = itemText := by
    funext item
    cases item <;> rfl
  rw [← hitem]
  rfl

theorem onlyReads_itemText (item : Item Val) : OnlyReads (itemText item) := by
  cases item with
  | text s => exact .pure s
  | value v => exact .bind (Value.onlyReads_shown v) fun _ => .pure _

theorem onlyReads_described (items : List (Item Val)) : OnlyReads (described items) := by
  rw [described_eq]
  exact .bind (.mapM onlyReads_itemText items) fun _ => .pure _

/-- Only what can be shown is described. -/
theorem describable_of_described {items : List (Item Val)} {text : String} {s s' : Store}
    (h : described items s = .ok text s') : Describable items s := by
  rw [described_eq] at h
  obtain ⟨texts, s₁, htexts, -⟩ := bind_eq_ok_iff.mp h
  clear h
  induction items generalizing texts s₁ with
  | nil => exact nofun
  | cons item items ih =>
      rw [List.mapM_cons] at htexts
      obtain ⟨text, s₂, htext, hrest⟩ := bind_eq_ok_iff.mp htexts
      obtain rfl := (onlyReads_itemText item).eq_of_ok htext
      obtain ⟨others, s₃, hothers, -⟩ := bind_eq_ok_iff.mp hrest
      intro v hv
      rcases List.mem_cons.mp hv with rfl | hv
      · obtain ⟨shown, s₄, hshown, -⟩ := bind_eq_ok_iff.mp htext
        obtain rfl := (Value.onlyReads_shown v).eq_of_ok hshown
        exact ⟨shown, hshown⟩
      · exact ih others s₃ hothers v hv

/-- A row in which some value cannot be shown cannot be described. -/
theorem exists_fault_of_not_describable {items : List (Item Val)} {s : Store}
    (h : ¬Describable items s) : ∃ f, described items s = .error f s := by
  rcases onlyReads_described items s with ⟨text, htext⟩ | hfault
  · exact absurd (describable_of_described htext) h
  · exact hfault

theorem described_of_describable {items : List (Item Val)} {s : Store} (h : Describable items s) :
    ∃ text, described items s = .ok text s := by
  have hall : ∃ texts, items.mapM itemText s = .ok texts s := by
    induction items with
    | nil => exact ⟨[], rfl⟩
    | cons item items ih =>
        obtain ⟨texts, htexts⟩ := ih fun v hv => h v (List.mem_cons_of_mem item hv)
        have hitem : ∃ text, itemText item s = .ok text s := by
          cases item with
          | text t => exact ⟨t, rfl⟩
          | value v =>
              obtain ⟨text, htext⟩ := h v List.mem_cons_self
              exact ⟨_, bind_eq_ok_iff.mpr ⟨text, s, htext, rfl⟩⟩
        obtain ⟨text, htext⟩ := hitem
        refine ⟨text :: texts, ?_⟩
        rw [List.mapM_cons, bind_of_ok htext, bind_of_ok htexts]
        rfl
  obtain ⟨texts, htexts⟩ := hall
  refine ⟨String.join texts, ?_⟩
  rw [described_eq, bind_of_ok htexts]
  rfl

theorem Describable.neighbours {items : List (Item Val)} {s : Store} (h : Describable items s)
    (i : Nat) : Describable (neighbours items i) s :=
  fun v hv => h v (List.mem_of_mem_take (List.mem_of_mem_drop hv))

/-! ## Templates as rows -/

namespace Filled

/-- The part as an item: literal text stays text, a value is bound unless it is a piece of a query,
and the elements of a splat stay together. -/
def toItem : Filled Val → Item Val
  | literal text => .text text
  | value v => .value (Value.bound v)
  | splat vs => .value (.splat vs)

/-- The part as a value of a collection, where a text stands for itself. -/
def toValue : Filled Val → Val
  | literal text => .str text
  | value v => Value.bound v
  | splat vs => .splat vs

theorem itemOf_toValue (f : Filled Val) : itemOf f.toValue = f.toItem := by
  cases f with
  | literal text => simp [toValue, toItem, itemOf]
  | value v => cases v <;> rfl
  | splat vs => rfl

/-- A part stands for the same nodes in a template and in a row. -/
theorem flatten_toItem (f : Filled Val) :
    (f.toItem.toElement elementOf).flatten = (f.toElement elementOf).flatten := by
  cases f with
  | literal text => rfl
  | value v =>
      cases hv : isNode v with
      | true => rw [toItem, Value.bound, if_pos hv, Item.toElement, toElement]
      | false =>
          have hbound : Value.bound v = .argument v := by
            rw [Value.bound, hv, if_neg Bool.false_ne_true]
          rw [toItem, hbound, Item.toElement, toElement, Value.elementOf_of_isNode_eq_false hv,
            elementOf, Element.flatten, Element.flatten]
  | splat vs => rw [toItem, Item.toElement, elementOf, toElement]

end Filled

/-- The row of a template stands for the query of the template. -/
theorem ofElements_map_toItem (fs : List (Filled Val)) :
    Sql.ofElements ((fs.map Filled.toItem).map (Item.toElement elementOf))
      = Sql.ofElements (fs.map (Filled.toElement elementOf)) := by
  rw [Sql.ofElements, Sql.ofElements]
  congr 1
  induction fs with
  | nil => rfl
  | cons f fs ih =>
      simp only [List.map_cons, Query.flattenAll, Filled.flatten_toItem]
      rw [ih]

/-- A part is a site, and the literal text directly in front of it ends with a quote or the literal
text directly behind it begins with one. -/
def SiteTouchesQuote {Code : Type} (parts : List (Part Code)) (i : Nat) : Prop :=
  (∃ site, parts[i]? = some (.site site)) ∧
    ((∃ j text, i = j + 1 ∧ parts[j]? = some (.literal text) ∧
        text.toList.getLast? = some '\'') ∨
      ∃ text, parts[i + 1]? = some (.literal text) ∧ text.toList.head? = some '\'')

section Parts

variable {ε σ Code : Type} {ev : Evaluator (EStateM ε σ) Code Val} {ps : List (Part Code)}
  {fs : List (Filled Val)} {s s' : σ}

/-- Literal text stands in the row where it stands in the template. -/
theorem Fills.getElem?_eq_text_iff (h : Fills ev ps s fs s') (i : Nat) (text : String) :
    (fs.map Filled.toItem)[i]? = some (.text text) ↔ ps[i]? = some (.literal text) := by
  induction h generalizing i with
  | nil => simp
  | literal rest ih =>
      cases i with
      | zero => simp [Filled.toItem]
      | succ i => simpa using ih i
  | value _ _ rest ih | splat _ _ _ rest ih =>
      cases i with
      | zero => simp [Filled.toItem]
      | succ i => simpa using ih i

/-- A value stands in the row where its site stands in the template. -/
theorem Fills.getElem?_eq_value_iff (h : Fills ev ps s fs s') (i : Nat) :
    (∃ v, (fs.map Filled.toItem)[i]? = some (.value v)) ↔ ∃ site, ps[i]? = some (.site site) := by
  induction h generalizing i with
  | nil => simp
  | literal rest ih =>
      cases i with
      | zero => simp [Filled.toItem]
      | succ i => simpa using ih i
  | value _ _ rest ih | splat _ _ _ rest ih =>
      cases i with
      | zero => simp [Filled.toItem]
      | succ i => simpa using ih i

theorem Fills.touchesQuote_iff (h : Fills ev ps s fs s') (i : Nat) :
    Item.TouchesQuote (fs.map Filled.toItem) i ↔ SiteTouchesQuote ps i := by
  rw [Item.TouchesQuote, SiteTouchesQuote, h.getElem?_eq_value_iff]
  simp only [h.getElem?_eq_text_iff]

end Parts

/-! ## Both ways of making a query -/

/-- Template text is scanned and bound. -/
def sqlOfText (room : Room) (settings : Settings) (text : String) (layers : List Names) :
    Build (Sql Val) := do
  let t ← templateOf room settings text
  Build.ofEval (bindTemplate t layers)

/-- Template text that comes with settings is scanned and bound to the names around it and its
own. -/
theorem makeSql_text (room : Room) (settings : Settings) (surroundings : List Names) (names : Names)
    (text : String) :
    makeSql room (some settings) surroundings names (.value (.str text))
      = sqlOfText room settings text (surroundings ++ [names.filter (·.1 != settingsName)]) := by
  have htext : Text.plain (Text.ofString text) = text := Text.plain_ofString text
  have hmake : makeSql room (some settings) surroundings names (.value (.str text))
      = sqlOfText room settings (Text.plain (Text.ofString text))
          (surroundings ++ [names.filter (·.1 != settingsName)]) := rfl
  rw [hmake, htext]

/-- The ways of making a query of the items of a collection: the items of any collection can be
put together, and a list or a tuple is told from template text by itself. -/
inductive ByItems (room : Room) (r : Store) : Val → Build (Sql Val) → Prop where
  | elements (v : Val) : ByItems room r v (fromElements v)
  | tuple (vs : List Val) (surroundings : List Names) :
      ByItems room r (.tuple vs) (makeSql room none surroundings [] (.value (.tuple vs)))
  | list {address : Nat} {items : Array Val} (surroundings : List Names)
      (h : r.objects[address]? = some (.list items)) :
      ByItems room r (.object address)
        (makeSql room none surroundings [] (.value (.object address)))

/-- However it is asked for, the query is made of the elements of the collection. -/
theorem ByItems.run_eq {room : Room} {v : Val} {r r' : Store} {build : Build (Sql Val)}
    {vs : List Val}
    (h : ByItems room r v build) (row : Eval.engine.elements v r = .ok vs r') :
    build r = fromItems (vs.map itemOf) r' := by
  have hofEval : ∀ {w : Val}, Eval.engine.elements w r = .ok vs r' →
      Build.ofEval (Eval.engine.elements w) r = .ok vs r' := by
    intro w hw
    rw [Build.ofEval, hw]
  cases h with
  | elements v => rw [fromElements, bind_of_ok (hofEval row)]
  | tuple ws surroundings =>
      obtain ⟨rfl, rfl⟩ := EStateM.Result.ok.inj row
      rfl
  | @list address _ surroundings h =>
      have hclass : Build.ofEval (Value.classOf (.object address)) r = .ok .list r := by
        rw [Build.ofEval, Value.classOf, bind_of_ok (Eval.load_of_getElem? h)]
        rfl
      change (Build.ofEval (Value.classOf (.object address)) >>= _) r = _
      rw [bind_of_ok hclass]
      change fromElements (.object address) r = _
      rw [fromElements, bind_of_ok (hofEval row)]

/-- A row in which a value touches a quote is refused with a description of it, or with what kept
it from being described. -/
theorem fromItems_of_quotedIndex?_eq_index {items : List (Item Val)} {i : Nat}
    (h : quotedIndex? items = some i) (s : Store) :
    (∀ {template subexpression : String}, described items s = .ok template s →
      described (neighbours items i) s = .ok subexpression s →
      fromItems items s = .error (.template (.quotedPart template i subexpression)) s) ∧
    ∀ {f : Value.Fault}, described items s = .error f s →
      fromItems items s = .error (.fault f) s := by
  have hrun : fromItems items s = (do
      let template ← Build.ofEval (described items)
      let subexpression ← Build.ofEval (described (neighbours items i))
      Build.refuse (.template (.quotedPart template i subexpression)) : Build (Sql Val)) s := by
    rw [fromItems, sqlOfItems, h]
  rw [hrun]
  constructor
  · intro template subexpression htemplate hsub
    have htemplate' : Build.ofEval (described items) s = .ok template s := by
      rw [Build.ofEval, htemplate]
    have hsub' : Build.ofEval (described (neighbours items i)) s = .ok subexpression s := by
      rw [Build.ofEval, hsub]
    rw [bind_of_ok htemplate', bind_of_ok hsub']
    rfl
  · intro f hf
    have hf' : Build.ofEval (described items) s = .error (.fault f) s := by
      rw [Build.ofEval, hf]
    rw [bind_of_error hf']

/-- Template text and the row of its parts agree.  Where no literal text touches a site with a
quote, the items make the query that the template is bound to.  Otherwise they are refused: the
position is the index of the first site that a quote touches, and the subexpression describes that
item and its neighbours.  If some value cannot be described, the refusal is what went wrong in
describing it. -/
theorem items_agree_with_template {room : Room} {settings : Settings} {text : String}
    {t : ExprTemplate} {layers : List Names} {s s' : Store} {fs : List (Filled Val)}
    (scans : templateOf room settings text s = .ok t s) (binds : Binds t layers s fs s')
    {v : Val} {r r' : Store} {build : Build (Sql Val)} (asks : ByItems room r v build)
    (row : Eval.engine.elements v r = .ok (fs.map Filled.toValue) r') :
    ((∀ i, ¬SiteTouchesQuote t.parts i) →
      ∃ q, sqlOfText room settings text layers s = .ok q s' ∧ build r = .ok q r') ∧
    ∀ i, SiteTouchesQuote t.parts i → (∀ j < i, ¬SiteTouchesQuote t.parts j) →
      let items := fs.map Filled.toItem
      (Describable items r' → ∃ e template subexpression,
        build r = .error (.template e) r' ∧ e.kind = "QuotingViolationError" ∧
        e.details = ⟨template, some (i : Int), some subexpression⟩ ∧
        described items r' = .ok template r' ∧
        described ((if i = 0 then [] else items[i - 1]?.toList) ++ items[i]?.toList
          ++ items[i + 1]?.toList) r' = .ok subexpression r') ∧
      (∀ f, described items r' = .error f r' → build r = .error (.fault f) r') ∧
      (¬Describable items r' → ∃ f, described items r' = .error f r') := by
  have hitems : (fs.map Filled.toValue).map itemOf = fs.map Filled.toItem := by
    rw [List.map_map]
    exact List.map_congr_left fun f _ => f.itemOf_toValue
  have hbuild : build r = fromItems (fs.map Filled.toItem) r' := by
    rw [asks.run_eq row, hitems]
  have htouch := Fills.touchesQuote_iff binds
  refine ⟨fun hquotes => ?_, fun i hi hfirst => ?_⟩
  · have hnone := quotedIndex?_eq_none fun i => mt (htouch i).mp (hquotes i)
    refine ⟨Sql.ofElements (fs.map (Filled.toElement elementOf)), ?_, ?_⟩
    · rw [sqlOfText, bind_of_ok scans, Build.ofEval,
        bindTemplate_eq_ok_iff.mpr ⟨fs, binds, rfl⟩]
    · rw [hbuild, fromItems_of_quotedIndex?_eq_none hnone, ofElements_map_toItem]
  · have hsome := quotedIndex?_eq_some ((htouch i).mpr hi)
      fun j hj => mt (htouch j).mp (hfirst j hj)
    obtain ⟨hrefused, hfailed⟩ := fromItems_of_quotedIndex?_eq_index hsome r'
    refine ⟨fun hdescribable => ?_, fun f hf => hbuild.trans (hfailed hf),
      exists_fault_of_not_describable⟩
    obtain ⟨template, htemplate⟩ := described_of_describable hdescribable
    obtain ⟨subexpression, hsub⟩ := described_of_describable (hdescribable.neighbours i)
    refine ⟨_, template, subexpression, hbuild.trans (hrefused htemplate hsub), rfl, rfl,
      htemplate, ?_⟩
    rw [← neighbours_eq, hsub]

/-! ## A value behind an SQL string -/

/-- The template of the text `''$x`. -/
def emptyStringTemplate : ExprTemplate :=
  ⟨"''$x", [.literal "''", .site ⟨"x", false, .name "x"⟩]⟩

theorem templateOf_emptyString :
    templateOf .standard {} "''$x" {} = .ok emptyStringTemplate {} := by
  have hx : Site.read Room.standard.compile "x".toList = .ok (⟨"x", false, .name "x"⟩, []) := by cbv
  have hcuts : Cuts {} Room.standard.compile false "''$x".toList
      [.char '\'', .char '\'', .site ⟨"x", false, .name "x"⟩ ['x']] := by
    refine .char (by decide) (by decide) (.char (by decide) (by decide) ?_)
    exact @Cuts.site _ _ _ _ ['x'] [] _ hx (.nil _)
  exact templateOf_eq_ok_iff.mpr ⟨scan_eq_ok_iff.mpr ⟨_, hcuts, rfl⟩, rfl, rfl⟩

theorem binds_emptyString (v : Val) :
    Binds emptyStringTemplate [[("x", v)]] {} [.literal "''", .value v]
      (bindingStore [[("x", v)]] {}) := by
  have hx : (evaluator { frames := [], globals := 0 }).value (.name "x")
      (bindingStore [[("x", v)]] {}) = .ok v (bindingStore [[("x", v)]] {}) := by
    simp only [evaluator, Eval.engine_eval]
    rfl
  exact .literal (.value rfl hx (.nil _))

theorem siteTouchesQuote_emptyString : SiteTouchesQuote emptyStringTemplate.parts 1 :=
  ⟨⟨_, rfl⟩, .inl ⟨0, "''", rfl, rfl, by decide⟩⟩

/-- The store with the list of the items of the text `''$x`, where the name stands for nothing. -/
def emptyStringList : Store := { objects := #[.list #[.str "''", .argument .none]] }

theorem items_agree_with_template_behind_empty_string :
    ∃ e template subexpression,
      makeSql .standard none [] [] (.value (.object 0)) emptyStringList
        = .error (.template e)
            (Eval.withIterator emptyStringList (.finished "list_iterator")) ∧
      e.kind = "QuotingViolationError" ∧
      e.details = ⟨template, some 1, some subexpression⟩ := by
  have hlist : emptyStringList.objects[0]? = some (.list #[.str "''", .argument .none]) := rfl
  have hfirst : ∀ j < 1, ¬SiteTouchesQuote emptyStringTemplate.parts j := by
    rintro j hj ⟨⟨site, hsite⟩, -⟩
    obtain rfl : j = 0 := by omega
    cases hsite
  have hshown : Describable [.text "''", .value (.argument .none)]
      (Eval.withIterator emptyStringList (.finished "list_iterator")) := by
    intro v hv
    obtain rfl : v = .argument .none := by simpa using hv
    exact ⟨_, rfl⟩
  obtain ⟨e, template, subexpression, hrun, hkind, hdetails, -⟩ :=
    ((items_agree_with_template templateOf_emptyString (binds_emptyString .none)
      (.list [] hlist) (Eval.elements_list hlist (by decide))).2 1 siteTouchesQuote_emptyString
        hfirst).1 hshown
  exact ⟨e, template, subexpression, hrun, hkind, hdetails⟩

/-- A query that binds an integer with too many digits to be shown. -/
def unshowable : Val := .sql [.argument (.int (Value.digitBound : Int))]

/-- A query around a value is shown two levels above the value. -/
theorem shown_sql_argument_of_error {v : Val} {f : Value.Fault} {s : Store}
    (h : Value.shownWithin 958 [] v s = .error f s) :
    Value.shown (.sql [.argument v]) s = .error f s := by
  have hargument : Value.shownWithin 959 [] (.argument v) s = .error f s := bind_of_error h _
  refine bind_of_error (s := s) (t := s) ?_ _
  rw [List.mapM_cons]
  exact bind_of_error hargument _

theorem shown_unshowable (s : Store) : Value.shown unshowable s = .error .wrongValue s := by
  refine shown_sql_argument_of_error ?_
  have hint : Value.intText (Value.digitBound : Int) = Eval.fail .wrongValue := by
    rw [Value.intText, Int.natAbs_natCast, if_pos (Nat.le_refl _)]
  rw [Value.shownWithin, hint]
  rfl

/-- Behind an empty SQL string, an item that cannot be shown is refused for what kept it from being
shown. -/
theorem fromElements_emptyString_of_error {v : Val} {f : Value.Fault}
    (hitem : itemOf v = .value v) (h : Value.shown v {} = .error f {}) :
    fromElements (.tuple [.str "''", v]) {} = .error (.fault f) {} := by
  have hdescribed : described [.text "''", .value v] {} = .error f {} := by
    have hvalue : itemText (.value v) {} = .error f {} := bind_of_error h _
    have htext : itemText (.text "''") {} = .ok "''" {} := rfl
    rw [described_eq, List.mapM_cons, bind_assoc, bind_of_ok htext, bind_assoc, List.mapM_cons,
      bind_assoc, bind_of_error hvalue]
  have hrun : fromElements (.tuple [.str "''", v]) {} = fromItems [.text "''", itemOf v] {} := rfl
  rw [hrun, hitem]
  exact (fromItems_of_quotedIndex?_eq_index (i := 1) rfl {}).2 hdescribed

/-- A value next to a quote is refused for what keeps it from being described, and not for the
quote. -/
theorem unshowable_item_refused_without_description :
    templateOf .standard {} "''$x" {} = .ok emptyStringTemplate {} ∧
      Binds emptyStringTemplate [[("x", unshowable)]] {} [.literal "''", .value unshowable]
        (bindingStore [[("x", unshowable)]] {}) ∧
      SiteTouchesQuote emptyStringTemplate.parts 1 ∧
      fromElements (.tuple ([Filled.literal "''", .value unshowable].map Filled.toValue)) {}
        = .error (.fault .wrongValue) {} :=
  ⟨templateOf_emptyString, binds_emptyString unshowable, siteTouchesQuote_emptyString,
    fromElements_emptyString_of_error rfl (shown_unshowable {})⟩

end BoundSql.Template
