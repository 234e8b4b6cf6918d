import BoundSql.Proofs.Filling
set_option autoImplicit false

/-!
# SQL text does not depend on values

Two runs of one template over different names, or two rows of items with the same texts and
different values, are written out as the same SQL text.  All that a value can reach is its own place
in the list of parameters.  This is the reason to bind values at all, and it holds for every
compiler.

A compiler writes a row of nodes, and its text depends on the texts of the row and on where values
stand among them, which `Node.fragment?` keeps (`Compiler.sql_eq_of_fragments_eq`).  So it is enough
that two runs agree about that.  A value is one node if it is no piece of a query itself; a splat is
as many nodes as it has items, with separators between them (`fragments_flattenItems_plain`).  Hence
the two conditions: the values are plain, and splats have the same number of items in both runs.

For rows of items it has to be shown as well that both are refused or neither is, since the check of
the neighbours of a value looks at texts alone.
-/

namespace BoundSql.Query

/-! ## What the text of a row of nodes is made of -/

/-- The texts that a compiler writes for a row of nodes are made of the fragments of the row and
the places between them. -/
theorem Compiler.texts_eq_of_fragments_eq {V W : Type} (c : Compiler) {ns : List (Node V)}
    {ms : List (Node W)} (h : ns.map Node.fragment? = ms.map Node.fragment?) (next : Nat) :
    c.texts next ns = c.texts next ms := by
  induction ns generalizing ms next with
  | nil =>
      obtain rfl : ms = [] := by simpa using h.symm
      rfl
  | cons n ns ih =>
      cases ms with
      | nil => simp at h
      | cons m ms =>
          obtain ⟨hhead, htail⟩ := List.cons.inj h
          cases n with
          | literal s =>
              cases m with
              | literal t =>
                  obtain rfl : s = t := Option.some.inj hhead
                  rw [Compiler.texts, Compiler.texts, ih htail]
              | argument w => simp [Node.fragment?] at hhead
          | argument v =>
              cases m with
              | literal t => simp [Node.fragment?] at hhead
              | argument w => rw [Compiler.texts, Compiler.texts, ih htail]

theorem Compiler.sql_eq_of_fragments_eq {V W : Type} (c : Compiler) {q : Sql V} {r : Sql W}
    (h : q.args.map Node.fragment? = r.args.map Node.fragment?) :
    (c.compile q).sql = (c.compile r).sql := by
  simp only [Compiler.compile, c.texts_eq_of_fragments_eq h]

/-! ## Splats of plain values -/

theorem flattenRest_plain {V : Type} (vs : List V) :
    flattenRest (vs.map Element.plain) = vs.flatMap fun v => [separator, .argument v] := by
  induction vs with
  | nil => rfl
  | cons v vs ih =>
      rw [List.map_cons, flattenRest, ih, Element.flatten]
      rfl

/-- A splat of plain values is written as separators with places between them. -/
theorem fragments_flattenItems_plain {V : Type} (vs : List V) :
    (flattenItems (vs.map Element.plain)).map Node.fragment?
      = (List.replicate vs.length none).intersperse (some separatorText) := by
  cases vs with
  | nil => rfl
  | cons v vs =>
      rw [List.map_cons, flattenItems, flattenRest_plain, Element.flatten]
      induction vs generalizing v with
      | nil => rfl
      | cons w vs ih =>
          have hrest := ih w
          simp only [List.flatMap_cons, List.length_cons, List.replicate_succ, List.map_append,
            List.map_cons, List.map_nil, List.intersperse_cons_cons] at hrest ⊢
          rw [← hrest]
          rfl

theorem values_flattenItems_plain {V : Type} (vs : List V) :
    (flattenItems (vs.map Element.plain)).filterMap Node.value? = vs := by
  have hrest : ∀ ws : List V,
      (ws.flatMap fun v => [separator, Node.argument v]).filterMap Node.value? = ws := by
    intro ws
    induction ws with
    | nil => rfl
    | cons w ws ih =>
        rw [List.flatMap_cons, List.filterMap_append, ih]
        rfl
  cases vs with
  | nil => rfl
  | cons v vs =>
      rw [List.map_cons, flattenItems, flattenRest_plain, Element.flatten, List.filterMap_append,
        hrest]
      rfl

end BoundSql.Query

namespace BoundSql.Value

open BoundSql.Query (Element)

theorem map_elementOf_of_isNode_eq_false {vs : List Val} (h : ∀ v ∈ vs, isNode v = false) :
    vs.map elementOf = vs.map Element.plain :=
  List.map_congr_left fun v hv => elementOf_of_isNode_eq_false (h v hv)

end BoundSql.Value

namespace BoundSql.Template

open BoundSql.Query (Compiler Element Node Sql flattenAll flattenItems)
open BoundSql.Value (Store Val elementOf isNode)

/-! ## Bound templates -/

/-- No part brings a piece of a query into the query. -/
def NoPieces (fs : List (Filled Val)) : Prop := ∀ f ∈ fs, ∀ v ∈ f.values, isNode v = false

theorem NoPieces.head {f : Filled Val} {fs : List (Filled Val)} (h : NoPieces (f :: fs)) :
    ∀ v ∈ f.values, isNode v = false := h f List.mem_cons_self

theorem NoPieces.tail {f : Filled Val} {fs : List (Filled Val)} (h : NoPieces (f :: fs)) :
    NoPieces fs := fun g hg => h g (List.mem_cons_of_mem f hg)

/-- The sizes of the splats, in order. -/
def splatSizes (fs : List (Filled Val)) : List Nat := fs.filterMap Filled.splatSize?

/-- The nodes of a part whose values are no pieces of queries. -/
theorem flatten_toElement_of_noPieces {f : Filled Val} (h : ∀ v ∈ f.values, isNode v = false) :
    (f.toElement elementOf).flatten = match f with
      | .literal text => [.literal text]
      | .value v => [.argument v]
      | .splat vs => flattenItems (vs.map Element.plain) := by
  cases f with
  | literal text => rfl
  | value v =>
      have hv : isNode v = false := h v (List.mem_singleton.mpr rfl)
      simp only [Filled.toElement, Value.elementOf_of_isNode_eq_false hv, Element.flatten]
  | splat vs =>
      have hvs : vs.map elementOf = vs.map Element.plain :=
        Value.map_elementOf_of_isNode_eq_false h
      simp only [Filled.toElement, hvs, Element.flatten]

/-- The parameters of a bound query are the values of its sites, in the order of the text. -/
theorem params_ofElements_of_noPieces {fs : List (Filled Val)} (h : NoPieces fs) :
    (Sql.ofElements (fs.map (Filled.toElement elementOf))).params
      = fs.flatMap Filled.values := by
  have hall : (flattenAll (fs.map (Filled.toElement elementOf))).filterMap Node.value?
      = fs.flatMap Filled.values := by
    induction fs with
    | nil => rfl
    | cons f fs ih =>
        rw [List.map_cons, Query.flattenAll, List.filterMap_append, ih h.tail, List.flatMap_cons,
          flatten_toElement_of_noPieces h.head]
        congr 1
        cases f with
        | literal text => rfl
        | value v => rfl
        | splat vs => exact Query.values_flattenItems_plain vs
  exact hall

/-- Two runs over the same parts whose splats have the same sizes have the same texts between the
places of their values. -/
theorem fragments_eq_of_fills {ε σ Code : Type} {ev₁ ev₂ : Evaluator (EStateM ε σ) Code Val}
    {ps : List (Part Code)} {fs₁ fs₂ : List (Filled Val)} {s₁ s₁' s₂ s₂' : σ}
    (h₁ : Fills ev₁ ps s₁ fs₁ s₁') (h₂ : Fills ev₂ ps s₂ fs₂ s₂') (n₁ : NoPieces fs₁)
    (n₂ : NoPieces fs₂) (hsizes : splatSizes fs₁ = splatSizes fs₂) :
    (flattenAll (fs₁.map (Filled.toElement elementOf))).map Node.fragment?
      = (flattenAll (fs₂.map (Filled.toElement elementOf))).map Node.fragment? := by
  induction h₁ generalizing fs₂ s₂ with
  | nil s =>
      cases h₂
      rfl
  | literal rest ih =>
      cases h₂ with
      | literal rest₂ =>
          have htail := ih rest₂ n₁.tail n₂.tail hsizes
          simp only [List.map_cons, Query.flattenAll, List.map_append, htail, Filled.toElement]
  | value plain evaluates rest ih =>
      cases h₂ with
      | value _ _ rest₂ =>
          have htail := ih rest₂ n₁.tail n₂.tail hsizes
          simp only [List.map_cons, Query.flattenAll, List.map_append, htail,
            flatten_toElement_of_noPieces n₁.head, flatten_toElement_of_noPieces n₂.head]
          rfl
      | splat splat => rw [plain] at splat; exact absurd splat Bool.false_ne_true
  | splat splat evaluates collects rest ih =>
      cases h₂ with
      | value plain => rw [plain] at splat; exact absurd splat Bool.false_ne_true
      | splat _ _ _ rest₂ =>
          obtain ⟨hsize, hsizes⟩ := List.cons.inj hsizes
          have htail := ih rest₂ n₁.tail n₂.tail hsizes
          simp only [List.map_cons, Query.flattenAll, List.map_append, htail,
            flatten_toElement_of_noPieces n₁.head, flatten_toElement_of_noPieces n₂.head,
            Query.fragments_flattenItems_plain, hsize]

/-! ## Rows of items -/

namespace Item

/-- The text of an item that is one. -/
def text? {V : Type} : Item V → Option String
  | text s => some s
  | value _ => none

/-- The value of an item that is one. -/
def value? {V : Type} : Item V → Option V
  | text _ => none
  | value v => some v

/-- The item whose value, if it has one, is bound as an argument. -/
def bound : Item Val → Item Val
  | text s => .text s
  | value v => .value (Value.bound v)

/-- The node of an item whose value is no piece of a query. -/
def node {V : Type} : Item V → Node V
  | text s => .literal s
  | value v => .argument v

end Item

/-- Which value touches a quote is a matter of the texts. -/
theorem quotedFrom_eq_of_texts_eq {V W : Type} {items : List (Item V)} {others : List (Item W)}
    (h : items.map Item.text? = others.map Item.text?) (before : Bool) (i : Nat) :
    quotedFrom before i items = quotedFrom before i others := by
  induction items generalizing others before i with
  | nil =>
      obtain rfl : others = [] := by simpa using h.symm
      rfl
  | cons item items ih =>
      cases others with
      | nil => simp at h
      | cons other others =>
          obtain ⟨hhead, htail⟩ := List.cons.inj h
          have hnext : items.head?.any Item.beginsQuoted = others.head?.any Item.beginsQuoted := by
            cases items with
            | nil =>
                obtain rfl : others = [] := by simpa using htail.symm
                rfl
            | cons a items =>
                cases others with
                | nil => simp at htail
                | cons b others =>
                    obtain ⟨hab, -⟩ := List.cons.inj htail
                    cases a <;> cases b <;> simp_all [Item.text?, Item.beginsQuoted]
          have hends : item.endsQuoted = other.endsQuoted := by
            cases item <;> cases other <;> simp_all [Item.text?, Item.endsQuoted]
          have hvalue : item.isValue = other.isValue := by
            cases item <;> cases other <;> simp_all [Item.text?, Item.isValue]
          rw [quotedFrom, quotedFrom, hnext, hends, hvalue, ih htail]

theorem map_text?_bound (items : List (Item Val)) :
    (items.map Item.bound).map Item.text? = items.map Item.text? := by
  rw [List.map_map]
  refine List.map_congr_left fun item _ => ?_
  cases item <;> rfl

/-- Elements that stand for one node each are a row of these nodes. -/
theorem flattenAll_of_flatten_eq {items : List (Item Val)} {element : Item Val → Element Val}
    (h : ∀ item ∈ items, (element item).flatten = [item.node]) :
    flattenAll (items.map element) = items.map Item.node := by
  induction items with
  | nil => rfl
  | cons item items ih =>
      rw [List.map_cons, Query.flattenAll, h item List.mem_cons_self,
        ih fun other hother => h other (List.mem_cons_of_mem item hother)]
      rfl

/-- Bound items are a row of their texts and values. -/
theorem flattenAll_bound {items : List (Item Val)}
    (h : ∀ v ∈ items.filterMap Item.value?, isNode v = false) :
    flattenAll ((items.map Item.bound).map (Item.toElement elementOf)) = items.map Item.node := by
  rw [List.map_map]
  refine flattenAll_of_flatten_eq fun item hitem => ?_
  cases item with
  | text s => simp [Item.bound, Item.toElement, Item.node, Element.flatten]
  | value v =>
      have hv : isNode v = false := h v (List.mem_filterMap.mpr ⟨_, hitem, rfl⟩)
      have hbound : elementOf (Value.bound v) = .argument v := by
        rw [Value.bound, hv, if_neg Bool.false_ne_true, elementOf]
      simp [Item.bound, Item.toElement, Item.node, Element.flatten, hbound]

theorem fragments_map_node {V : Type} (items : List (Item V)) :
    (items.map Item.node).map Node.fragment? = items.map Item.text? := by
  rw [List.map_map]
  refine List.map_congr_left fun item _ => ?_
  cases item <;> rfl

theorem values_map_node {V : Type} (items : List (Item V)) :
    (items.map Item.node).filterMap Node.value? = items.filterMap Item.value? := by
  rw [List.filterMap_map]
  refine congrArg (List.filterMap · items) (funext fun item => ?_)
  cases item <;> rfl

/-- Items none of which touches a quote make a query, and change nothing. -/
theorem fromItems_of_quotedIndex?_eq_none {items : List (Item Val)}
    (h : quotedIndex? items = none) (s : Store) :
    fromItems items s = .ok (Sql.ofElements (items.map (Item.toElement elementOf))) s := by
  unfold fromItems sqlOfItems
  rw [h]
  rfl

/-- Items are refused if one of them touches a quote. -/
theorem fromItems_of_quotedIndex?_eq_some {items : List (Item Val)} {i : Nat}
    (h : quotedIndex? items = some i) (s : Store) : ∃ r s', fromItems items s = .error r s' := by
  cases hrun : fromItems items s with
  | error r s' => exact ⟨r, s', rfl⟩
  | ok q s' =>
      exfalso
      unfold fromItems sqlOfItems at hrun
      rw [h] at hrun
      obtain ⟨template, s₁, -, hrun⟩ := bind_eq_ok_iff.mp hrun
      obtain ⟨subexpression, s₂, -, hrun⟩ := bind_eq_ok_iff.mp hrun
      cases hrun

/-- Refuses options, if there are some. -/
def refuseOptions (settings : Option Settings) (named : Val) (names : Names) : Build Unit :=
  match settings, named, names with
  | none, .none, [] => pure ()
  | _, _, _ => Build.refuse .options

theorem refuseOptions_cases (settings : Option Settings) (named : Val) (names : Names) :
    refuseOptions settings named names = pure () ∨
      refuseOptions settings named names = Build.refuse .options := by
  unfold refuseOptions
  split
  · left
    rfl
  · right
    rfl

/-- Texts with values between them are refused for the options given with them, or else made a
query item by item. -/
theorem makeSql_interpolated (room : Room) (settings : Option Settings)
    (surroundings : List Names) (names : Names) :
    (∀ (items : List (Item Val)) (s : Store),
        makeSql room settings surroundings names (.interpolated items) s = .error .options s)
      ∨ ∀ (items : List (Item Val)) (s : Store),
        makeSql room settings surroundings names (.interpolated items) s
          = fromItems (items.map Item.bound) s := by
  have hrun : ∀ (items : List (Item Val)) (s : Store),
      makeSql room settings surroundings names (.interpolated items) s
        = (refuseOptions settings ((names.lookup settingsName).getD .none)
              (names.filter (·.1 != settingsName)) >>= fun _ : Unit =>
            fromItems (items.map Item.bound)) s := by
    intro items s
    rfl
  rcases refuseOptions_cases settings ((names.lookup settingsName).getD .none)
    (names.filter (·.1 != settingsName)) with hnone | hsome
  · right
    intro items s
    rw [hrun, hnone]
    rfl
  · left
    intro items s
    rw [hrun, hsome]
    rfl

/-! ## Values stay out of the text -/

/-- Two queries are written as one SQL text, each with its own values as parameters. -/
def WrittenAlike (c : Compiler) (q₁ q₂ : Sql Val) (vs₁ vs₂ : List Val) : Prop :=
  (c.compile q₁).sql = (c.compile q₂).sql ∧ (c.compile q₁).params = vs₁ ∧
    (c.compile q₂).params = vs₂

/-- Values never reach the SQL text.  Two bindings of an accepted template that evaluate its sites
to values, with splats of the same sizes, are written as one text, and the parameters of each are
its own site values in order.  So are two rows of items with the same texts between values, unless
both are refused. -/
theorem sql_text_independent_of_values :
    (∀ (room : Room) (settings : Settings) (text : String) (t : ExprTemplate) (s₀ s₀' : Store),
      templateOf room settings text s₀ = .ok t s₀' →
      ∀ (layers₁ layers₂ : List Names) (s₁ s₁' s₂ s₂' : Store) (fs₁ fs₂ : List (Filled Val)),
        Binds t layers₁ s₁ fs₁ s₁' → Binds t layers₂ s₂ fs₂ s₂' →
        NoPieces fs₁ → NoPieces fs₂ → splatSizes fs₁ = splatSizes fs₂ →
        ∃ q₁ q₂, bindTemplate t layers₁ s₁ = .ok q₁ s₁' ∧
          bindTemplate t layers₂ s₂ = .ok q₂ s₂' ∧
          ∀ c, WrittenAlike c q₁ q₂ (fs₁.flatMap Filled.values) (fs₂.flatMap Filled.values)) ∧
    (∀ (room : Room) (settings : Option Settings) (surroundings : List Names) (names : Names)
      (items₁ items₂ : List (Item Val)) (s₁ s₂ : Store),
        items₁.map Item.text? = items₂.map Item.text? →
        (∀ v ∈ items₁.filterMap Item.value?, isNode v = false) →
        (∀ v ∈ items₂.filterMap Item.value?, isNode v = false) →
        (∃ q₁ q₂, makeSql room settings surroundings names (.interpolated items₁) s₁ = .ok q₁ s₁ ∧
          makeSql room settings surroundings names (.interpolated items₂) s₂ = .ok q₂ s₂ ∧
          ∀ c, WrittenAlike c q₁ q₂ (items₁.filterMap Item.value?)
            (items₂.filterMap Item.value?)) ∨
        (∃ r₁ r₂ s₁' s₂',
          makeSql room settings surroundings names (.interpolated items₁) s₁ = .error r₁ s₁' ∧
          makeSql room settings surroundings names (.interpolated items₂) s₂ = .error r₂ s₂')) := by
  constructor
  · intro room settings text t s₀ s₀' _ layers₁ layers₂ s₁ s₁' s₂ s₂' fs₁ fs₂ h₁ h₂ n₁ n₂ hsizes
    refine ⟨_, _, bindTemplate_eq_ok_iff.mpr ⟨fs₁, h₁, rfl⟩,
      bindTemplate_eq_ok_iff.mpr ⟨fs₂, h₂, rfl⟩, fun c => ⟨?_, ?_, ?_⟩⟩
    · exact c.sql_eq_of_fragments_eq (fragments_eq_of_fills h₁ h₂ n₁ n₂ hsizes)
    · exact params_ofElements_of_noPieces n₁
    · exact params_ofElements_of_noPieces n₂
  · intro room settings surroundings names items₁ items₂ s₁ s₂ htexts n₁ n₂
    have hbound : (items₁.map Item.bound).map Item.text?
        = (items₂.map Item.bound).map Item.text? := by
      rw [map_text?_bound, map_text?_bound, htexts]
    rcases makeSql_interpolated room settings surroundings names with hrefused | hmade
    · exact .inr ⟨_, _, _, _, hrefused items₁ s₁, hrefused items₂ s₂⟩
    · rw [hmade, hmade]
      have hindex : quotedIndex? (items₁.map Item.bound) = quotedIndex? (items₂.map Item.bound) :=
        quotedFrom_eq_of_texts_eq hbound false 0
      cases hquoted : quotedIndex? (items₁.map Item.bound) with
      | some i =>
          obtain ⟨r₁, s₁', hr₁⟩ := fromItems_of_quotedIndex?_eq_some hquoted s₁
          obtain ⟨r₂, s₂', hr₂⟩ := fromItems_of_quotedIndex?_eq_some (hindex ▸ hquoted) s₂
          exact .inr ⟨r₁, r₂, s₁', s₂', hr₁, hr₂⟩
      | none =>
          left
          refine ⟨_, _, fromItems_of_quotedIndex?_eq_none hquoted s₁,
            fromItems_of_quotedIndex?_eq_none (hindex ▸ hquoted) s₂, fun c => ⟨?_, ?_, ?_⟩⟩
          · refine c.sql_eq_of_fragments_eq ?_
            simp only [Sql.ofElements, flattenAll_bound n₁, flattenAll_bound n₂,
              fragments_map_node, htexts]
          · simp only [Compiler.compile, Sql.params, Sql.ofElements, flattenAll_bound n₁,
              values_map_node]
          · simp only [Compiler.compile, Sql.params, Sql.ofElements, flattenAll_bound n₂,
              values_map_node]

theorem sql_text_independent_of_two_rows :
    (∃ q₁ q₂,
      bindTemplate rowTemplate [rowNames (.int 7) .none] {}
        = .ok q₁ (bindingStore [rowNames (.int 7) .none] {}) ∧
      bindTemplate rowTemplate [rowNames (.str "' or 1") (.bool true)] {}
        = .ok q₂ (bindingStore [rowNames (.str "' or 1") (.bool true)] {}) ∧
      ∀ c, WrittenAlike c q₁ q₂ [.int 7, .int 7, .none]
        [.str "' or 1", .str "' or 1", .bool true]) ∧
    ∃ q₁ q₂,
      makeSql .standard none [] [] (.interpolated [.text "a = ", .value (.int 7)]) {} = .ok q₁ {} ∧
      makeSql .standard none [] [] (.interpolated [.text "a = ", .value (.str "' or 1")]) {}
        = .ok q₂ {} ∧
      ∀ c, WrittenAlike c q₁ q₂ [.int 7] [.str "' or 1"] := by
  constructor
  · refine sql_text_independent_of_values.1 .standard {} "$x, $(*ys)" rowTemplate {} {}
      templateOf_row _ _
      {} _ {} _ _ _ (binds_row (.int 7) .none) (binds_row (.str "' or 1") (.bool true)) ?_ ?_ rfl
    · simp [NoPieces, isNode]
    · simp [NoPieces, isNode]
  · rcases sql_text_independent_of_values.2 .standard none [] [] [.text "a = ", .value (.int 7)]
      [.text "a = ", .value (.str "' or 1")] {} {} rfl (by simp [Item.value?, isNode])
      (by simp [Item.value?, isNode]) with halike | ⟨r, _, _, _, hrefused, _⟩
    · exact halike
    · cases hrefused

end BoundSql.Template
