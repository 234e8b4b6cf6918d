import BoundSql.Proofs.Filling
set_option autoImplicit false

/-!
# Parameters stand outside SQL strings

An SQL string runs from one single quote to the next, so a parameter stands outside of all strings
if an even number of quotes stands in front of it.  Scanning gives every site such a place, and a
query in which all parameters have such a place, with an even number of quotes in all, can be put
where a parameter could stand.  So the property is kept by everything that queries are made of.

`QuoteClosed` is that property of a row of nodes, and there is one lemma for each way to make a row:
joining, separators, splats, queries inside of queries, and binding a template.  `Assembled`
collects the ways in which a caller can come to a query with them, and by induction all such queries
have the property (`Assembled.quoteClosed`).  A row of literal text with an odd number of quotes
does not, which is why the elements of a caller have to be `Placeable`.

What a driver gets is text, and a placeholder in it is where a parameter was.  A compiler that puts
no quotes into its placeholders and takes none out of literal text leaves every count as it was
(`Compiler.QuoteNeutral`), as all compilers with one of the usual styles do.
-/

namespace BoundSql.Query

variable {V : Type}

/-! ## Counting quotes -/

/-- The number of single quotes of a text. -/
def quotes (s : String) : Nat := s.toList.count '\''

/-- The number of single quotes in the literal text of nodes. -/
def literalQuotes : List (Node V) → Nat
  | [] => 0
  | .literal s :: ns => quotes s + literalQuotes ns
  | .argument _ :: ns => literalQuotes ns

/-- The literal text of nodes has an even number of single quotes, and so has the literal text in
front of each argument. -/
structure QuoteClosed (ns : List (Node V)) : Prop where
  even : literalQuotes ns % 2 = 0
  arguments : ∀ (before : List (Node V)) (v : V) (after : List (Node V)),
    ns = before ++ .argument v :: after → literalQuotes before % 2 = 0

/-- Each argument has an even number of quotes in front of it, where `n` quotes stand in front of
all the nodes. -/
def ArgumentsOutside (n : Nat) (ns : List (Node V)) : Prop :=
  ∀ (before : List (Node V)) (v : V) (after : List (Node V)),
    ns = before ++ .argument v :: after → (n + literalQuotes before) % 2 = 0

@[simp] theorem quotes_append (s t : String) : quotes (s ++ t) = quotes s + quotes t := by
  rw [quotes, String.toList_append, List.count_append, ← quotes, ← quotes]

@[simp] theorem literalQuotes_nil : literalQuotes ([] : List (Node V)) = 0 := rfl

@[simp] theorem literalQuotes_literal (s : String) (ns : List (Node V)) :
    literalQuotes (.literal s :: ns) = quotes s + literalQuotes ns := rfl

@[simp] theorem literalQuotes_argument (v : V) (ns : List (Node V)) :
    literalQuotes (.argument v :: ns) = literalQuotes ns := rfl

theorem literalQuotes_append (ns ms : List (Node V)) :
    literalQuotes (ns ++ ms) = literalQuotes ns + literalQuotes ms := by
  induction ns with
  | nil => rw [List.nil_append, literalQuotes_nil, Nat.zero_add]
  | cons n ns ih =>
      cases n with
      | literal s =>
          rw [List.cons_append, literalQuotes_literal, literalQuotes_literal, ih, Nat.add_assoc]
      | argument v => rw [List.cons_append, literalQuotes_argument, literalQuotes_argument, ih]

/-! ## Arguments one after the other -/

theorem quoteClosed_iff {ns : List (Node V)} :
    QuoteClosed ns ↔ literalQuotes ns % 2 = 0 ∧ ArgumentsOutside 0 ns := by
  constructor
  · rintro ⟨heven, harguments⟩
    refine ⟨heven, fun before v after h => ?_⟩
    rw [Nat.zero_add]
    exact harguments before v after h
  · rintro ⟨heven, harguments⟩
    refine ⟨heven, fun before v after h => ?_⟩
    rw [← Nat.zero_add (literalQuotes before)]
    exact harguments before v after h

theorem argumentsOutside_nil (n : Nat) : ArgumentsOutside n ([] : List (Node V)) :=
  fun _ _ _ h => by simp at h

theorem argumentsOutside_literal {n : Nat} {s : String} {ns : List (Node V)} :
    ArgumentsOutside n (.literal s :: ns) ↔ ArgumentsOutside (n + quotes s) ns := by
  constructor
  · intro h before v after heq
    have hcons := h (.literal s :: before) v after (by rw [heq, List.cons_append])
    rwa [literalQuotes_literal, ← Nat.add_assoc] at hcons
  · intro h before v after heq
    cases before with
    | nil => exact nomatch (List.cons.inj heq).1
    | cons b before =>
        obtain ⟨rfl, htail⟩ := List.cons.inj heq
        rw [literalQuotes_literal, ← Nat.add_assoc]
        exact h before v after htail

theorem argumentsOutside_argument {n : Nat} {w : V} {ns : List (Node V)} :
    ArgumentsOutside n (.argument w :: ns) ↔ n % 2 = 0 ∧ ArgumentsOutside n ns := by
  constructor
  · intro h
    refine ⟨h [] w ns rfl, fun before v after heq => ?_⟩
    exact h (.argument w :: before) v after (by rw [heq, List.cons_append])
  · rintro ⟨heven, h⟩ before v after heq
    cases before with
    | nil => exact heven
    | cons b before =>
        obtain ⟨rfl, htail⟩ := List.cons.inj heq
        exact h before v after htail

theorem argumentsOutside_append {n : Nat} {ns ms : List (Node V)} :
    ArgumentsOutside n (ns ++ ms) ↔
      ArgumentsOutside n ns ∧ ArgumentsOutside (n + literalQuotes ns) ms := by
  induction ns generalizing n with
  | nil =>
      rw [List.nil_append, literalQuotes_nil, Nat.add_zero]
      exact (and_iff_right (argumentsOutside_nil n)).symm
  | cons node ns ih =>
      cases node with
      | literal s =>
          rw [List.cons_append, argumentsOutside_literal, argumentsOutside_literal, ih,
            literalQuotes_literal, Nat.add_assoc]
      | argument v =>
          rw [List.cons_append, argumentsOutside_argument, argumentsOutside_argument, ih,
            literalQuotes_argument, and_assoc]

/-- Only the parity of the quotes in front counts. -/
theorem ArgumentsOutside.of_mod_eq {n m : Nat} {ns : List (Node V)}
    (h : ArgumentsOutside n ns) (hmod : n % 2 = m % 2) : ArgumentsOutside m ns := by
  intro before v after heq
  have hn := h before v after heq
  omega

/-! ## What queries are put together from -/

namespace QuoteClosed

theorem nil : QuoteClosed ([] : List (Node V)) :=
  quoteClosed_iff.mpr ⟨rfl, argumentsOutside_nil 0⟩

theorem argument (v : V) : QuoteClosed [Node.argument v] :=
  quoteClosed_iff.mpr ⟨rfl, argumentsOutside_argument.mpr ⟨rfl, argumentsOutside_nil 0⟩⟩

theorem literal {s : String} (even : quotes s % 2 = 0) :
    QuoteClosed [(Node.literal s : Node V)] :=
  quoteClosed_iff.mpr ⟨even, argumentsOutside_literal.mpr (argumentsOutside_nil _)⟩

/-- Nodes that are closed can be put behind any even number of quotes. -/
theorem argumentsOutside {ns : List (Node V)} (h : QuoteClosed ns) {n : Nat}
    (even : n % 2 = 0) : ArgumentsOutside n ns :=
  (quoteClosed_iff.mp h).2.of_mod_eq even.symm

/-- Nodes that are closed keep the arguments behind them outside of the strings. -/
theorem argumentsOutside_append {ns ms : List (Node V)} (hns : QuoteClosed ns) {n : Nat}
    (even : n % 2 = 0) (hms : ArgumentsOutside n ms) : ArgumentsOutside n (ns ++ ms) := by
  have hclosed := hns.even
  rw [Query.argumentsOutside_append]
  exact ⟨hns.argumentsOutside even, hms.of_mod_eq (by omega)⟩

/-- Nodes that are closed change no parity. -/
theorem literalQuotes_append_mod {ns : List (Node V)} (hns : QuoteClosed ns)
    (ms : List (Node V)) : literalQuotes (ns ++ ms) % 2 = literalQuotes ms % 2 := by
  have hclosed := hns.even
  rw [literalQuotes_append]
  omega

theorem append {ns ms : List (Node V)} (hns : QuoteClosed ns) (hms : QuoteClosed ms) :
    QuoteClosed (ns ++ ms) := by
  rw [quoteClosed_iff, hns.literalQuotes_append_mod]
  exact ⟨hms.even, hns.argumentsOutside_append rfl (hms.argumentsOutside rfl)⟩

theorem separator : QuoteClosed [(separator : Node V)] := literal rfl

theorem flattenAll {es : List (Element V)} (h : ∀ e ∈ es, QuoteClosed e.flatten) :
    QuoteClosed (flattenAll es) := by
  induction es with
  | nil => exact nil
  | cons e es ih =>
      exact (h e List.mem_cons_self).append (ih fun f hf => h f (List.mem_cons_of_mem e hf))

theorem flattenRest {items : List (Element V)} (h : ∀ e ∈ items, QuoteClosed e.flatten) :
    QuoteClosed (flattenRest items) := by
  induction items with
  | nil => exact nil
  | cons e items ih =>
      have hitem := (h e List.mem_cons_self).append
        (ih fun f hf => h f (List.mem_cons_of_mem e hf))
      exact separator.append hitem

theorem flattenItems {items : List (Element V)} (h : ∀ e ∈ items, QuoteClosed e.flatten) :
    QuoteClosed (flattenItems items) := by
  cases items with
  | nil => exact nil
  | cons e items =>
      exact (h e List.mem_cons_self).append
        (flattenRest fun f hf => h f (List.mem_cons_of_mem e hf))

/-- Joining puts a blank between two queries, which is no quote. -/
theorem join {q r : Sql V} (hq : QuoteClosed q.args) (hr : QuoteClosed r.args) :
    QuoteClosed (q.join r).args := by
  have hblank : QuoteClosed [(Node.literal Sql.blank : Node V)] := literal rfl
  exact hq.append (hblank.append hr)

end QuoteClosed

/-! ## Compiled text -/

/-- A compiler whose placeholders hold no single quote and which neither adds quotes to literal
text nor takes any away. -/
structure Compiler.QuoteNeutral (c : Compiler) : Prop where
  placeholder : ∀ n : Nat, 0 < n → quotes (c.placeholder n) = 0
  literal : ∀ s, quotes (c.literalText s) = quotes s

/-- The quotes of compiled text are those of the literal text. -/
theorem Compiler.QuoteNeutral.quotes_join_texts {c : Compiler} (h : c.QuoteNeutral)
    (ns : List (Node V)) {next : Nat} (hnext : 0 < next) :
    quotes (String.join (c.texts next ns)) = literalQuotes ns := by
  induction ns generalizing next with
  | nil => rfl
  | cons n ns ih =>
      cases n with
      | literal s =>
          rw [Compiler.texts, String.join_cons, quotes_append, h.literal, ih hnext,
            literalQuotes_literal]
      | argument v =>
          rw [Compiler.texts, String.join_cons, quotes_append, h.placeholder next hnext,
            ih (Nat.succ_pos next), Nat.zero_add, literalQuotes_argument]

/-- The text in front of and behind the placeholder of an argument. -/
theorem Compiler.compile_sql_of_append (c : Compiler) {q : Sql V} {before after : List (Node V)}
    {v : V} (h : q.args = before ++ .argument v :: after) :
    (c.compile q).sql = String.join (c.texts 1 before)
      ++ c.placeholder ((before.filterMap Node.value?).length + 1 : Nat)
      ++ String.join (c.texts ((before.filterMap Node.value?).length + 2) after) := by
  simp only [Compiler.compile, h, Compiler.texts_append, Compiler.texts, String.join_append,
    String.join_cons, String.append_assoc, Nat.add_comm 1]

/-- The number of a placeholder is written with digits alone. -/
theorem quotes_toString (n : Nat) : quotes (toString (n : Int)) = 0 := by
  change (Nat.repr n).toList.count '\'' = 0
  rw [Nat.toList_repr, List.count_eq_zero]
  intro hmem
  exact absurd (Nat.isDigit_of_mem_toDigits (by decide) (by decide) hmem) (by decide)

/-- No named style puts a quote into its placeholders. -/
theorem Compiler.quoteNeutral_of_mem_styles {name : String} {p : Placeholder}
    (h : (name, p) ∈ Placeholder.styles) : Compiler.QuoteNeutral ⟨p, none⟩ where
  placeholder n _ := by
    simp only [Placeholder.styles, List.mem_cons, Prod.mk.injEq, List.not_mem_nil, or_false] at h
    rcases h with ⟨-, rfl⟩ | ⟨-, rfl⟩ | ⟨-, rfl⟩ | ⟨-, rfl⟩
    · change quotes ("$" ++ toString (n : Int)) = 0
      rw [quotes_append, quotes_toString]
      decide
    · change quotes "%s" = 0
      decide
    · change quotes (":" ++ toString (n : Int)) = 0
      rw [quotes_append, quotes_toString]
      decide
    · change quotes "?" = 0
      decide
  literal _ := rfl

/-- Doubling percent signs leaves the quotes as they are. -/
theorem quotes_escapePercent (s : String) : quotes (escapePercent s) = quotes s := by
  rw [escapePercent, quotes, quotes, String.toList_ofList]
  induction s.toList with
  | nil => rfl
  | cons c cs ih =>
      rw [escapePercentChars] at ih ⊢
      rw [List.flatMap_cons, List.count_append, ih, List.count_cons, Nat.add_comm]
      by_cases hc : c = '%'
      · subst hc
        rfl
      · rw [if_neg hc, List.count_singleton]

theorem Compiler.quoteNeutral_percent : Compiler.percent.QuoteNeutral where
  placeholder _ _ := by
    change quotes "%s" = 0
    decide
  literal := quotes_escapePercent

end BoundSql.Query

namespace BoundSql.Template

open BoundSql.Query
open BoundSql.Value (Store Val elementOf isNode ofSql sqlOf)

/-! ## Sites stand outside SQL strings -/

/-- A part as a node: a site takes the place of an argument. -/
def Part.toNode {Code : Type} : Part Code → Node (Site Code)
  | .literal text => .literal text
  | .site x => .argument x

section Sites

variable {Code : Type} {settings : Settings} {compile : List Char → Verdict Code}

/-- Behind a run of literal text, the quotes of the run count as well. -/
theorem argumentsOutside_literalPart {n : Nat} {run : List Char} {ps : List (Part Code)} :
    ArgumentsOutside n ((literalPart run ++ ps).map Part.toNode) ↔
      ArgumentsOutside (n + run.count '\'') (ps.map Part.toNode) := by
  cases run with
  | nil => rfl
  | cons c run =>
      have hquotes : quotes (String.ofList (c :: run).reverse) = (c :: run).count '\'' := by
        rw [quotes, String.toList_ofList, List.count_reverse]
      rw [← hquotes]
      exact argumentsOutside_literal

/-- A character turns the parity of the quotes if it is a quote. -/
theorem even_count_cons_iff {n : Nat} {inString : Bool} {run : List Char} (c : Char)
    (tracks : inString = false ↔ (n + run.count '\'') % 2 = 0) :
    (if c = '\'' then !inString else inString) = false ↔
      (n + (c :: run).count '\'') % 2 = 0 := by
  by_cases hc : c = '\''
  · rw [if_pos hc, hc, List.count_cons_self, Bool.not_eq_false', ← Bool.not_eq_false, tracks]
    omega
  · rw [if_neg hc, List.count_cons_of_ne hc]
    exact tracks

/-- The sites that are gathered from pieces stand outside of all strings.  `n` counts the quotes in
front of the run. -/
theorem argumentsOutside_gather {inString : Bool} {cs : List Char} {ps : List (Piece Code)}
    (h : Cuts settings compile inString cs ps) {n : Nat} {run : List Char}
    (tracks : inString = false ↔ (n + run.count '\'') % 2 = 0) :
    ArgumentsOutside n ((gather settings.marker run ps).map Part.toNode) := by
  induction h generalizing n run with
  | nil inString =>
      rw [gather, ← List.append_nil (literalPart run), argumentsOutside_literalPart]
      exact argumentsOutside_nil _
  | char quoted single tail ih => exact ih (even_count_cons_iff _ tracks)
  | escapedMarker tail ih =>
      rw [gather, argumentsOutside_literalPart]
      refine ih ?_
      rw [List.count_cons_of_ne settings.marker_ne_quote]
      exact tracks
  | site reads tail ih =>
      rw [gather, argumentsOutside_literalPart, List.map_cons, Part.toNode,
        argumentsOutside_argument]
      exact ⟨tracks.mp rfl, ih tracks⟩

/-- All sites of a template stand outside of all strings. -/
theorem argumentsOutside_of_scan {text : String} {parts : List (Part Code)}
    (h : scan settings compile text = .ok parts) :
    ArgumentsOutside 0 (parts.map Part.toNode) := by
  obtain ⟨ps, hps, rfl⟩ := scan_eq_ok_iff.mp h
  exact argumentsOutside_gather hps ⟨fun _ => rfl, fun _ => rfl⟩

end Sites

/-! ## Values at the sites -/

section Values

variable {ε σ Code V : Type} {ev : Evaluator (EStateM ε σ) Code V}

/-- A splat of values that stand for closed nodes is closed. -/
theorem quoteClosed_splat {element : V → Element V} {vs : List V}
    (h : ∀ v ∈ vs, QuoteClosed (element v).flatten) :
    QuoteClosed (Element.splat (vs.map element)).flatten := by
  rw [Element.flatten]
  refine QuoteClosed.flattenItems fun e he => ?_
  obtain ⟨v, hv, rfl⟩ := List.mem_map.mp he
  exact h v hv

/-- A run that fills sites outside of all strings with closed values keeps all arguments outside
of the strings, and changes no parity. -/
theorem Fills.argumentsOutside {ps : List (Part Code)} {s s' : σ} {fs : List (Filled V)}
    (h : Fills ev ps s fs s')
    (closed : ∀ f ∈ fs, ∀ v ∈ f.values, QuoteClosed (ev.element v).flatten) {n : Nat}
    (sites : ArgumentsOutside n (ps.map Part.toNode)) :
    ArgumentsOutside n (flattenAll (fs.map (Filled.toElement ev.element))) ∧
      literalQuotes (flattenAll (fs.map (Filled.toElement ev.element))) % 2
        = literalQuotes (ps.map Part.toNode) % 2 := by
  induction h generalizing n with
  | nil s => exact ⟨argumentsOutside_nil n, rfl⟩
  | literal rest ih =>
      have hrest := fun f hf => closed f (List.mem_cons_of_mem _ hf)
      rw [List.map_cons, Part.toNode, argumentsOutside_literal] at sites
      obtain ⟨houtside, hparity⟩ := ih hrest sites
      rw [List.map_cons, Filled.toElement, flattenAll, Element.flatten, List.singleton_append,
        argumentsOutside_literal, literalQuotes_literal, List.map_cons, Part.toNode,
        literalQuotes_literal]
      exact ⟨houtside, by omega⟩
  | value plain evaluates rest ih =>
      have hrest := fun f hf => closed f (List.mem_cons_of_mem _ hf)
      have hvalue := closed _ List.mem_cons_self _ (List.mem_singleton.mpr rfl)
      rw [List.map_cons, Part.toNode, argumentsOutside_argument] at sites
      obtain ⟨houtside, hparity⟩ := ih hrest sites.2
      rw [List.map_cons, Filled.toElement, flattenAll, hvalue.literalQuotes_append_mod,
        List.map_cons, Part.toNode, literalQuotes_argument]
      exact ⟨hvalue.argumentsOutside_append sites.1 houtside, hparity⟩
  | splat splat evaluates collects rest ih =>
      have hrest := fun f hf => closed f (List.mem_cons_of_mem _ hf)
      have hitems := closed _ List.mem_cons_self
      rw [Filled.values_splat] at hitems
      have hvalues := quoteClosed_splat hitems
      rw [List.map_cons, Part.toNode, argumentsOutside_argument] at sites
      obtain ⟨houtside, hparity⟩ := ih hrest sites.2
      rw [List.map_cons, Filled.toElement, flattenAll, hvalues.literalQuotes_append_mod,
        List.map_cons, Part.toNode, literalQuotes_argument]
      exact ⟨hvalues.argumentsOutside_append sites.1 houtside, hparity⟩

end Values

/-- A template whose literal text has an even number of quotes is bound to a closed query if the
values at its sites are closed. -/
theorem quoteClosed_bindTemplate {t : ExprTemplate}
    (sites : ArgumentsOutside 0 (t.parts.map Part.toNode))
    (even : literalQuotes (t.parts.map Part.toNode) % 2 = 0) {layers : List Names}
    {s s' : Store} {fs : List (Filled Val)} (run : Binds t layers s fs s')
    (closed : ∀ f ∈ fs, ∀ v ∈ f.values, QuoteClosed (elementOf v).flatten) {q : Sql Val}
    (bound : bindTemplate t layers s = .ok q s') : QuoteClosed q.args := by
  obtain ⟨gs, hgs, rfl⟩ := bindTemplate_eq_ok_iff.mp bound
  obtain ⟨rfl, -⟩ := run.unique hgs
  obtain ⟨houtside, hparity⟩ := run.argumentsOutside closed sites
  exact quoteClosed_iff.mpr ⟨hparity.trans even, houtside⟩

/-! ## Queries that are put together -/

mutual

/-- A value that may stand at a site: a value that is bound, or a piece of a query whose quotes
are closed. -/
inductive Placeable : Val → Prop where
  | plain {v : Val} (bound : isNode v = false) : Placeable v
  | argument (v : Val) : Placeable (.argument v)
  | literal {s : String} (even : quotes s % 2 = 0) : Placeable (.literal s)
  | sql {q : Sql Val} (assembled : Assembled q) : Placeable (ofSql q)
  | splat {vs : List Val} (items : ∀ v ∈ vs, Placeable v) : Placeable (.splat vs)

/-- A query that is put together from closed ones: by binding a template whose literal text has
an even number of quotes, from a list of values, or by joining two queries. -/
inductive Assembled : Sql Val → Prop where
  | closed {q : Sql Val} (closed : QuoteClosed q.args) : Assembled q
  | template {room : Room} {settings : Settings} {text : String} {t : ExprTemplate}
      {s₀ s₀' : Store} (accepted : templateOf room settings text s₀ = .ok t s₀')
      (even : literalQuotes (t.parts.map Part.toNode) % 2 = 0)
      {layers : List Names} {s s' : Store} {fs : List (Filled Val)}
      (run : Binds t layers s fs s') (values : ∀ f ∈ fs, ∀ v ∈ f.values, Placeable v)
      {q : Sql Val} (bound : bindTemplate t layers s = .ok q s') : Assembled q
  | construct {vs : List Val} (values : ∀ v ∈ vs, Placeable v) : Assembled (sqlOf vs)
  | join {q r : Sql Val} (left : Assembled q) (right : Assembled r) : Assembled (q.join r)

end

mutual

/-- A value that may stand at a site stands for closed nodes. -/
theorem Placeable.quoteClosed : ∀ {v : Val}, Placeable v → QuoteClosed (elementOf v).flatten
  | v, .plain bound => by
      rw [Value.elementOf_of_isNode_eq_false bound, Element.flatten]
      exact .argument v
  | _, .argument v => by
      rw [elementOf, Element.flatten]
      exact .argument v
  | _, .literal even => by
      rw [elementOf, Element.flatten]
      exact .literal even
  | _, .sql assembled => by
      rw [ofSql, elementOf, Element.flatten, flattenAll_toElement]
      exact Assembled.quoteClosed assembled
  | _, .splat items => by
      have hitems := fun v hv => Placeable.quoteClosed (items v hv)
      rw [elementOf]
      exact quoteClosed_splat hitems

/-- A query that is put together from closed ones is closed. -/
theorem Assembled.quoteClosed : ∀ {q : Sql Val}, Assembled q → QuoteClosed q.args
  | _, .closed closed => closed
  | _, .template accepted even run values bound => by
      have hvalues := fun f hf v hv => Placeable.quoteClosed (values f hf v hv)
      obtain ⟨hscan, -⟩ := templateOf_eq_ok_iff.mp accepted
      exact quoteClosed_bindTemplate (argumentsOutside_of_scan hscan) even run hvalues bound
  | _, .construct values => by
      refine QuoteClosed.flattenAll fun e he => ?_
      obtain ⟨v, hv, rfl⟩ := List.mem_map.mp he
      exact Placeable.quoteClosed (values v hv)
  | _, .join left right => (Assembled.quoteClosed left).join (Assembled.quoteClosed right)

end

/-- No parameter of a query that is put together from closed ones stands inside an SQL string: the
query is closed itself, and however it is written out without adding quotes or taking any away, an
even number of quotes stands in front of the placeholder of each argument. -/
theorem placeholders_outside_strings {q : Sql Val} (h : Assembled q) :
    QuoteClosed q.args ∧
      ∀ c : Compiler, c.QuoteNeutral → ∀ (before : List (Node Val)) (v : Val)
        (after : List (Node Val)), q.args = before ++ .argument v :: after →
          (c.compile q).sql = String.join (c.texts 1 before)
            ++ c.placeholder ((before.filterMap Node.value?).length + 1 : Nat)
            ++ String.join (c.texts ((before.filterMap Node.value?).length + 2) after) ∧
          quotes (String.join (c.texts 1 before)) % 2 = 0 := by
  refine ⟨h.quoteClosed, fun c neutral before v after heq => ⟨c.compile_sql_of_append heq, ?_⟩⟩
  rw [neutral.quotes_join_texts before Nat.one_pos]
  exact h.quoteClosed.arguments before v after heq

/-- A query with a string and a parameter, as a value. -/
def equation : Val := .sql [.literal "'a' = ", .argument (.int 1)]

theorem placeable_equation : Placeable equation := by
  have hclosed : QuoteClosed [Node.literal "'a' = ", .argument (Val.int 1)] :=
    (QuoteClosed.literal (by decide)).append (.argument _)
  exact .sql (.closed hclosed)

/-- Of the values of a row, the query brings its string along, and the text with a quote is
bound. -/
theorem placeholders_outside_strings_row :
    ∃ q, bindTemplate rowTemplate [rowNames equation (.str "'")] {}
        = .ok q (bindingStore [rowNames equation (.str "'")] {}) ∧
      QuoteClosed (q.join q).args ∧
      ∀ before v after, (q.join q).args = before ++ .argument v :: after →
        quotes (String.join (({} : Compiler).texts 1 before)) % 2 = 0 := by
  have hrun := binds_row equation (.str "'")
  have hbound := bindTemplate_eq_ok_iff.mpr ⟨_, hrun, rfl⟩
  have htext : Placeable (.str "'") := .plain rfl
  have hvalues : ∀ f ∈ [Filled.value equation, .literal ", ", .splat [equation, .str "'"]],
      ∀ v ∈ f.values, Placeable v := by
    simp [placeable_equation, htext]
  have hassembled : Assembled _ := .template templateOf_row (by decide) hrun hvalues hbound
  have hneutral : ({} : Compiler).QuoteNeutral :=
    Compiler.quoteNeutral_of_mem_styles List.mem_cons_self
  obtain ⟨hclosed, hcompiled⟩ := placeholders_outside_strings (hassembled.join hassembled)
  exact ⟨_, hbound, hclosed, fun before v after heq =>
    (hcompiled _ hneutral before v after heq).2⟩

end BoundSql.Template
