import BoundSql.Proofs.Composition
import BoundSql.Proofs.Independence
import BoundSql.Proofs.Meanings
import BoundSql.Proofs.Rooms
set_option autoImplicit false

/-!
# Fragments in the place of their text

A query can be put into another one in two ways: as the value of a name in its template, or by
putting its template text there.  Both are written out the same, if the text ends outside of strings
and the expressions have no side effects.

The two ways run differently.  A fragment is bound before the query around it, with names of its
own, and its value is a query that is flattened into the row; text that is put in is scanned along
with the text around it, and its sites are evaluated between the others.  They are brought together
in two steps.  A row of filled sites comes to the same nodes as the rows of its fragments put one
behind the other (`fillIn_fragment`, `fillIn_alike`), and sites that are repeatable come to the same
values in both orders (`exists_alike_bindings`).

Values that are made on the way are not the same in both runs, only alike, since they live at other
addresses.  `NodeAlike` is what is kept of them, and compiling does not see the difference.
-/

namespace BoundSql.Query

variable {V W : Type} {R : V → W → Prop}

/-- Rows of alike nodes are written out as the same text, with alike parameters. -/
theorem compile_alike (c : Compiler) {ns : List (Node V)} {ms : List (Node W)}
    (h : List.Forall₂ (NodeAlike R) ns ms) :
    (c.compile ⟨ns⟩).sql = (c.compile ⟨ms⟩).sql ∧
      List.Forall₂ R (c.compile ⟨ns⟩).params (c.compile ⟨ms⟩).params := by
  constructor
  · refine c.sql_eq_of_fragments_eq ?_
    show ns.map Node.fragment? = ms.map Node.fragment?
    induction h with
    | nil => rfl
    | cons first others ih =>
        rw [List.map_cons, List.map_cons, ih]
        cases first <;> rfl
  · show List.Forall₂ R (ns.filterMap Node.value?) (ms.filterMap Node.value?)
    induction h with
    | nil => exact .nil
    | cons first others ih =>
        cases first with
        | literal s => exact ih
        | argument h => exact .cons h ih

/-- Alike rows in the places of the same arguments make alike rows. -/
theorem fillIn_alike {α : Type} (ns : List (Node α)) {rows : List (List (Node V))}
    {rows' : List (List (Node W))}
    (h : List.Forall₂ (List.Forall₂ (NodeAlike R)) rows rows') :
    List.Forall₂ (NodeAlike R) (fillIn ns rows) (fillIn ns rows') := by
  induction ns generalizing rows rows' with
  | nil => exact .nil
  | cons n ns ih =>
      cases n with
      | literal s => exact .cons (.literal s) (ih h)
      | argument v =>
          cases h with
          | nil => exact .nil
          | cons first others => exact List.rel_append first (ih others)

end BoundSql.Query

namespace BoundSql.Template

open BoundSql.Query
open BoundSql.Value (Eval Frame Store Val)

/-! ## Templates and their sites -/

section Sites

variable {Code : Type}

/-- The sites among the parts of a template. -/
def sites (parts : List (Part Code)) : List (Site Code) :=
  (parts.map Part.toNode).filterMap Node.value?

theorem sites_literal_cons (text : String) (ps : List (Part Code)) :
    sites (.literal text :: ps) = sites ps := rfl

theorem sites_site_cons (site : Site Code) (ps : List (Part Code)) :
    sites (.site site :: ps) = site :: sites ps := rfl

theorem sites_append (ps qs : List (Part Code)) : sites (ps ++ qs) = sites ps ++ sites qs := by
  rw [sites, List.map_append, List.filterMap_append, ← sites, ← sites]

theorem site_mem_of_mem_sites {site : Site Code} {ps : List (Part Code)} (h : site ∈ sites ps) :
    .site site ∈ ps := by
  obtain ⟨n, hn, hsite⟩ := List.mem_filterMap.mp h
  obtain ⟨p, hp, rfl⟩ := List.mem_map.mp hn
  cases p with
  | literal text => cases hsite
  | site x =>
      obtain rfl := Option.some.inj hsite
      exact hp

/-- A run over the sites of parts is a run over the parts, whose nodes are the literal text of the
parts with those of the sites in their places. -/
theorem exists_fills_of_sites {ε σ V : Type} {ev : Evaluator (EStateM ε σ) Code V}
    {ps : List (Part Code)} {s u : σ} {fs : List (Filled V)}
    (h : Fills ev ((sites ps).map .site) s fs u) :
    ∃ gs, Fills ev ps s gs u ∧
      flattenAll (gs.map (Filled.toElement ev.element))
        = fillIn (ps.map Part.toNode) (fs.map fun f => (f.toElement ev.element).flatten) := by
  induction ps generalizing s fs with
  | nil =>
      cases h
      exact ⟨[], .nil _, rfl⟩
  | cons p ps ih =>
      cases p with
      | literal text =>
          obtain ⟨gs, hrun, hnodes⟩ := ih h
          refine ⟨.literal text :: gs, .literal hrun, ?_⟩
          rw [List.map_cons, flattenAll, hnodes]
          rfl
      | site site =>
          rw [sites_site_cons, List.map_cons] at h
          obtain ⟨f, fs', t, rfl, hfirst, hrest⟩ := fills_cons_iff.mp h
          obtain ⟨gs, hrun, hnodes⟩ := ih hrest
          refine ⟨f :: gs, fills_cons_iff.mpr ⟨f, gs, t, rfl, hfirst, hrun⟩, ?_⟩
          rw [List.map_cons, flattenAll, hnodes]
          rfl

end Sites

/-- A template is bound to the query of a run over its sites. -/
theorem bindTemplate_of_sites {t : ExprTemplate} {layers : List Names} {s u : Store}
    {fs : List (Filled Val)}
    (h : Fills (evaluator { frames := [], globals := s.objects.size }) ((sites t.parts).map .site)
      (bindingStore layers s) fs u) :
    bindTemplate t layers s = .ok ⟨fillIn (t.parts.map Part.toNode) (fs.map Filled.row)⟩ u := by
  obtain ⟨gs, hrun, hnodes⟩ := exists_fills_of_sites h
  refine bindTemplate_eq_ok_iff.mpr ⟨gs, hrun, ?_⟩
  exact congrArg Sql.mk hnodes.symm

/-! ## Three texts one behind the other -/

/-- The parts of three texts with blanks between them. -/
def threeParts {Code : Type} (xs ys zs : List (Part Code)) : List (Part Code) :=
  xs ++ .literal " " :: (ys ++ .literal " " :: zs)

/-- The nodes of three queries with blanks between them. -/
def threeRows {V : Type} (ns ms ks : List (Node V)) : List (Node V) :=
  ns ++ .literal " " :: (ms ++ .literal " " :: ks)

theorem sites_threeParts {Code : Type} (xs ys zs : List (Part Code)) :
    sites (threeParts xs ys zs) = sites xs ++ (sites ys ++ sites zs) := by
  rw [threeParts, sites_append, sites_literal_cons, sites_append, sites_literal_cons]

/-- A template whose parts are those of three texts, up to joining literals, is bound by runs over
the sites of one text after the other, and its nodes are those of the three, up to joining
literals. -/
theorem exists_bindTemplate_of_three_runs {t : ExprTemplate} {xs ys zs : List (Part Expr.Tree)}
    (joined : joinLiterals (t.parts.map Part.toNode)
      = joinLiterals ((threeParts xs ys zs).map Part.toNode))
    {layers : List Names} {s s₁ s₂ s₃ : Store} {fs gs ks : List (Filled Val)}
    (first : Fills (evaluator { frames := [], globals := s.objects.size }) ((sites xs).map .site)
      (bindingStore layers s) fs s₁)
    (second : Fills (evaluator { frames := [], globals := s.objects.size }) ((sites ys).map .site)
      s₁ gs s₂)
    (third : Fills (evaluator { frames := [], globals := s.objects.size }) ((sites zs).map .site)
      s₂ ks s₃) :
    ∃ q : Sql Val, bindTemplate t layers s = .ok q s₃ ∧
      joinLiterals q.args = joinLiterals (threeRows
        (fillIn (xs.map Part.toNode) (fs.map Filled.row))
        (fillIn (ys.map Part.toNode) (gs.map Filled.row))
        (fillIn (zs.map Part.toNode) (ks.map Filled.row))) := by
  have hsites : sites t.parts = sites xs ++ (sites ys ++ sites zs) := by
    rw [← sites_threeParts]
    exact values_eq_of_joinLiterals_eq joined
  have hrun : Fills (evaluator { frames := [], globals := s.objects.size })
      ((sites t.parts).map .site) (bindingStore layers s) (fs ++ (gs ++ ks)) s₃ := by
    rw [hsites, List.map_append, List.map_append]
    exact first.append (second.append third)
  have hlength : ∀ {ws : List (Part Expr.Tree)} {us : List (Filled Val)} {a b : Store},
      Fills (evaluator { frames := [], globals := s.objects.size }) ((sites ws).map .site) a us b →
        (us.map Filled.row).length = ((ws.map Part.toNode).filterMap Node.value?).length := by
    intro ws us a b h
    rw [List.length_map, h.length_eq, List.length_map, sites]
  refine ⟨_, bindTemplate_of_sites hrun, ?_⟩
  rw [joinLiterals_fillIn_eq joined, threeParts, threeRows, List.map_append, List.map_append,
    fillIn_append _ _ (hlength first), List.map_cons, Part.toNode, fillIn, List.map_append,
    List.map_append, fillIn_append _ _ (hlength second), List.map_cons, Part.toNode, fillIn]

section Texts

variable {room : Room}

/-- Making a template has nothing to do with the state. -/
theorem templateOf_of_eq_ok {settings : Settings} {text : String} {t : ExprTemplate} {s s' : Store}
    (h : templateOf room settings text s = .ok t s') (u : Store) :
    templateOf room settings text u = .ok t u := by
  obtain ⟨hscan, htext, -⟩ := templateOf_eq_ok_iff.mp h
  exact templateOf_eq_ok_iff.mpr ⟨hscan, htext, rfl⟩

/-- Two templates one behind the other with a blank between them are a template, if the first one
ends outside of strings. -/
theorem exists_templateOf_append_blank {text other : String} {t t' : ExprTemplate}
    (made : ∀ s : Store, templateOf room {} text s = .ok t s)
    (madeOther : ∀ s : Store, templateOf room {} other s = .ok t' s)
    (even : literalQuotes (t.parts.map Part.toNode) % 2 = 0) :
    ∃ w : ExprTemplate, (∀ s : Store, templateOf room {} (text ++ " " ++ other) s = .ok w s) ∧
      joinLiterals (w.parts.map Part.toNode)
        = joinLiterals ((t.parts ++ .literal " " :: t'.parts).map Part.toNode) := by
  obtain ⟨hscan, -⟩ := templateOf_eq_ok_iff.mp (made {})
  obtain ⟨hscan', -⟩ := templateOf_eq_ok_iff.mp (madeOther {})
  obtain ⟨whole, hwhole, hjoined⟩ :=
    exists_scan_append_blank (by decide) (by decide) hscan even hscan'
  exact ⟨⟨text ++ " " ++ other, whole⟩,
    fun s => templateOf_eq_ok_iff.mpr ⟨hwhole, rfl, rfl⟩, hjoined⟩

/-- Three templates one behind the other with blanks between them are a template, if the first two
end outside of strings. -/
theorem exists_templateOf_three {x y z : String} {tx ty tz : ExprTemplate}
    (madeX : ∀ s : Store, templateOf room {} x s = .ok tx s)
    (madeY : ∀ s : Store, templateOf room {} y s = .ok ty s)
    (madeZ : ∀ s : Store, templateOf room {} z s = .ok tz s)
    (evenX : literalQuotes (tx.parts.map Part.toNode) % 2 = 0)
    (evenY : literalQuotes (ty.parts.map Part.toNode) % 2 = 0) :
    ∃ w : ExprTemplate,
      (∀ s : Store, templateOf room {} (x ++ " " ++ (y ++ " " ++ z)) s = .ok w s) ∧
        joinLiterals (w.parts.map Part.toNode)
          = joinLiterals ((threeParts tx.parts ty.parts tz.parts).map Part.toNode) := by
  obtain ⟨v, madeV, hv⟩ := exists_templateOf_append_blank madeY madeZ evenY
  obtain ⟨w, madeW, hw⟩ := exists_templateOf_append_blank madeX madeV evenX
  refine ⟨w, madeW, ?_⟩
  have hblank : joinLiterals ((.literal " " :: v.parts).map Part.toNode)
      = joinLiterals ((.literal " " :: (ty.parts ++ .literal " " :: tz.parts)).map Part.toNode) :=
    congrArg (withText " ") hv
  rw [hw, threeParts, List.map_append, List.map_append]
  exact joinLiterals_append_of_eq _ hblank

end Texts

/-! ## The name of the fragment -/

/-- The site of the text `$frag`. -/
def fragmentSite : Site Expr.Tree := ⟨"frag", false, .name "frag"⟩

/-- The template of the text `$frag`. -/
def fragmentTemplate : ExprTemplate := ⟨"$frag", [.site fragmentSite]⟩

set_option maxRecDepth 2000 in
/-- There is always room for the name of the fragment. -/
theorem templateOf_fragment (room : Room) (s : Store) :
    templateOf room {} "$frag" s = .ok fragmentTemplate s := by
  have hfits : room.exhausts "frag".toList = none := room.name _ (by decide +kernel)
  have hcode : Expr.compile "frag".toList = some (.name "frag") := by cbv
  have hafter : afterAccesses (afterName ("rag".toList ++ [])) = .ok [] := by cbv
  have hread : Site.read room.compile ('f' :: ("rag".toList ++ [])) = .ok (fragmentSite, []) := by
    have hstart : isNameStart 'f' = true := by decide +kernel
    rw [Site.read_named (by decide) hstart hafter, map_fst_eq_ok_iff,
      Site.make_room_eq_ok_iff (List.cons_ne_nil _ _)]
    exact ⟨⟨hfits, _, hcode, rfl⟩, rfl⟩
  have hcuts : Cuts {} room.compile false "$frag".toList [.site fragmentSite "frag".toList] :=
    @Cuts.site _ _ _ _ "frag".toList [] _ hread (.nil _)
  exact templateOf_eq_ok_iff.mpr ⟨scan_eq_ok_iff.mpr ⟨_, hcuts, rfl⟩, rfl, rfl⟩

/-- A state has the frame of the layers of names of a binding at the address that the binding
uses. -/
theorem frame_bindingStore (layers : List Names) (s : Store) :
    (bindingStore layers s).objects[s.objects.size]? = some (.frame (sharedFrame layers)) :=
  Array.getElem?_push_size

theorem sees_bindingStore {base s : Store} {names : Names} {layers : List Names}
    (extended : base.Extends s)
    (hlayers : layers = [names] ∨ ∃ v, layers = [names, [("frag", v)]]) :
    Sees base names (bindingStore layers s) s.objects.size :=
  ⟨extended.trans (.push s _), layers, hlayers, frame_bindingStore layers s⟩

/-- A query as a value brings its nodes into another query. -/
theorem row_ofSql (q : Sql Val) : (Filled.value (Value.ofSql q)).row = q.args := by
  rw [Filled.row, Filled.toElement, Value.ofSql, Value.elementOf, Element.flatten,
    flattenAll_toElement]

/-- The name of the fragment has the value that the binding gives it. -/
theorem fills_fragment {names : Names} {v : Val} {s : Store} {globals : Nat}
    (hframe : s.objects[globals]? = some (.frame (sharedFrame [names, [("frag", v)]]))) :
    Fills (evaluator { frames := [], globals })
      ((sites [.site fragmentSite]).map .site) s [.value v] s := by
  refine fillsSite_name hframe (by decide) ?_
  rw [values_sharedFrame_fragment]
  exact Eval.withBinding_lookup "frag" v _

/-! ## Inlining -/

/-- Alike rows make alike rows when they are put one behind the other. -/
theorem threeRows_alike {V W : Type} {R : V → W → Prop} {ns ms ks : List (Node V)}
    {ns' ms' ks' : List (Node W)} (hn : List.Forall₂ (NodeAlike R) ns ns')
    (hm : List.Forall₂ (NodeAlike R) ms ms') (hk : List.Forall₂ (NodeAlike R) ks ks') :
    List.Forall₂ (NodeAlike R) (threeRows ns ms ks) (threeRows ns' ms' ks') :=
  List.rel_append hn (.cons (.literal " ") (List.rel_append hm (.cons (.literal " ") hk)))

/-- The nodes of the text `$frag` are those of the fragment. -/
theorem fillIn_fragment (fragment : Sql Val) :
    fillIn (([.site fragmentSite] : List (Part Expr.Tree)).map Part.toNode)
      ([Filled.value (Value.ofSql fragment)].map Filled.row) = fragment.args := by
  rw [List.map_singleton, List.map_singleton, Part.toNode, fillIn, fillIn, List.append_nil,
    row_ofSql]

/-- Rows of sites that are alike make alike rows of a text, also when more objects are made. -/
theorem fillIn_alike_of_extends {likeness : Likeness} {s u s' u' : Store}
    {fs fs' : List (Filled Val)}
    (h : List.Forall₂ (likeness.Rows s s') (fs.map Filled.row) (fs'.map Filled.row))
    (hs : s.Extends u) (hs' : s'.Extends u') (ps : List (Part Expr.Tree)) :
    likeness.Rows u u' (fillIn (ps.map Part.toNode) (fs.map Filled.row))
      (fillIn (ps.map Part.toNode) (fs'.map Filled.row)) :=
  fillIn_alike (ps.map Part.toNode) (h.imp fun _ _ hrows => hrows.lasting hs hs')

/-- Where the sites of three texts are repeatable, the first and the third one with the second one
as a fragment between them, and all three one behind the other, are bound to alike queries, up to
joining literals. -/
theorem exists_alike_bindings {likeness : Likeness} {base : Store} {names : Names}
    {ta tt tb outer inlined : ExprTemplate}
    (joinedOuter : joinLiterals (outer.parts.map Part.toNode)
      = joinLiterals ((threeParts ta.parts [.site fragmentSite] tb.parts).map Part.toNode))
    (joinedInlined : joinLiterals (inlined.parts.map Part.toNode)
      = joinLiterals ((threeParts ta.parts tt.parts tb.parts).map Part.toNode))
    (repeatableA : ∀ x ∈ sites ta.parts, Repeatable likeness base names x)
    (repeatableT : ∀ x ∈ sites tt.parts, Repeatable likeness base names x)
    (repeatableB : ∀ x ∈ sites tb.parts, Repeatable likeness base names x)
    {s s' : Store} (hs : base.Extends s) (hs' : base.Extends s') :
    ∃ (fragment q r : Sql Val) (s₁ s₂ s₃ : Store) (ns ms : List (Node Val)),
      bindTemplate tt [names] s = .ok fragment s₁ ∧
      bindTemplate outer [names, [("frag", Value.ofSql fragment)]] s₁ = .ok q s₂ ∧
      bindTemplate inlined [names] s' = .ok r s₃ ∧
      joinLiterals q.args = joinLiterals ns ∧ joinLiterals r.args = joinLiterals ms ∧
      likeness.Rows s₂ s₃ ns ms := by
  -- the fragment, and the template that its name stands in
  have seesT : Sees base names (bindingStore [names] s) s.objects.size :=
    sees_bindingStore hs (.inl rfl)
  obtain ⟨fsT, s₁, runT, extT⟩ := exists_fills_of_repeatable repeatableT seesT
  have bindT := bindTemplate_of_sites runT
  generalize hfragment : (⟨fillIn (tt.parts.map Part.toNode) (fsT.map Filled.row)⟩ : Sql Val)
    = fragment at bindT
  have seesO : Sees base names (bindingStore [names, [("frag", Value.ofSql fragment)]] s₁)
      s₁.objects.size := sees_bindingStore (seesT.goesOn.trans extT) (.inr ⟨_, rfl⟩)
  obtain ⟨fsA, o₁, runA, extA⟩ := exists_fills_of_repeatable repeatableA seesO
  have runF := fills_fragment (extA.objects _ _ (frame_bindingStore _ s₁))
  obtain ⟨fsB, o₂, runB, extB⟩ := exists_fills_of_repeatable repeatableB (seesO.mono extA)
  obtain ⟨q, bindO, hq⟩ := exists_bindTemplate_of_three_runs joinedOuter runA runF runB
  rw [fillIn_fragment, ← hfragment] at hq
  -- the template with the text of the fragment
  have seesI : Sees base names (bindingStore [names] s') s'.objects.size :=
    sees_bindingStore hs' (.inl rfl)
  obtain ⟨fsA', i₁, runA', extA'⟩ := exists_fills_of_repeatable repeatableA seesI
  obtain ⟨fsT', i₂, runT', extT'⟩ :=
    exists_fills_of_repeatable repeatableT (seesI.mono extA')
  obtain ⟨fsB', i₃, runB', extB'⟩ :=
    exists_fills_of_repeatable repeatableB ((seesI.mono extA').mono extT')
  obtain ⟨r, bindI, hr⟩ := exists_bindTemplate_of_three_runs joinedInlined runA' runT' runB'
  -- site by site, both have alike nodes
  have rowsA := rows_of_repeatable repeatableA seesO seesI runA runA'
  have rowsT := rows_of_repeatable repeatableT seesT (seesI.mono extA') runT runT'
  have rowsB := rows_of_repeatable repeatableB (seesO.mono extA)
    ((seesI.mono extA').mono extT') runB runB'
  have extTO : s₁.Extends o₂ := (Store.Extends.push s₁ _).trans (extA.trans extB)
  exact ⟨fragment, q, r, s₁, o₂, i₃, _, _, bindT, bindO, bindI, hq, hr, threeRows_alike
    (fillIn_alike_of_extends rowsA extB (extT'.trans extB') ta.parts)
    (fillIn_alike_of_extends rowsT extTO extB' tt.parts)
    (fillIn_alike_of_extends rowsB (.refl o₂) (.refl i₃) tb.parts)⟩

/-- Interpolating a fragment is inlining its text.  For texts that are templates, of which the first
two have an even number of quotes in their literal text, and a namespace over which all their sites
are repeatable, the template with the name `frag` between the outer texts and the one with the text
of the fragment in its place exist.  Bound to the namespace, the first one with the bound fragment
as `frag`, both succeed, and are written out as the same text with alike parameters in the same
order; they are the same parameters if the sites come to the same values each time. -/
theorem interpolated_eq_inlined {room : Room} {likeness : Likeness} {base : Store} {names : Names}
    {a t b : String} {ta tt tb : ExprTemplate}
    (madeA : templateOf room {} a base = .ok ta base)
    (madeT : templateOf room {} t base = .ok tt base)
    (madeB : templateOf room {} b base = .ok tb base)
    (evenA : literalQuotes (ta.parts.map Part.toNode) % 2 = 0)
    (evenT : literalQuotes (tt.parts.map Part.toNode) % 2 = 0)
    (repeatable : ∀ site : Site Expr.Tree, .site site ∈ ta.parts ++ tt.parts ++ tb.parts →
      Repeatable likeness base names site) :
    ∃ outer inlined : ExprTemplate,
      (∀ s, templateOf room {} (a ++ " $frag " ++ b) s = .ok outer s) ∧
      (∀ s, templateOf room {} (a ++ " " ++ t ++ " " ++ b) s = .ok inlined s) ∧
      ∀ s s' : Store, base.Extends s → base.Extends s' →
        ∃ (fragment q r : Sql Val) (s₁ s₂ s₃ : Store),
          bindTemplate tt [names] s = .ok fragment s₁ ∧
          bindTemplate outer [names, [("frag", Value.ofSql fragment)]] s₁ = .ok q s₂ ∧
          bindTemplate inlined [names] s' = .ok r s₃ ∧
          ∀ p : Placeholder,
            (Compiler.compile ⟨p, none⟩ q).sql = (Compiler.compile ⟨p, none⟩ r).sql ∧
              List.Forall₂ (likeness.alike s₂ · s₃ ·) (Compiler.compile ⟨p, none⟩ q).params
                (Compiler.compile ⟨p, none⟩ r).params := by
  obtain ⟨outer, madeOuter, joinedOuter⟩ := exists_templateOf_three
    (templateOf_of_eq_ok madeA) (templateOf_fragment room) (templateOf_of_eq_ok madeB) evenA rfl
  obtain ⟨inlined, madeInlined, joinedInlined⟩ := exists_templateOf_three
    (templateOf_of_eq_ok madeA) (templateOf_of_eq_ok madeT) (templateOf_of_eq_ok madeB) evenA evenT
  have houter : a ++ " $frag " ++ b = a ++ " " ++ ("$frag" ++ " " ++ b) := by
    have hblanks : " $frag " = " " ++ ("$frag" ++ " ") := rfl
    simp only [hblanks, String.append_assoc]
  have hinlined : a ++ " " ++ t ++ " " ++ b = a ++ " " ++ (t ++ " " ++ b) := by
    simp only [String.append_assoc]
  have hsites : ∀ {ps : List (Part Expr.Tree)}, ps ⊆ ta.parts ++ tt.parts ++ tb.parts →
      ∀ x ∈ sites ps, Repeatable likeness base names x :=
    fun hps x hx => repeatable x (hps (site_mem_of_mem_sites hx))
  refine ⟨outer, inlined, houter ▸ madeOuter, hinlined ▸ madeInlined, fun s s' hs hs' => ?_⟩
  have hA : ta.parts ⊆ ta.parts ++ tt.parts ++ tb.parts := by simp
  have hT : tt.parts ⊆ ta.parts ++ tt.parts ++ tb.parts := by simp
  have hB : tb.parts ⊆ ta.parts ++ tt.parts ++ tb.parts := List.subset_append_right _ _
  obtain ⟨fragment, q, r, s₁, s₂, s₃, ns, ms, bindT, bindO, bindI, hq, hr, halike⟩ :=
    exists_alike_bindings joinedOuter joinedInlined (hsites hA) (hsites hT) (hsites hB) hs hs'
  refine ⟨fragment, q, r, s₁, s₂, s₃, bindT, bindO, bindI, fun p => ?_⟩
  rw [compile_eq_of_joinLiterals_eq p (r := ⟨ns⟩) hq,
    compile_eq_of_joinLiterals_eq p (r := ⟨ms⟩) hr]
  exact compile_alike ⟨p, none⟩ halike

/-- A fragment of a name and a splat, between two texts of that kind. -/
theorem interpolated_eq_inlined_of_rows :
    ∃ (outer inlined : ExprTemplate) (fragment q r : Sql Val) (s₁ s₂ s₃ : Store),
      templateOf .standard {} ("$x, $(*ys)" ++ " $frag " ++ "$x, $(*ys)") {} = .ok outer {} ∧
      templateOf .standard {} ("$x, $(*ys)" ++ " " ++ "$x, $(*ys)" ++ " " ++ "$x, $(*ys)") {}
        = .ok inlined {} ∧
      bindTemplate rowTemplate [rowNames (.int 1) (.int 2)] {} = .ok fragment s₁ ∧
      bindTemplate outer [rowNames (.int 1) (.int 2), [("frag", Value.ofSql fragment)]] s₁
        = .ok q s₂ ∧
      bindTemplate inlined [rowNames (.int 1) (.int 2)] {} = .ok r s₃ ∧
      ∀ p : Placeholder,
        (Compiler.compile ⟨p, none⟩ q).sql = (Compiler.compile ⟨p, none⟩ r).sql ∧
          (Compiler.compile ⟨p, none⟩ q).params = (Compiler.compile ⟨p, none⟩ r).params := by
  have hrepeatable : ∀ site : Site Expr.Tree,
      .site site ∈ rowParts ++ rowParts ++ rowParts →
        Repeatable .same {} (rowNames (.int 1) (.int 2)) site := by
    intro site hsite
    have hrow : .site site ∈ rowParts := by simpa using hsite
    simp only [rowParts, List.mem_cons, Part.site.injEq, reduceCtorEq, List.not_mem_nil, false_or,
      or_false] at hrow
    rcases hrow with rfl | rfl
    · exact Means.repeatable (.name (by decide) (by decide) rfl) "x"
    · exact Means.repeatable_splat (.tuple (.star (.name (by decide) (by decide) rfl) .nil)) "*ys"
  obtain ⟨outer, inlined, madeOuter, madeInlined, hbind⟩ := interpolated_eq_inlined
    templateOf_row templateOf_row templateOf_row (by decide) (by decide) hrepeatable
  obtain ⟨fragment, q, r, s₁, s₂, s₃, bindT, bindO, bindI, hcompile⟩ :=
    hbind {} {} (.refl {}) (.refl {})
  refine ⟨outer, inlined, fragment, q, r, s₁, s₂, s₃, madeOuter {}, madeInlined {}, bindT, bindO,
    bindI, fun p => ⟨(hcompile p).1, ?_⟩⟩
  have hparams := (hcompile p).2
  exact List.forall₂_eq_eq_eq ▸ hparams

end BoundSql.Template
