import BoundSql.Proofs.Inlining
import BoundSql.Proofs.Itemising
set_option autoImplicit false

/-!
# Names that one binding hands on

The sites of a template are evaluated one behind the other, and what one of them writes the next one
finds.  The names that are found first come from several mappings; those that a site writes go to a
frame of the binding, which no mapping of the caller and no other binding ever sees.

An evaluator that takes notes tells which sites were evaluated, and in which order: all of them from
left to right, or those up to the first one that fails (`bind_cases`, `threads`).

That a binding keeps to its own names is shown for every evaluator that knows nothing but names.
Such a one is let loose on a store through the one frame that it was given (`onFrame`), and then
several bindings, one after the other, come to what each of them would come to alone
(`bindAll_onFrame`); the frames of the others, and whatever else is in the store, stay as they are
(`objects_withFrames`).  Making a template of a text and binding it is binding in this sense
(`bindTemplate_eq_bindParts`), so that the statement is about what a caller does.
-/

namespace BoundSql.Template

open BoundSql.Expr (Tree)
open BoundSql.Query (Element Sql)
open BoundSql.Value (Eval Fault Frame Store Val)

/-! ## Computations seen through their states -/

section States

variable {ε σ τ Code V α β : Type}

/-- The outcome of a computation, with its last state seen through a function. -/
def throughState (φ : σ → τ) : EStateM.Result ε σ α → EStateM.Result ε τ α
  | .ok a s => .ok a (φ s)
  | .error e s => .error e (φ s)

/-- Two computations that match take their steps in a state and in what a function makes of it. -/
def Matches (φ : σ → τ) (x : EStateM ε σ α) (y : EStateM ε τ α) : Prop :=
  ∀ s, y (φ s) = throughState φ (x s)

namespace Matches

variable {φ : σ → τ}

theorem pure (a : α) : Matches φ (Pure.pure a : EStateM ε σ α) (Pure.pure a) := fun _ => rfl

theorem bind {x : EStateM ε σ α} {y : EStateM ε τ α} {f : α → EStateM ε σ β}
    {g : α → EStateM ε τ β} (first : Matches φ x y) (next : ∀ a, Matches φ (f a) (g a)) :
    Matches φ (x >>= f) (y >>= g) := by
  intro s
  have hfirst := first s
  cases hx : x s with
  | ok a t =>
      rw [hx] at hfirst
      rw [bind_of_ok hx, bind_of_ok hfirst]
      exact next a t
  | error e t =>
      rw [hx] at hfirst
      rw [bind_of_error hx, bind_of_error hfirst]
      rfl

end Matches

/-- Evaluators that match site by site match for whole templates. -/
theorem Evaluator.bind_matches (φ : σ → τ) (ev : Evaluator (EStateM ε σ) Code V)
    (ev' : Evaluator (EStateM ε τ) Code V) (value : ∀ c, Matches φ (ev.value c) (ev'.value c))
    (elements : ∀ v, Matches φ (ev.elements v) (ev'.elements v))
    (element : ev'.element = ev.element) (ps : List (Part Code)) :
    Matches φ (ev.bind ps) (ev'.bind ps) := by
  have hpart : ∀ p, Matches φ (ev.part p) (ev'.part p) := by
    intro p
    cases p with
    | literal text => exact .pure _
    | site site =>
        refine .bind (value site.code) fun v => ?_
        rw [element]
        split
        · exact .bind (elements v) fun vs => .pure _
        · exact .pure _
  have hparts : Matches φ (ev.parts ps) (ev'.parts ps) := by
    induction ps with
    | nil => exact .pure _
    | cons p ps ih => exact .bind (hpart p) fun e => .bind ih fun es => .pure _
  exact .bind hparts fun es => .pure _

end States

/-! ## Left to right -/

namespace Evaluator

variable {ε σ Code V α : Type}

/-- Binding a row of parts is binding its front, and then its rest in what the front left. -/
theorem bind_append (ev : Evaluator (EStateM ε σ) Code V) (ps qs : List (Part Code)) :
    ev.bind (ps ++ qs) = (do
      let q ← ev.bind ps
      let r ← ev.bind qs
      pure ⟨q.args ++ r.args⟩) := by
  have hargs : ∀ es fs : List (Element V),
      Sql.ofElements (es ++ fs) = ⟨(Sql.ofElements es).args ++ (Sql.ofElements fs).args⟩ :=
    fun es fs => congrArg Sql.mk (Query.flattenAll_append es fs)
  simp only [Evaluator.bind, parts_append, bind_assoc, pure_bind, hargs]

/-- A computation that has a notebook beside its state, and writes nothing into it. -/
def besideNotes {ν : Type} (x : EStateM ε σ α) : EStateM ε (σ × ν) α := fun s =>
  throughState (·, s.2) (x s.1)

/-- The evaluator that notes the code of each site when it is about to evaluate it. -/
def noting (ev : Evaluator (EStateM ε σ) Code V) :
    Evaluator (EStateM ε (σ × List Code)) Code V where
  value c := do
    modify fun s => (s.1, s.2 ++ [c])
    besideNotes (ev.value c)
  elements v := besideNotes (ev.elements v)
  element := ev.element

/-- The codes of the sites among parts, in the order of the text. -/
def codes (ps : List (Part Code)) : List Code := (sites ps).map Site.code

theorem codes_append (ps qs : List (Part Code)) : codes (ps ++ qs) = codes ps ++ codes qs := by
  rw [codes, sites_append, List.map_append, ← codes, ← codes]

/-- A site cannot be evaluated: its expression raises an error, or it is a splat over a value that
has no elements. -/
inductive SiteFails (ev : Evaluator (EStateM ε σ) Code V) (site : Site Code) (s : σ) (e : ε)
    (t : σ) : Prop where
  | expression (raises : ev.value site.code s = .error e t)
  | splat {v : V} {s₁ : σ} (splat : site.splat = true)
      (evaluates : ev.value site.code s = .ok v s₁) (raises : ev.elements v s₁ = .error e t)

variable {ev : Evaluator (EStateM ε σ) Code V}

/-- Only sites fail. -/
theorem part_eq_error_iff {p : Part Code} {s t : σ} {e : ε} :
    ev.part p s = .error e t ↔ ∃ site, p = .site site ∧ ev.SiteFails site s e t := by
  cases p with
  | literal text =>
      constructor
      · intro h
        cases h
      · rintro ⟨site, hsite, -⟩
        cases hsite
  | site site =>
      have hnotes : ev.part (.site site) s = .error e t ↔ ev.SiteFails site s e t := by
        rw [part, bind_eq_error_iff]
        constructor
        · rintro (hvalue | ⟨v, s₁, hvalue, hrest⟩)
          · exact .expression hvalue
          · split at hrest
            next hsplat =>
              rcases bind_eq_error_iff.mp hrest with helements | ⟨vs, s₂, -, hpure⟩
              · exact .splat hsplat hvalue helements
              · cases hpure
            next => cases hrest
        · rintro (hvalue | ⟨hsplat, hvalue, helements⟩)
          · exact .inl hvalue
          · refine .inr ⟨_, _, hvalue, ?_⟩
            rw [if_pos hsplat]
            exact bind_of_error helements _
      rw [hnotes]
      constructor
      · intro h
        exact ⟨site, rfl, h⟩
      · rintro ⟨site', heq, h⟩
        obtain rfl := Part.site.inj heq
        exact h

/-- Parts fail where one of them fails behind others that did not. -/
theorem parts_eq_error_iff {ps : List (Part Code)} {s t : σ} {e : ε} :
    ev.parts ps s = .error e t ↔
      ∃ front p back es s₁, ps = front ++ p :: back ∧ ev.parts front s = .ok es s₁ ∧
        ev.part p s₁ = .error e t := by
  constructor
  · intro h
    induction ps generalizing s with
    | nil => cases h
    | cons p ps ih =>
        rcases bind_eq_error_iff.mp h with hpart | ⟨f, s₁, hpart, hrest⟩
        · exact ⟨[], p, ps, [], s, rfl, rfl, hpart⟩
        · rcases bind_eq_error_iff.mp hrest with hparts | ⟨fs, s₂, -, hpure⟩
          · obtain ⟨front, q, back, es, s₂, rfl, hfront, hq⟩ := ih hparts
            refine ⟨p :: front, q, back, f :: es, s₂, rfl, ?_, hq⟩
            rw [parts, bind_of_ok hpart, bind_of_ok hfront]
            rfl
          · cases hpure
  · rintro ⟨front, p, back, es, s₁, rfl, hfront, hp⟩
    rw [parts_append, bind_of_ok hfront]
    exact bind_of_error (bind_of_error hp _) _

/-- A part is evaluated as before, and its site, if it is one, is noted. -/
theorem part_noting (ev : Evaluator (EStateM ε σ) Code V) (p : Part Code) (s : σ)
    (seen : List Code) :
    ev.noting.part p (s, seen) = throughState (·, seen ++ codes [p]) (ev.part p s) := by
  cases p with
  | literal text =>
      have hcodes : codes [(.literal text : Part Code)] = [] := rfl
      rw [hcodes, List.append_nil]
      rfl
  | site site =>
      have hcodes : codes [.site site] = [site.code] := rfl
      have hvalue : ev.noting.value site.code (s, seen)
          = throughState (·, seen ++ [site.code]) (ev.value site.code s) := rfl
      rw [part, part, hcodes]
      cases hrun : ev.value site.code s with
      | error e t =>
          rw [hrun] at hvalue
          rw [bind_of_error hrun, bind_of_error hvalue]
          rfl
      | ok v t =>
          rw [hrun] at hvalue
          rw [bind_of_ok hrun, bind_of_ok hvalue]
          split
          · have helements : ev.noting.elements v (t, seen ++ [site.code])
                = throughState (·, seen ++ [site.code]) (ev.elements v t) := rfl
            cases hvs : ev.elements v t with
            | error e u =>
                rw [hvs] at helements
                rw [bind_of_error hvs, bind_of_error helements]
                rfl
            | ok vs u =>
                rw [hvs] at helements
                rw [bind_of_ok hvs, bind_of_ok helements]
                rfl
          · rfl

/-- Parts that are evaluated without a failure have each of their sites noted once, in order. -/
theorem parts_noting_of_ok {ps : List (Part Code)} {s t : σ} {es : List (Element V)}
    (h : ev.parts ps s = .ok es t) (seen : List Code) :
    ev.noting.parts ps (s, seen) = .ok es (t, seen ++ codes ps) := by
  induction ps generalizing s es seen with
  | nil =>
      obtain ⟨rfl, rfl⟩ := pure_eq_ok_iff.mp h
      rw [codes, sites, List.map_nil, List.filterMap_nil, List.map_nil, List.append_nil]
      rfl
  | cons p ps ih =>
      obtain ⟨f, s₁, hpart, hrest⟩ := bind_eq_ok_iff.mp h
      obtain ⟨fs, s₂, hparts, hpure⟩ := bind_eq_ok_iff.mp hrest
      obtain ⟨rfl, rfl⟩ := pure_eq_ok_iff.mp hpure
      have hnoted := part_noting ev p s seen
      rw [hpart] at hnoted
      have hcodes : seen ++ codes (p :: ps) = (seen ++ codes [p]) ++ codes ps := by
        rw [List.append_assoc, ← codes_append, List.singleton_append]
      rw [parts, bind_of_ok hnoted, bind_of_ok (ih hparts (seen ++ codes [p])), hcodes]
      rfl

/-- What binding parts with an evaluator amounts to, site by site. -/
structure Threads (ev : Evaluator (EStateM ε σ) Code V) : Prop where
  /-- a row of parts may be cut anywhere: its rest is bound in the state that its front left
  behind, to the nodes that follow those of the front -/
  append : ∀ ps qs : List (Part Code), ev.bind (ps ++ qs) = (do
    let q ← ev.bind ps
    let r ← ev.bind qs
    pure ⟨q.args ++ r.args⟩)
  /-- taking notes changes nothing but the notes -/
  unnoticed : ∀ (ps : List (Part Code)) (s : σ) (seen : List Code),
    ev.bind ps s = throughState Prod.fst (ev.noting.bind ps (s, seen))
  /-- a query is made when each site was evaluated once, in the order of the text -/
  each_once : ∀ (ps : List (Part Code)) (s t : σ) (seen notes : List Code) (q : Sql V),
    ev.noting.bind ps (s, seen) = .ok q (t, notes) ↔
      ev.bind ps s = .ok q t ∧ notes = seen ++ codes ps
  /-- no query is made when a site fails that all sites in front of it left a state for: its error
  is the error of the whole, and no site behind it is evaluated -/
  first_failure : ∀ (ps : List (Part Code)) (s t : σ) (seen notes : List Code) (e : ε),
    ev.noting.bind ps (s, seen) = .error e (t, notes) ↔
      ∃ front site back q s₁, ps = front ++ .site site :: back ∧ ev.bind front s = .ok q s₁ ∧
        ev.SiteFails site s₁ e t ∧ notes = seen ++ (codes front ++ [site.code])

theorem bind_eq_ok_iff_parts {ps : List (Part Code)} {s t : σ} {q : Sql V} :
    ev.bind ps s = .ok q t ↔ ∃ es, ev.parts ps s = .ok es t ∧ q = Sql.ofElements es := by
  rw [Evaluator.bind, bind_eq_ok_iff]
  constructor
  · rintro ⟨es, s₁, hparts, hpure⟩
    obtain ⟨rfl, rfl⟩ := pure_eq_ok_iff.mp hpure
    exact ⟨es, hparts, rfl⟩
  · rintro ⟨es, hparts, rfl⟩
    exact ⟨es, t, hparts, rfl⟩

theorem bind_eq_error_iff_parts {ps : List (Part Code)} {s t : σ} {e : ε} :
    ev.bind ps s = .error e t ↔ ev.parts ps s = .error e t := by
  rw [Evaluator.bind, bind_eq_error_iff]
  constructor
  · rintro (hparts | ⟨es, s₁, -, hpure⟩)
    · exact hparts
    · cases hpure
  · exact .inl

theorem bind_noting_of_ok {ps : List (Part Code)} {s t : σ} {q : Sql V}
    (h : ev.bind ps s = .ok q t) (seen : List Code) :
    ev.noting.bind ps (s, seen) = .ok q (t, seen ++ codes ps) := by
  obtain ⟨es, hparts, rfl⟩ := bind_eq_ok_iff_parts.mp h
  exact bind_eq_ok_iff_parts.mpr ⟨es, parts_noting_of_ok hparts seen, rfl⟩

/-- Behind the sites in front of it, the site that fails is the last one that is noted. -/
theorem bind_noting_of_siteFails {front back : List (Part Code)} {site : Site Code} {q : Sql V}
    {s s₁ t : σ} {e : ε} (hfront : ev.bind front s = .ok q s₁)
    (fails : ev.SiteFails site s₁ e t) (seen : List Code) :
    ev.noting.bind (front ++ .site site :: back) (s, seen)
      = .error e (t, seen ++ (codes front ++ [site.code])) := by
  obtain ⟨es, hparts, -⟩ := bind_eq_ok_iff_parts.mp hfront
  have hnoted := part_noting ev (.site site) s₁ (seen ++ codes front)
  rw [part_eq_error_iff.mpr ⟨site, rfl, fails⟩, List.append_assoc] at hnoted
  exact bind_eq_error_iff_parts.mpr (parts_eq_error_iff.mpr
    ⟨front, _, back, es, _, rfl, parts_noting_of_ok hparts seen, hnoted⟩)

/-- A binding comes to a query, or to the first site that fails. -/
theorem bind_cases (ev : Evaluator (EStateM ε σ) Code V) (ps : List (Part Code)) (s : σ) :
    (∃ q t, ev.bind ps s = .ok q t) ∨
      ∃ front site back q s₁ e t, ps = front ++ .site site :: back ∧
        ev.bind front s = .ok q s₁ ∧ ev.SiteFails site s₁ e t := by
  cases hrun : ev.bind ps s with
  | ok q t => exact .inl ⟨q, t, rfl⟩
  | error e t =>
      obtain ⟨front, p, back, es, s₁, rfl, hfront, hp⟩ :=
        parts_eq_error_iff.mp (bind_eq_error_iff_parts.mp hrun)
      obtain ⟨site, rfl, hfails⟩ := part_eq_error_iff.mp hp
      exact .inr ⟨front, site, back, _, s₁, e, t, rfl,
        bind_eq_ok_iff_parts.mpr ⟨es, hfront, rfl⟩, hfails⟩

theorem threads (ev : Evaluator (EStateM ε σ) Code V) : ev.Threads where
  append := ev.bind_append
  unnoticed ps s seen :=
    bind_matches Prod.fst ev.noting ev
      (fun c s => by
        show ev.value c s.1 = throughState Prod.fst (throughState (·, s.2 ++ [c]) (ev.value c s.1))
        cases ev.value c s.1 <;> rfl)
      (fun v s => by
        show ev.elements v s.1 = throughState Prod.fst (throughState (·, s.2) (ev.elements v s.1))
        cases ev.elements v s.1 <;> rfl)
      rfl ps (s, seen)
  each_once ps s t seen notes q := by
    constructor
    · intro h
      rcases ev.bind_cases ps s with ⟨q', t', hok⟩ | ⟨front, site, back, q', s₁, e, t', rfl,
        hfront, hfails⟩
      · rw [bind_noting_of_ok hok seen] at h
        obtain ⟨rfl, hstate⟩ := EStateM.Result.ok.inj h
        obtain ⟨rfl, rfl⟩ := Prod.mk.inj hstate
        exact ⟨hok, rfl⟩
      · rw [bind_noting_of_siteFails hfront hfails seen] at h
        cases h
    · rintro ⟨hok, rfl⟩
      exact bind_noting_of_ok hok seen
  first_failure ps s t seen notes e := by
    constructor
    · intro h
      rcases ev.bind_cases ps s with ⟨q', t', hok⟩ | ⟨front, site, back, q', s₁, e', t', rfl,
        hfront, hfails⟩
      · rw [bind_noting_of_ok hok seen] at h
        cases h
      · rw [bind_noting_of_siteFails hfront hfails seen] at h
        obtain ⟨rfl, hstate⟩ := EStateM.Result.error.inj h
        obtain ⟨rfl, rfl⟩ := Prod.mk.inj hstate
        exact ⟨front, site, back, q', s₁, rfl, hfront, hfails, rfl⟩
    · rintro ⟨front, site, back, q, s₁, rfl, hfront, hfails, rfl⟩
      exact bind_noting_of_siteFails hfront hfails seen

end Evaluator

/-! ## Where a name comes from -/

/-- What the first of several mappings that has a name has for it.  A mapping is the list of its
entries, where a later entry takes the place of an earlier one for the same name. -/
def firstOf? (mappings : List Names) (id : String) : Option Val :=
  mappings.findSome? fun names => names.reverse.lookup id

/-- The last of several assignments to a name counts. -/
theorem lookup_foldl_withBinding (bs names : Names) (id : String) :
    (bs.foldl (fun names b => Eval.withBinding b.1 b.2 names) names).lookup id
      = (bs.reverse.lookup id).or (names.lookup id) := by
  induction bs generalizing names with
  | nil => rfl
  | cons b bs ih =>
      rw [List.foldl_cons, ih, List.reverse_cons, List.lookup_append, Option.or_assoc]
      congr 1
      by_cases h : id = b.1
      · rw [h, Eval.withBinding_lookup, List.lookup_cons, beq_self_eq_true]
        rfl
      · rw [lookup_withBinding_of_ne h, List.lookup_cons, beq_false_of_ne h]
        rfl

/-- Names of several layers are found in the last layer that has them. -/
theorem lookup_layered (layers : List Names) (id : String) :
    (layered layers).lookup id = firstOf? layers.reverse id := by
  rw [layered, lookup_foldl_withBinding, List.lookup_nil, Option.or_none, firstOf?]
  induction layers with
  | nil => rfl
  | cons names layers ih =>
      rw [List.flatten_cons, List.reverse_append, List.lookup_append, ih, List.reverse_cons,
        List.findSome?_append]
      congr 1
      rw [List.findSome?_cons, List.findSome?_nil]
      cases names.reverse.lookup id <;> rfl

/-- Outside of functions, an expression that is a name has the value that its frame has for it. -/
theorem value_name {f : Frame} {s : Store} {globals : Nat} {id : String} {v : Val}
    (hframe : s.objects[globals]? = some (.frame f)) (named : id ≠ Eval.debugName)
    (hlookup : f.values.lookup id = some v) :
    (evaluator { frames := [], globals }).value (.name id) s = .ok v s := by
  refine value_of_eval hframe fun env outside hglobals => ?_
  rw [← hglobals] at hframe
  exact eval_name outside hframe named hlookup

/-- The names that a binding begins with: those of the first of several mappings that has them.
They are in a frame that is made for the binding. -/
structure StartsFrom (mappings : List Names) (s start : Store) : Prop where
  frame : ∃ values, start.objects = s.objects.push (.frame ⟨false, [], values, #[]⟩) ∧
    ∀ id, values.lookup id = firstOf? mappings id
  resolves : ∀ {id : String} {v : Val}, id ≠ Eval.debugName → firstOf? mappings id = some v →
    (evaluator { frames := [], globals := s.objects.size }).value (.name id) start = .ok v start

theorem startsFrom_bindingStore (layers : List Names) (s : Store) :
    StartsFrom layers.reverse s (bindingStore layers s) where
  frame := ⟨layered layers, rfl, lookup_layered layers⟩
  resolves named h := by
    have hframe : (bindingStore layers s).objects[s.objects.size]?
        = some (.frame (sharedFrame layers)) := Array.getElem?_push_size
    exact value_name hframe named ((lookup_layered layers _).trans h)

/-- The settings for template text: those that were asked for, or those among the names. -/
def settingsFor (settings : Option Settings) (names : Names) : Build Settings :=
  match settings with
  | some given => pure given
  | none => settingsOfValue ((names.lookup settingsName).getD .none)

/-- Template text is scanned with its settings, and bound to the names around it and its own. -/
theorem makeSql_str (room : Room) (settings : Option Settings) (surroundings : List Names)
    (names : Names) (text : Text) :
    makeSql room settings surroundings names (.value (.str text)) = (do
      let chosen ← settingsFor settings names
      sqlOfText room chosen (Text.plain text)
        (surroundings ++ [names.filter (·.1 != settingsName)])) := by
  cases settings <;> rfl

/-! ## One frame for each binding -/

section Frames

variable {Code α : Type}

/-- A computation on names, let loose on the names of a frame. -/
def onFrame (address : Nat) (x : EStateM Fault Names α) : Eval α := do
  let f ← Eval.frameAt address
  match x f.values with
  | .ok a names => do
      Value.Eval.save address (.frame { f with values := names })
      pure a
  | .error fault names => do
      Value.Eval.save address (.frame { f with values := names })
      Value.Eval.fail fault

/-- An evaluator that knows nothing but names, let loose on the names of a frame. -/
def Evaluator.onFrame (ev : Evaluator (EStateM Fault Names) Code Val) (address : Nat) :
    Evaluator Eval Code Val where
  value c := Template.onFrame address (ev.value c)
  elements v := Template.onFrame address (ev.elements v)
  element := ev.element

/-- Outside of functions, an assignment in an expression writes into the shared frame. -/
theorem eval_assign (level globals : Nat) (builtins : Option Val) (path id : String) (t : Tree) :
    (Eval.engineOf (level + 1)).eval { frames := [], globals, builtins, path } (.assign id t)
      = (do
        let v ← (Eval.engineOf level).eval { frames := [], globals, builtins, path } t
        onFrame globals (modify (Eval.withBinding id v))
        pure v) := rfl

/-- Binds parts with an evaluator that is told which frame was made for this binding. -/
def bindParts (ev : Nat → Evaluator Eval Code Val) (parts : List (Part Code))
    (layers : List Names) : Eval (Sql Val) := do
  match ← Value.Eval.make (.frame (sharedFrame layers)) with
  | .object globals => (ev globals).bind parts
  | _ => Value.Eval.fail .tooDeep

theorem bindTemplate_eq_bindParts (t : ExprTemplate) (layers : List Names) :
    bindTemplate t layers
      = bindParts (fun globals => evaluator { frames := [], globals }) t.parts layers := rfl

/-- The state in which the frame of a binding was made, and has certain names by now. -/
def withFrame (s : Store) (names : Names) : Store :=
  { s with objects := s.objects.push (.frame ⟨false, [], names, #[]⟩) }

theorem matches_onFrame (s : Store) (x : EStateM Fault Names α) :
    Matches (withFrame s) x (onFrame s.objects.size x) := by
  intro names
  have hframe : Eval.frameAt s.objects.size (withFrame s names)
      = .ok ⟨false, [], names, #[]⟩ (withFrame s names) :=
    frameAt_of_frame Array.getElem?_push_size
  have hsave : ∀ names' : Names,
      Value.Eval.save s.objects.size (.frame ⟨false, [], names', #[]⟩) (withFrame s names)
        = .ok () (withFrame s names') := by
    intro names'
    have hobjects : (s.objects.push (.frame ⟨false, [], names, #[]⟩)).setIfInBounds s.objects.size
        (.frame ⟨false, [], names', #[]⟩) = s.objects.push (.frame ⟨false, [], names', #[]⟩) := by
      simp [Array.setIfInBounds, Array.set_push]
    exact congrArg (fun objects => EStateM.Result.ok () { s with objects }) hobjects
  rw [onFrame, bind_of_ok hframe]
  cases x names with
  | ok a names' => exact bind_of_ok (hsave names') _
  | error fault names' => exact bind_of_ok (hsave names') _

/-- A binding with its own frame comes to what the evaluator makes of the names alone. -/
theorem bindParts_onFrame (ev : Evaluator (EStateM Fault Names) Code Val)
    (parts : List (Part Code)) (layers : List Names) (s : Store) :
    bindParts ev.onFrame parts layers s
      = throughState (withFrame s) (ev.bind parts (layered layers)) := by
  have hmatches : Matches (withFrame s) (ev.bind parts)
      ((ev.onFrame s.objects.size).bind parts) :=
    Evaluator.bind_matches _ ev (ev.onFrame _) (fun c => matches_onFrame s (ev.value c))
      (fun v => matches_onFrame s (ev.elements v)) rfl parts
  exact hmatches (layered layers)

end Frames

/-! ## One binding after the other -/

/-- The entries of a mapping whose keys can be names. -/
def namesOf : Value.Obj → Names
  | .dict entries => entries.toList.filterMap fun
      | (.str id, v) => some (Text.plain id, v)
      | _ => none
  | _ => []

/-- A use of a template: the mappings of the caller, by their addresses and from the outside in, and
the keyword values. -/
structure Binding where
  mappings : List Nat
  keywords : Names

/-- The layers of names of a use, with the entries that the mappings have in a state. -/
def Binding.layers (b : Binding) (s : Store) : List Names :=
  b.mappings.map (fun address => (s.objects[address]?.map namesOf).getD []) ++ [b.keywords]

/-- A computation whose failure is an answer. -/
def attempt {α : Type} (x : Eval α) : Eval (Except Fault α) := fun s =>
  match x s with
  | .ok a t => .ok (.ok a) t
  | .error fault t => .ok (.error fault) t

/-- What a computation came to, whatever state it left behind. -/
def outcome {ε σ α : Type} : EStateM.Result ε σ α → Except ε α
  | .ok a _ => .ok a
  | .error e _ => .error e

/-- The state that a computation left behind. -/
def lastState {ε σ α : Type} : EStateM.Result ε σ α → σ
  | .ok _ s => s
  | .error _ s => s

section Bindings

variable {Code : Type}

/-- Binds parts several times, with the mappings as each time finds them.  One that fails keeps
none of the others from being tried. -/
def bindAll (ev : Nat → Evaluator Eval Code Val) (parts : List (Part Code)) :
    List Binding → Eval (List (Except Fault (Sql Val)))
  | [] => pure []
  | b :: bs => do
      let first ← attempt (bindParts ev parts (b.layers (← get)))
      let others ← bindAll ev parts bs
      pure (first :: others)

/-- The state with one more frame for each binding, which has these names. -/
def withFrames (s : Store) (rows : List Names) : Store := rows.foldl withFrame s

/-- All objects that were there before the frames are as they were. -/
theorem objects_withFrames (s : Store) (rows : List Names) :
    (withFrames s rows).objects
      = s.objects ++ (rows.map fun names => Value.Obj.frame ⟨false, [], names, #[]⟩).toArray := by
  induction rows generalizing s with
  | nil => exact Array.append_empty.symm
  | cons names rows ih =>
      show (withFrames (withFrame s names) rows).objects = _
      rw [ih, withFrame, List.map_cons]
      simp

/-- The frame of a binding is no mapping of the caller. -/
theorem layers_withFrame (b : Binding) (s : Store) (names : Names) :
    b.layers (withFrame s names) = b.layers s := by
  have hmapping : ∀ address : Nat, ((withFrame s names).objects[address]?.map namesOf).getD []
      = (s.objects[address]?.map namesOf).getD [] := by
    intro address
    rw [withFrame, Array.getElem?_push]
    split
    next h =>
      have hnone : s.objects[address]? = none := Array.getElem?_eq_none (Nat.le_of_eq h.symm)
      rw [hnone]
      rfl
    next => rfl
  rw [Binding.layers, Binding.layers]
  simp only [hmapping]

/-- Each of several bindings comes to what it would have come to as the only one, and leaves
nothing behind but its own frame. -/
theorem bindAll_onFrame (ev : Evaluator (EStateM Fault Names) Code Val)
    (parts : List (Part Code)) (bs : List Binding) (s : Store) :
    let runs := bs.map fun b => ev.bind parts (layered (b.layers s))
    bindAll ev.onFrame parts bs s
      = .ok (runs.map outcome) (withFrames s (runs.map lastState)) := by
  induction bs generalizing s with
  | nil => rfl
  | cons b bs ih =>
      have hfirst : attempt (bindParts ev.onFrame parts (b.layers s)) s
          = .ok (outcome (ev.bind parts (layered (b.layers s))))
              (withFrame s (lastState (ev.bind parts (layered (b.layers s))))) := by
        rw [attempt, bindParts_onFrame]
        cases ev.bind parts (layered (b.layers s)) <;> rfl
      have hothers := ih (withFrame s (lastState (ev.bind parts (layered (b.layers s)))))
      simp only [layers_withFrame] at hothers
      have hget : (get : Eval Store) s = .ok s s := rfl
      rw [bindAll, bind_of_ok hget, bind_of_ok hfirst, bind_of_ok hothers]
      rfl

end Bindings

/-! ## Bindings with names of their own -/

/-- A computation binds a template, and begins with the names of the first of several mappings that
has them. -/
def BindsFrom (t : ExprTemplate) (mappings : List Names) (run : Eval (Sql Val)) : Prop :=
  ∀ s : Store, ∃ start, StartsFrom mappings s start ∧
    run s = (evaluator { frames := [], globals := s.objects.size }).bind t.parts start

theorem bindsFrom_bindTemplate (t : ExprTemplate) (layers : List Names) :
    BindsFrom t layers.reverse (bindTemplate t layers) :=
  fun s => ⟨bindingStore layers s, startsFrom_bindingStore layers s, rfl⟩

/-- Binding hands one namespace on from site to site, for every evaluator: rows of parts can be cut
anywhere, each site is evaluated once in the order of the text, and the first failure ends it.  The
names are those of the keyword values, then those of the mapping; for template text that is bound
at once, those of the keyword values, then the local and then the global names of the caller.  What
expressions assign goes into the frame of the binding.  A template is bound as parts are with any
evaluator that is told the frame of the binding.  With an evaluator that knows nothing but names,
each of any number of bindings comes to what the evaluator makes of its own names, and all
that it leaves behind is its frame: the mappings of the caller, and all frames of other bindings,
are as they were. -/
theorem binding_threads_private_names :
    (∀ {ε σ Code V : Type} (ev : Evaluator (EStateM ε σ) Code V), ev.Threads) ∧
    (∀ (t : ExprTemplate) (mapping keywords : Names),
      BindsFrom t [keywords, mapping] (bindTemplate t [mapping, keywords])) ∧
    (∀ (room : Room) (settings : Option Settings) (globals locals names : Names) (text : Text),
      let keywords := names.filter (·.1 != settingsName)
      makeSql room settings [globals, locals] names (.value (.str text)) = (do
        let chosen ← settingsFor settings names
        let t ← templateOf room chosen (Text.plain text)
        Build.ofEval (bindTemplate t [globals, locals, keywords])) ∧
      ∀ t : ExprTemplate,
        BindsFrom t [keywords, locals, globals] (bindTemplate t [globals, locals, keywords])) ∧
    (∀ (level globals : Nat) (builtins : Option Val) (path id : String) (t : Tree),
      (Eval.engineOf (level + 1)).eval { frames := [], globals, builtins, path } (.assign id t)
        = (do
          let v ← (Eval.engineOf level).eval { frames := [], globals, builtins, path } t
          onFrame globals (modify (Eval.withBinding id v))
          pure v)) ∧
    (∀ (t : ExprTemplate) (layers : List Names), bindTemplate t layers
      = bindParts (fun globals => evaluator { frames := [], globals }) t.parts layers) ∧
    ∀ {Code : Type} (ev : Evaluator (EStateM Fault Names) Code Val) (parts : List (Part Code))
      (bs : List Binding) (s : Store),
      let runs := bs.map fun b => ev.bind parts (layered (b.layers s))
      bindAll ev.onFrame parts bs s
          = .ok (runs.map outcome) (withFrames s (runs.map lastState)) ∧
        ∀ rows : List Names, (withFrames s rows).objects
          = s.objects
            ++ (rows.map fun names => Value.Obj.frame ⟨false, [], names, #[]⟩).toArray := by
  refine ⟨Evaluator.threads, fun t mapping keywords => ?_,
    fun room settings globals locals names text => ?_, eval_assign, bindTemplate_eq_bindParts,
    fun ev parts bs s => ?_⟩
  · exact bindsFrom_bindTemplate t [mapping, keywords]
  · refine ⟨?_, fun t => bindsFrom_bindTemplate t [globals, locals, _]⟩
    exact makeSql_str room settings [globals, locals] names text
  · exact ⟨bindAll_onFrame ev parts bs s, objects_withFrames s⟩

end BoundSql.Template
