import BoundSql.Proofs.Filling
set_option autoImplicit false

/-!
# Expressions that can be evaluated again

The expression of a site may have side effects, and a binding evaluates each site once.  A site is
repeatable if evaluating it changes nothing that was there before, and comes to the same whenever it
is done.  Two runs over repeatable sites have alike nodes, wherever they begin
(`rows_of_repeatable`).

What comes to the same is not the same value.  A list that is made anew has another address each
time, and a fragment that is bound twice is two objects.  `Likeness` is a notion of sameness between
values of two runs that compiling cannot tell apart, and being repeatable is said with such a notion
as a parameter.  Stores only grow during an evaluation of this kind (`Store.Extends`), so that what
was found in one state is found in all later ones.

A site that comes to the same in every state with the names of the binding, and leaves the state as
it is, is repeatable (`repeatable_of_steady`).  Which expressions are of that kind is a matter of
its own and is settled elsewhere.
-/

namespace BoundSql.Value

/-- A state goes on from another one: more objects were made, and all that there were are as they
were. -/
structure Store.Extends (s u : Store) : Prop where
  objects : ∀ (address : Nat) (o : Obj), s.objects[address]? = some o → u.objects[address]? = some o
  depth : u.depth = s.depth

namespace Store.Extends

theorem refl (s : Store) : s.Extends s := ⟨fun _ _ h => h, rfl⟩

theorem trans {s t u : Store} (h₁ : s.Extends t) (h₂ : t.Extends u) : s.Extends u where
  objects address o h := h₂.objects address o (h₁.objects address o h)
  depth := h₂.depth.trans h₁.depth

/-- Making an object leaves all others as they are. -/
theorem push (s : Store) (o : Obj) : s.Extends { s with objects := s.objects.push o } where
  objects address o' h := by
    have hbound := (Array.getElem?_eq_some_iff.mp h).1
    rw [Array.getElem?_push, if_neg (Nat.ne_of_lt hbound)]
    exact h
  depth := rfl

end Store.Extends

/-- An object that is there is found. -/
theorem load_of_object {s : Store} {address : Nat} {o : Obj} (h : s.objects[address]? = some o) :
    Eval.load address s = .ok o s := by
  rw [Eval.load, bind_eq_ok_iff]
  refine ⟨s, s, rfl, ?_⟩
  rw [h]
  rfl

end BoundSql.Value

namespace BoundSql.Query

/-- Nodes of two queries that are the same literal, or arguments that are related. -/
inductive NodeAlike {V W : Type} (R : V → W → Prop) : Node V → Node W → Prop where
  | literal (s : String) : NodeAlike R (.literal s) (.literal s)
  | argument {v : V} {w : W} (h : R v w) : NodeAlike R (.argument v) (.argument w)

end BoundSql.Query

namespace BoundSql.Template

open BoundSql.Expr (Constant Tree)
open BoundSql.Query (Node NodeAlike Sql)
open BoundSql.Value (Env Eval Frame Store Val)

/-- Something that values of two states may have in common.  It takes into account what the objects
are that the values refer to, and stays when more objects are made. -/
structure Likeness where
  alike : Store → Val → Store → Val → Prop
  lasting : ∀ {s u s' u' : Store} {v w : Val}, s.Extends u → s'.Extends u' → alike s v s' w →
    alike u v u' w

/-- Values that are the same. -/
def Likeness.same : Likeness where
  alike _ v _ w := v = w
  lasting _ _ h := h

/-- Rows of nodes that have the same literals, and alike arguments, in the same places. -/
def Likeness.Rows (likeness : Likeness) (s s' : Store) : List (Node Val) → List (Node Val) → Prop :=
  List.Forall₂ (NodeAlike (likeness.alike s · s' ·))

theorem Likeness.Rows.lasting {likeness : Likeness} {s s' u u' : Store} {ns ms : List (Node Val)}
    (h : likeness.Rows s s' ns ms) (hs : s.Extends u) (hs' : s'.Extends u') :
    likeness.Rows u u' ns ms := by
  refine List.Forall₂.imp (fun n m hnode => ?_) h
  cases hnode with
  | literal s => exact .literal s
  | argument hv => exact .argument (likeness.lasting hs hs' hv)

/-- The nodes that a part brings into a query. -/
def Filled.row (f : Filled Val) : List (Node Val) := (f.toElement Value.elementOf).flatten

/-- A state that goes on from another one has the names of a binding in the frame at an address: a
namespace, and perhaps a value for the name `frag`. -/
structure Sees (base : Store) (names : Names) (s : Store) (globals : Nat) : Prop where
  goesOn : base.Extends s
  frame : ∃ layers, (layers = [names] ∨ ∃ v, layers = [names, [("frag", v)]]) ∧
    s.objects[globals]? = some (.frame (sharedFrame layers))

/-- Evaluating a site with a frame for the shared names. -/
abbrev FillsSite (globals : Nat) (site : Site Tree) (s : Store) (f : Filled Val) (u : Store) :
    Prop :=
  Fills (evaluator { frames := [], globals }) [.site site] s [f] u

/-- A site that evaluates over a namespace without a failure, without side effects, and without the
name `frag`.  Whenever it is evaluated, this succeeds and changes nothing that there was, and any
two times come to alike nodes, whatever `frag` is. -/
structure Repeatable (likeness : Likeness) (base : Store) (names : Names) (site : Site Tree) :
    Prop where
  evaluates : ∀ {s : Store} {globals : Nat}, Sees base names s globals →
    ∃ f u, FillsSite globals site s f u ∧ s.Extends u
  agrees : ∀ {s u s' u' : Store} {globals globals' : Nat} {f f' : Filled Val},
    Sees base names s globals → Sees base names s' globals' →
      FillsSite globals site s f u → FillsSite globals' site s' f' u' →
        likeness.Rows u u' f.row f'.row

/-! ## Runs one after the other -/

section Runs

variable {ε σ Code V : Type} {ev : Evaluator (EStateM ε σ) Code V}

/-- A run over parts is a run over the first one and a run over the others. -/
theorem fills_cons_iff {p : Part Code} {ps : List (Part Code)} {s u : σ} {fs : List (Filled V)} :
    Fills ev (p :: ps) s fs u ↔
      ∃ f gs t, fs = f :: gs ∧ Fills ev [p] s [f] t ∧ Fills ev ps t gs u := by
  constructor
  · intro h
    cases h with
    | literal rest => exact ⟨_, _, _, rfl, .literal (.nil _), rest⟩
    | value plain evaluates rest => exact ⟨_, _, _, rfl, .value plain evaluates (.nil _), rest⟩
    | splat splat evaluates collects rest =>
        exact ⟨_, _, _, rfl, .splat splat evaluates collects (.nil _), rest⟩
  · rintro ⟨f, gs, t, rfl, hfirst, hrest⟩
    cases hfirst with
    | literal ending =>
        cases ending
        exact .literal hrest
    | value plain evaluates ending =>
        cases ending
        exact .value plain evaluates hrest
    | splat splat evaluates collects ending =>
        cases ending
        exact .splat splat evaluates collects hrest

theorem Fills.append {ps qs : List (Part Code)} {s t u : σ} {fs gs : List (Filled V)}
    (h₁ : Fills ev ps s fs t) (h₂ : Fills ev qs t gs u) : Fills ev (ps ++ qs) s (fs ++ gs) u := by
  induction h₁ with
  | nil s => exact h₂
  | literal rest ih => exact .literal (ih h₂)
  | value plain evaluates rest ih => exact .value plain evaluates (ih h₂)
  | splat splat evaluates collects rest ih => exact .splat splat evaluates collects (ih h₂)

theorem Fills.length_eq {ps : List (Part Code)} {s u : σ} {fs : List (Filled V)}
    (h : Fills ev ps s fs u) : fs.length = ps.length := by
  induction h with
  | nil s => rfl
  | literal rest ih => exact congrArg Nat.succ ih
  | value plain evaluates rest ih => exact congrArg Nat.succ ih
  | splat splat evaluates collects rest ih => exact congrArg Nat.succ ih

end Runs

/-! ## Runs over repeatable sites -/

variable {likeness : Likeness} {base : Store} {names : Names}

theorem Sees.mono {s u : Store} {globals : Nat} (h : Sees base names s globals)
    (extended : s.Extends u) : Sees base names u globals := by
  obtain ⟨layers, hlayers, hframe⟩ := h.frame
  exact ⟨h.goesOn.trans extended, layers, hlayers, extended.objects globals _ hframe⟩

/-- Evaluating a repeatable site changes nothing that there was. -/
theorem Repeatable.extends_of_fills {x : Site Tree} (h : Repeatable likeness base names x)
    {s u : Store} {globals : Nat} {f : Filled Val} (sees : Sees base names s globals)
    (run : FillsSite globals x s f u) : s.Extends u := by
  obtain ⟨g, u', hrun, hextends⟩ := h.evaluates sees
  obtain ⟨-, rfl⟩ := Fills.unique run hrun
  exact hextends

/-- Repeatable sites are evaluated one after the other without a failure. -/
theorem exists_fills_of_repeatable {xs : List (Site Tree)}
    (h : ∀ x ∈ xs, Repeatable likeness base names x) {s : Store} {globals : Nat}
    (sees : Sees base names s globals) :
    ∃ fs u, Fills (evaluator { frames := [], globals }) (xs.map .site) s fs u ∧ s.Extends u := by
  induction xs generalizing s with
  | nil => exact ⟨[], s, .nil s, .refl s⟩
  | cons x xs ih =>
      obtain ⟨f, t, hfirst, hst⟩ := (h x List.mem_cons_self).evaluates sees
      obtain ⟨fs, u, hrest, htu⟩ := ih (fun y hy => h y (List.mem_cons_of_mem x hy))
        (sees.mono hst)
      exact ⟨f :: fs, u, fills_cons_iff.mpr ⟨f, fs, t, rfl, hfirst, hrest⟩, hst.trans htu⟩

/-- A run over repeatable sites changes nothing that there was. -/
theorem Fills.extends_of_repeatable {xs : List (Site Tree)}
    (h : ∀ x ∈ xs, Repeatable likeness base names x) {s u : Store} {globals : Nat}
    {fs : List (Filled Val)} (sees : Sees base names s globals)
    (run : Fills (evaluator { frames := [], globals }) (xs.map .site) s fs u) : s.Extends u := by
  obtain ⟨gs, u', hrun, hextends⟩ := exists_fills_of_repeatable h sees
  obtain ⟨-, rfl⟩ := run.unique hrun
  exact hextends

/-- Two runs over the same repeatable sites have alike nodes, site by site. -/
theorem rows_of_repeatable {xs : List (Site Tree)}
    (h : ∀ x ∈ xs, Repeatable likeness base names x) {s u s' u' : Store} {globals globals' : Nat}
    {fs fs' : List (Filled Val)} (sees : Sees base names s globals)
    (sees' : Sees base names s' globals')
    (run : Fills (evaluator { frames := [], globals }) (xs.map .site) s fs u)
    (run' : Fills (evaluator { frames := [], globals := globals' }) (xs.map .site) s' fs' u') :
    List.Forall₂ (likeness.Rows u u') (fs.map Filled.row) (fs'.map Filled.row) := by
  induction xs generalizing s s' fs fs' with
  | nil =>
      cases run
      cases run'
      exact .nil
  | cons x xs ih =>
      obtain ⟨f, gs, t, rfl, hfirst, hrest⟩ := fills_cons_iff.mp run
      obtain ⟨f', gs', t', rfl, hfirst', hrest'⟩ := fills_cons_iff.mp run'
      have hx := h x List.mem_cons_self
      have hxs : ∀ y ∈ xs, Repeatable likeness base names y := fun y hy =>
        h y (List.mem_cons_of_mem x hy)
      have seesRest := sees.mono (hx.extends_of_fills sees hfirst)
      have seesRest' := sees'.mono (hx.extends_of_fills sees' hfirst')
      refine .cons ?_ (ih hxs seesRest seesRest' hrest hrest')
      exact (hx.agrees sees sees' hfirst hfirst').lasting
        (hrest.extends_of_repeatable hxs seesRest) (hrest'.extends_of_repeatable hxs seesRest')

/-! ## Names in the shared frame -/

section Names

variable {f : Frame} {s : Store}

theorem frameAt_of_frame {address : Nat} (h : s.objects[address]? = some (.frame f)) :
    Eval.frameAt address s = .ok f s := by
  rw [Eval.frameAt, bind_eq_ok_iff]
  exact ⟨_, _, Value.load_of_object h, rfl⟩

/-- Outside of functions, a name has the value that the shared names give it. -/
theorem lookupName_of_frame {env : Env} {id : String} {v : Val} (outside : env.frames = [])
    (hframe : s.objects[env.globals]? = some (.frame f)) (hlookup : f.values.lookup id = some v) :
    Eval.lookupName env id s = .ok v s := by
  rw [Eval.lookupName, outside, bind_eq_ok_iff]
  refine ⟨none, s, rfl, ?_⟩
  dsimp only
  rw [bind_eq_ok_iff]
  refine ⟨f, s, frameAt_of_frame hframe, ?_⟩
  rw [hlookup]
  rfl

theorem eval_name {level : Nat} {env : Env} {id : String} {v : Val} (outside : env.frames = [])
    (hframe : s.objects[env.globals]? = some (.frame f)) (named : id ≠ Eval.debugName)
    (hlookup : f.values.lookup id = some v) :
    (Eval.engineOf (level + 1)).eval env (.name id) s = .ok v s := by
  have hname : (id == Eval.debugName) = false := beq_false_of_ne named
  have hstep : (Eval.engineOf (level + 1)).eval env (.name id) = Eval.lookupName env id := by
    show Eval.evaluate (Eval.engineOf level) env (.name id) = Eval.lookupName env id
    rw [Eval.evaluate, hname]
    rfl
  rw [hstep]
  exact lookupName_of_frame outside hframe hlookup

/-- The value of a site is that of its expression, with the table of names that the shared names
have. -/
theorem value_of_eval {t : Tree} {globals : Nat} {v : Val} {u : Store}
    (hframe : s.objects[globals]? = some (.frame f))
    (h : ∀ env : Env, env.frames = [] → env.globals = globals →
      Eval.engine.eval env t s = .ok v u) :
    (evaluator { frames := [], globals }).value t s = .ok v u := by
  have htable : Eval.withTable { frames := [], globals } s
      = .ok { frames := [], globals, builtins := f.values.lookup Eval.tableName } s := by
    rw [Eval.withTable, bind_eq_ok_iff]
    exact ⟨f, s, frameAt_of_frame hframe, rfl⟩
  rw [evaluator, bind_eq_ok_iff]
  exact ⟨_, s, htable, h _ rfl rfl⟩

theorem fillsSite_name {globals : Nat} {source id : String} {v : Val}
    (hframe : s.objects[globals]? = some (.frame f)) (named : id ≠ Eval.debugName)
    (hlookup : f.values.lookup id = some v) :
    FillsSite globals ⟨source, false, .name id⟩ s (.value v) s := by
  refine .value rfl (value_of_eval hframe fun env outside hglobals => ?_) (.nil s)
  rw [← hglobals] at hframe
  exact eval_name outside hframe named hlookup

end Names

/-! ## Names whatever the fragment is -/

theorem lookup_withBinding_of_ne {id key : String} (h : key ≠ id) (v : Val)
    (bs : List (String × Val)) : (Eval.withBinding id v bs).lookup key = bs.lookup key := by
  have hkey : (key == id) = false := beq_false_of_ne h
  induction bs with
  | nil => rw [Eval.withBinding, List.lookup_cons, hkey, List.lookup_nil]
  | cons b bs ih =>
      obtain ⟨other, w⟩ := b
      rw [Eval.withBinding]
      split
      · rename_i hother
        obtain rfl : other = id := eq_of_beq hother
        rw [List.lookup_cons, List.lookup_cons, hkey]
      · rw [List.lookup_cons, List.lookup_cons, ih]

/-- A value for `frag` is bound on top of a namespace. -/
theorem values_sharedFrame_fragment (names : Names) (v : Val) :
    (sharedFrame [names, [("frag", v)]]).values
      = Eval.withBinding "frag" v (layered [names]) := by
  rw [sharedFrame, layered, layered, List.flatten_cons, List.flatten_singleton,
    List.flatten_singleton, List.foldl_append]
  rfl

/-- What a namespace has for another name than `frag` is found whatever `frag` is. -/
theorem Sees.exists_lookup {s : Store} {globals : Nat} (h : Sees base names s globals)
    {id : String} {v : Val} (hid : id ≠ "frag") (hlookup : (layered [names]).lookup id = some v) :
    ∃ f : Frame, s.objects[globals]? = some (.frame f) ∧ f.values.lookup id = some v := by
  obtain ⟨layers, rfl | ⟨w, rfl⟩, hframe⟩ := h.frame
  · exact ⟨_, hframe, hlookup⟩
  · refine ⟨_, hframe, ?_⟩
    rw [values_sharedFrame_fragment, lookup_withBinding_of_ne hid, hlookup]

/-- A site that comes to the same in every state, and leaves the state as it is, is repeatable. -/
theorem repeatable_of_steady {site : Site Tree} (f : Filled Val)
    (h : ∀ {s : Store} {globals : Nat}, Sees base names s globals →
      FillsSite globals site s f s) : Repeatable .same base names site where
  evaluates sees := ⟨f, _, h sees, .refl _⟩
  agrees sees sees' run run' := by
    obtain ⟨hf, -⟩ := Fills.unique run (h sees)
    obtain ⟨hf', -⟩ := Fills.unique run' (h sees')
    rw [(List.cons.inj hf).1, (List.cons.inj hf').1]
    refine List.forall₂_same.mpr fun n _ => ?_
    cases n with
    | literal text => exact .literal text
    | argument v => exact .argument rfl

end BoundSql.Template
