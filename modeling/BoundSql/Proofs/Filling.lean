import BoundSql.Proofs.Cutting
import BoundSql.Proofs.Sequence
import BoundSql.Template.Build
set_option autoImplicit false

/-!
# Templates with their values put in

Binding a template evaluates its sites one after the other, each in the state that the one before it
left behind.  The relation `Fills` keeps what such a run came to: the parts of the template, with
the value of each site in the place of the site.

What a binding makes of a template is a function of that row alone (`Filled.toElement`), so that
facts about bound queries need not look at evaluation: a fact about all rows with the texts of the
template in them is a fact about all bindings.  There is such a row for a template and a state
exactly if the binding succeeds (`bind_parts_eq_ok_iff`), and there is no other one
(`Fills.unique`).

`Binds` says the same of a binding with names from several mappings, as a caller asks for it, and
`rowTemplate` is a template with one site for each item of a row, which is what examples elsewhere
are made of.
-/

namespace BoundSql.Eval

open BoundSql.Value (Env)

/-- Evaluation begins one level below the limit. -/
theorem engine_eval (env : Env) (t : Expr.Tree) :
    engine.eval env t = evaluate (engineOf 3999) env t := by
  rw [engine, levelLimit, engineOf_succ, Engine.above]

end BoundSql.Eval

namespace BoundSql.Value

/-- A value that is no piece of a query is bound as it is. -/
theorem elementOf_of_isNode_eq_false {v : Val} (h : isNode v = false) :
    elementOf v = .plain v := by
  unfold elementOf
  split
  · simp [isNode] at h
  · simp [isNode] at h
  · simp [isNode] at h
  · simp [isNode] at h
  · rfl

end BoundSql.Value

namespace BoundSql.Template

open BoundSql.Query (Element Sql)
open BoundSql.Value (Eval Frame Store Val)

/-- A part of a template with the value of its site put in; the value of a splat is kept as its
elements. -/
inductive Filled (V : Type) where
  | literal (text : String)
  | value (v : V)
  | splat (vs : List V)
  deriving DecidableEq, Repr, Inhabited

namespace Filled

variable {V : Type}

/-- The values that a part brings into a query. -/
def values : Filled V → List V
  | literal _ => []
  | value v => [v]
  | splat vs => vs

/-- The number of elements of a splat. -/
def splatSize? : Filled V → Option Nat
  | splat vs => some vs.length
  | _ => none

/-- The part as an element of a query. -/
def toElement (element : V → Element V) : Filled V → Element V
  | literal text => .literal text
  | value v => element v
  | splat vs => .splat (vs.map element)

@[simp] theorem values_literal (text : String) : (literal text : Filled V).values = [] := rfl

@[simp] theorem values_value (v : V) : (value v).values = [v] := rfl

@[simp] theorem values_splat (vs : List V) : (splat vs).values = vs := rfl

end Filled

/-! ## Runs over parts -/

section Runs

variable {ε σ Code V : Type}

/-- Evaluating the sites of parts from one state on gives these values and ends in that state. -/
inductive Fills (ev : Evaluator (EStateM ε σ) Code V) :
    List (Part Code) → σ → List (Filled V) → σ → Prop where
  | nil (s : σ) : Fills ev [] s [] s
  | literal {text : String} {ps : List (Part Code)} {fs : List (Filled V)} {s s' : σ}
      (rest : Fills ev ps s fs s') :
      Fills ev (.literal text :: ps) s (.literal text :: fs) s'
  | value {site : Site Code} {ps : List (Part Code)} {v : V} {fs : List (Filled V)}
      {s s₁ s' : σ} (plain : site.splat = false) (evaluates : ev.value site.code s = .ok v s₁)
      (rest : Fills ev ps s₁ fs s') :
      Fills ev (.site site :: ps) s (.value v :: fs) s'
  | splat {site : Site Code} {ps : List (Part Code)} {v : V} {vs : List V}
      {fs : List (Filled V)} {s s₁ s₂ s' : σ} (splat : site.splat = true)
      (evaluates : ev.value site.code s = .ok v s₁) (collects : ev.elements v s₁ = .ok vs s₂)
      (rest : Fills ev ps s₂ fs s') :
      Fills ev (.site site :: ps) s (.splat vs :: fs) s'

variable {ev : Evaluator (EStateM ε σ) Code V}

/-- The element of a site is made of its value, or of the elements of its value. -/
theorem part_site_eq_ok_iff {site : Site Code} {e : Element V} {s s' : σ} :
    ev.part (.site site) s = .ok e s' ↔
      ∃ v s₁, ev.value site.code s = .ok v s₁ ∧
        ((site.splat = false ∧ e = ev.element v ∧ s' = s₁) ∨
          (site.splat = true ∧ ∃ vs, ev.elements v s₁ = .ok vs s' ∧
            e = .splat (vs.map ev.element))) := by
  rw [Evaluator.part, bind_eq_ok_iff]
  refine exists_congr fun v => exists_congr fun s₁ => and_congr_right fun _ => ?_
  cases hsplat : site.splat with
  | false =>
      simp only [Bool.false_eq_true, if_false, pure_eq_ok_iff, true_and, false_and, or_false]
      constructor
      · rintro ⟨rfl, rfl⟩
        exact ⟨rfl, rfl⟩
      · rintro ⟨rfl, rfl⟩
        exact ⟨rfl, rfl⟩
  | true =>
      simp only [if_true, bind_eq_ok_iff, pure_eq_ok_iff, Bool.true_eq_false, true_and, false_and,
        false_or]
      constructor
      · rintro ⟨vs, s₂, hvs, rfl, rfl⟩
        exact ⟨vs, hvs, rfl⟩
      · rintro ⟨vs, hvs, rfl⟩
        exact ⟨vs, s', hvs, rfl, rfl⟩

/-- The elements that parts stand for are those of the run over them, one for each part. -/
theorem parts_eq_ok_iff {ps : List (Part Code)} {es : List (Element V)} {s s' : σ} :
    ev.parts ps s = .ok es s' ↔
      ∃ fs, Fills ev ps s fs s' ∧ es = fs.map (Filled.toElement ev.element) := by
  constructor
  · intro h
    induction ps generalizing es s with
    | nil =>
        rw [Evaluator.parts, pure_eq_ok_iff] at h
        obtain ⟨rfl, rfl⟩ := h
        exact ⟨[], .nil s, rfl⟩
    | cons p ps ih =>
        rw [Evaluator.parts, bind_eq_ok_iff] at h
        obtain ⟨e, s₁, hpart, h⟩ := h
        rw [bind_eq_ok_iff] at h
        obtain ⟨rest, s₂, hrest, h⟩ := h
        rw [pure_eq_ok_iff] at h
        obtain ⟨rfl, rfl⟩ := h
        obtain ⟨fs, hfs, rfl⟩ := ih hrest
        cases p with
        | literal text =>
            rw [Evaluator.part, pure_eq_ok_iff] at hpart
            obtain ⟨rfl, rfl⟩ := hpart
            exact ⟨.literal text :: fs, .literal hfs, rfl⟩
        | site site =>
            obtain ⟨v, s₃, hv, ⟨hplain, rfl, rfl⟩ | ⟨hsplat, vs, hvs, rfl⟩⟩ :=
              part_site_eq_ok_iff.mp hpart
            · exact ⟨.value v :: fs, .value hplain hv hfs, rfl⟩
            · exact ⟨.splat vs :: fs, .splat hsplat hv hvs hfs, rfl⟩
  · rintro ⟨fs, hfs, rfl⟩
    induction hfs with
    | nil s => rfl
    | literal rest ih =>
        rw [Evaluator.parts, bind_eq_ok_iff]
        refine ⟨_, _, rfl, ?_⟩
        rw [bind_eq_ok_iff]
        exact ⟨_, _, ih, rfl⟩
    | value plain evaluates rest ih =>
        rw [Evaluator.parts, bind_eq_ok_iff]
        refine ⟨_, _, part_site_eq_ok_iff.mpr ⟨_, _, evaluates, .inl ⟨plain, rfl, rfl⟩⟩, ?_⟩
        rw [bind_eq_ok_iff]
        exact ⟨_, _, ih, rfl⟩
    | splat splat evaluates collects rest ih =>
        rw [Evaluator.parts, bind_eq_ok_iff]
        refine ⟨_, _, part_site_eq_ok_iff.mpr
          ⟨_, _, evaluates, .inr ⟨splat, _, collects, rfl⟩⟩, ?_⟩
        rw [bind_eq_ok_iff]
        exact ⟨_, _, ih, rfl⟩

/-- Binding parts makes the query of the run over them. -/
theorem bind_parts_eq_ok_iff {ps : List (Part Code)} {q : Sql V} {s s' : σ} :
    ev.bind ps s = .ok q s' ↔
      ∃ fs, Fills ev ps s fs s' ∧
        q = Sql.ofElements (fs.map (Filled.toElement ev.element)) := by
  rw [Evaluator.bind, bind_eq_ok_iff]
  constructor
  · rintro ⟨es, s₁, hparts, h⟩
    obtain ⟨rfl, rfl⟩ := pure_eq_ok_iff.mp h
    obtain ⟨fs, hfs, rfl⟩ := parts_eq_ok_iff.mp hparts
    exact ⟨fs, hfs, rfl⟩
  · rintro ⟨fs, hfs, rfl⟩
    exact ⟨_, s', parts_eq_ok_iff.mpr ⟨fs, hfs, rfl⟩, rfl⟩

/-- There is one run over parts from a state on. -/
theorem Fills.unique {ps : List (Part Code)} {s s₁ s₂ : σ} {fs gs : List (Filled V)}
    (hfs : Fills ev ps s fs s₁) (hgs : Fills ev ps s gs s₂) : fs = gs ∧ s₁ = s₂ := by
  induction hfs generalizing gs with
  | nil s =>
      cases hgs
      exact ⟨rfl, rfl⟩
  | literal rest ih =>
      cases hgs with
      | literal rest' =>
          obtain ⟨rfl, rfl⟩ := ih rest'
          exact ⟨rfl, rfl⟩
  | value plain evaluates rest ih =>
      cases hgs with
      | value plain' evaluates' rest' =>
          obtain ⟨rfl, rfl⟩ := EStateM.Result.ok.inj (evaluates.symm.trans evaluates')
          obtain ⟨rfl, rfl⟩ := ih rest'
          exact ⟨rfl, rfl⟩
      | splat splat' evaluates' collects' rest' => cases plain.symm.trans splat'
  | splat splat evaluates collects rest ih =>
      cases hgs with
      | value plain' evaluates' rest' => cases splat.symm.trans plain'
      | splat splat' evaluates' collects' rest' =>
          obtain ⟨rfl, rfl⟩ := EStateM.Result.ok.inj (evaluates.symm.trans evaluates')
          obtain ⟨rfl, rfl⟩ := EStateM.Result.ok.inj (collects.symm.trans collects')
          obtain ⟨rfl, rfl⟩ := ih rest'
          exact ⟨rfl, rfl⟩

end Runs

/-! ## Runs over templates -/

/-- A template is made of text that is scanned. -/
theorem templateOf_eq_ok_iff {room : Room} {settings : Settings} {text : String}
    {t : ExprTemplate} {s s' : Store} :
    templateOf room settings text s = .ok t s' ↔
      scan settings room.compile text = .ok t.parts ∧ t.text = text ∧ s' = s := by
  unfold templateOf
  cases hscan : scan settings room.compile text with
  | error f =>
      constructor
      · intro h
        cases h
      · rintro ⟨h, -⟩
        cases h
  | ok parts =>
      constructor
      · intro h
        obtain ⟨rfl, rfl⟩ := pure_eq_ok_iff.mp h
        exact ⟨rfl, rfl, rfl⟩
      · rintro ⟨h, rfl, rfl⟩
        obtain rfl := Except.ok.inj h
        rfl

/-- A scan that fails lets no template come about. -/
theorem templateOf_of_scan_error {room : Room} {settings : Settings} {text : String}
    {f : ScanFailure} (h : scan settings room.compile text = .error f) (s : Store) :
    templateOf room settings text s = .error f.refusal s := by
  rw [templateOf, h]
  rfl

/-- The frame in which a binding keeps the names of all layers. -/
def sharedFrame (layers : List Names) : Frame where
  isFunction := false
  locals := []
  values := layered layers

/-- The store that a binding begins with: its frame is the last object. -/
def bindingStore (layers : List Names) (s : Store) : Store :=
  { s with objects := s.objects.push (.frame (sharedFrame layers)) }

/-- Binding a template to layers of names evaluates its sites to these values. -/
def Binds (t : ExprTemplate) (layers : List Names) (s : Store) (fs : List (Filled Val))
    (s' : Store) : Prop :=
  Fills (evaluator { frames := [], globals := s.objects.size }) t.parts (bindingStore layers s)
    fs s'

/-- A template is bound to the query of its run. -/
theorem bindTemplate_eq_ok_iff {t : ExprTemplate} {layers : List Names} {s s' : Store}
    {q : Sql Val} :
    bindTemplate t layers s = .ok q s' ↔
      ∃ fs, Binds t layers s fs s' ∧
        q = Sql.ofElements (fs.map (Filled.toElement Value.elementOf)) := by
  have hstep : bindTemplate t layers s
      = (evaluator { frames := [], globals := s.objects.size }).bind t.parts
          (bindingStore layers s) := rfl
  rw [hstep, bind_parts_eq_ok_iff]
  rfl

/-! ## A template with a name and a splat -/

/-- The parts of the text `$x, $(*ys)`. -/
def rowParts : List (Part Expr.Tree) :=
  [.site ⟨"x", false, .name "x"⟩, .literal ", ",
    .site ⟨"*ys", true, .tuple [.star (.name "ys")]⟩]

/-- The template of the text `$x, $(*ys)`. -/
def rowTemplate : ExprTemplate := ⟨"$x, $(*ys)", rowParts⟩

set_option maxRecDepth 2000 in
theorem templateOf_row : templateOf .standard {} "$x, $(*ys)" {} = .ok rowTemplate {} := by
  have hx : Site.read Room.standard.compile "x, $(*ys)".toList
      = .ok (⟨"x", false, .name "x"⟩, ", $(*ys)".toList) := by cbv
  have hys : Site.read Room.standard.compile "(*ys)".toList
      = .ok (⟨"*ys", true, .tuple [.star (.name "ys")]⟩, []) := by cbv
  have hcuts : Cuts {} Room.standard.compile false "$x, $(*ys)".toList
      [.site ⟨"x", false, .name "x"⟩ ['x'], .char ',', .char ' ',
        .site ⟨"*ys", true, .tuple [.star (.name "ys")]⟩ "(*ys)".toList] := by
    refine @Cuts.site _ _ _ _ ['x'] _ _ hx ?_
    refine .char (by decide) (by decide) (.char (by decide) (by decide) ?_)
    exact @Cuts.site _ _ _ _ "(*ys)".toList [] _ hys (.nil _)
  exact templateOf_eq_ok_iff.mpr ⟨scan_eq_ok_iff.mpr ⟨_, hcuts, rfl⟩, rfl, rfl⟩

/-- A value for the name and a row of two values for the splat. -/
def rowNames (v w : Val) : Names := [("x", v), ("ys", .tuple [v, w])]

theorem binds_row (v w : Val) :
    Binds rowTemplate [rowNames v w] {} [.value v, .literal ", ", .splat [v, w]]
      (bindingStore [rowNames v w] {}) := by
  have hx : (evaluator { frames := [], globals := 0 }).value (.name "x")
      (bindingStore [rowNames v w] {}) = .ok v (bindingStore [rowNames v w] {}) := by
    simp only [evaluator, Eval.engine_eval]
    rfl
  have hys : (evaluator { frames := [], globals := 0 }).value (.tuple [.star (.name "ys")])
      (bindingStore [rowNames v w] {})
        = .ok (.tuple [v, w]) (bindingStore [rowNames v w] {}) := by
    simp only [evaluator, Eval.engine_eval]
    rfl
  exact .value rfl hx (.literal (.splat rfl hys rfl (.nil _)))

end BoundSql.Template
