import BoundSql.Proofs.Repeating
set_option autoImplicit false

/-!
# Expressions that mean a value

Some expressions come to one value in every state in which the names of a binding have their values,
and leave the state as they find it.  Such an expression means that value.  Its value is found, and
nothing is made on the way, so a site with it is repeatable: evaluating it again, later or
elsewhere, comes to the same (`Means.repeatable`).

What an expression means is built up from what its parts mean, one lemma for each kind of
expression: constants, names, tuples, attributes, subscripts, operators with one operand or two,
comparisons, conjunctions, disjunctions and conditionals.  Where an expression does something to the
values of its parts, reading an attribute of one or adding two of them, that has to be steady: to
come to the same in every state that goes on from a given one, and to change nothing.  Steadiness is
a matter of values alone and is settled first, for records, rows, dictionaries with texts as keys,
and integers.

Calls are left out, since a function may do anything, and so are displays of lists, sets and
dictionaries, since each evaluation makes another object.
-/

namespace BoundSql.Value

open BoundSql.Expr (BinaryOp UnaryOp)

/-! ## Steady computations -/

/-- A computation comes to the same in every state that goes on from `base`, and changes nothing. -/
def Steady {α : Type} (base : Store) (x : Eval α) (a : α) : Prop :=
  ∀ s : Store, base.Extends s → x s = .ok a s

variable {base : Store} {α β : Type}

theorem steady_pure (a : α) : Steady base (pure a) a := fun _ _ => rfl

theorem Steady.bind {x : Eval α} {f : α → Eval β} {a : α} {b : β} (first : Steady base x a)
    (others : Steady base (f a) b) : Steady base (x >>= f) b := by
  intro s extended
  exact (bind_of_ok (first s extended) f).trans (others s extended)

/-- An object that is there stays there. -/
theorem steady_load {address : Nat} {o : Obj} (h : base.objects[address]? = some o) :
    Steady base (Eval.load address) o :=
  fun _ extended => load_of_object (extended.objects address o h)

/-! ### Reading parts of values -/

theorem steady_readAttribute {v w : Val} {field : String}
    (h : Steady base (field? v field) (some w)) : Steady base (readAttribute v field) w :=
  h.bind (steady_pure w)

/-- The fields of a record are its attributes. -/
theorem steady_readAttribute_record {address : Nat} {fields : List (String × Val)} {field : String}
    {w : Val} (h : base.objects[address]? = some (.record fields)) (table : field ≠ "__dict__")
    (ofClass : field ≠ "__class__") (lookup : fields.lookup field = some w) :
    Steady base (readAttribute (.object address) field) w := by
  refine steady_readAttribute ((steady_load h).bind ?_)
  split <;> simp_all [steady_pure]

theorem steady_readRow {items : List α} {index : Val} {one : α → Val} {many : List α → Eval Val}
    {i : Int} {a : α} (whole : asInt? index = some i)
    (there : (place? items.length i).bind (items[·]?) = some a) :
    Steady base (readRow items index one many) (one a) := by
  unfold readRow
  split
  · cases whole
  · rw [whole]
    refine (steady_pure i).bind ?_
    rw [there]
    exact steady_pure (one a)

theorem steady_readItem_tuple {items : List Val} {index : Val} {i : Int} {w : Val}
    (whole : asInt? index = some i) (there : (place? items.length i).bind (items[·]?) = some w) :
    Steady base (readItem (.tuple items) index) w := by
  show Steady base (readRow items index id fun vs => pure (.tuple vs)) (id w)
  exact steady_readRow whole there

theorem steady_readItem_list {address : Nat} {items : Array Val} {index : Val} {i : Int} {w : Val}
    (h : base.objects[address]? = some (.list items)) (whole : asInt? index = some i)
    (there : (place? items.toList.length i).bind (items.toList[·]?) = some w) :
    Steady base (readItem (.object address) index) w :=
  (steady_load h).bind (steady_readRow whole there)

/-- The search for a text goes past the entries in front that have other texts as keys. -/
theorem steady_findKey_go {entries : Entries} {key : Text} {p : Val → Eval Bool} {i : Nat} {w : Val}
    (there : entries[i]? = some (.str key, w))
    (others : ∀ j < i, ∃ other v, entries[j]? = some (.str other, v) ∧ other ≠ key) {left : Nat}
    (hleft : entries.size - i ≤ left) (hsize : left ≤ entries.size) :
    Steady base (findKey.go (.str key) p entries left) (some (i, w)) := by
  have hi : i < entries.size := (Array.getElem?_eq_some_iff.mp there).1
  induction left with
  | zero => omega
  | succ left ih =>
      rw [findKey.go]
      by_cases hat : entries.size - (left + 1) = i
      · rw [hat]
        simp only [there, equalAtOnce?, beq_self_eq_true]
        exact steady_pure _
      · obtain ⟨other, v, hother, hne⟩ := others (entries.size - (left + 1)) (by omega)
        simp only [hother, equalAtOnce?, beq_false_of_ne hne]
        exact ih (by omega) (by omega)

/-- A dictionary is read by a text if the keys in front of it are other texts. -/
theorem steady_readItem_dict {address : Nat} {entries : Entries} {key : Text} {i : Nat} {w : Val}
    (h : base.objects[address]? = some (.dict entries)) (there : entries[i]? = some (.str key, w))
    (others : ∀ j < i, ∃ other v, entries[j]? = some (.str other, v) ∧ other ≠ key) :
    Steady base (readItem (.object address) (.str key)) w := by
  have hkey : Steady base (requireKey (.str key)) () := fun _ _ => rfl
  have hlookup : Steady base (lookupEntry entries (.str key)) (some (i, w)) :=
    hkey.bind (steady_findKey_go there others (Nat.sub_le _ _) (Nat.le_refl _))
  exact (steady_load h).bind (hlookup.bind (steady_pure w))

/-! ### Operations on integers -/

theorem steady_applyUnary_int (op : UnaryOp) (n : Int) :
    Steady base (applyUnary op (.int n)) (.int (match op with
      | .negate => -n
      | .plus => n
      | .invert => complement n)) := by
  cases op <;> exact fun _ _ => rfl

/-- An operation on integers that has an integer as its result is steady. -/
theorem steady_applyBinary_int {op : BinaryOp} {m n k : Int} (quotient : op ≠ .div)
    (power : op ≠ .pow) (h : Steady base (intOp op m n) k) :
    Steady base (applyBinary op (.int m) (.int n)) (.int k) := by
  have hnumber : Steady base (numberOp op (.int m) (.int n)) (.int k) := by
    have hstep : numberOp op (.int m) (.int n) = (do pure (.int (← intOp op m n))) := by
      cases op with
      | div => exact absurd rfl quotient
      | pow => exact absurd rfl power
      | _ => rfl
    rw [hstep]
    exact h.bind (steady_pure _)
  exact hnumber.bind (steady_pure _)

end BoundSql.Value

namespace BoundSql.Template

open BoundSql.Expr (BinaryOp Comparison CompareOp Constant Tree UnaryOp)
open BoundSql.Value (Env Eval Steady Store Val)

variable {base : Store} {names : Names} {n : Nat} {α β : Type}

/-! ## What comes of computations over a namespace -/

/-- What a computation comes to wherever the names of a binding have their values, outside of
functions; it changes nothing. -/
def Comes (base : Store) (names : Names) (x : Env → Eval α) (a : α) : Prop :=
  ∀ (s : Store) (env : Env), Sees base names s env.globals → env.frames = [] → x env s = .ok a s

theorem Comes.bind {x : Env → Eval α} {f : Env → α → Eval β} {a : α} {b : β}
    (first : Comes base names x a) (others : Comes base names (f · a) b) :
    Comes base names (fun env => x env >>= f env) b := by
  intro s env sees outside
  exact (bind_of_ok (first s env sees outside) (f env)).trans (others s env sees outside)

theorem Comes.of_steady {x : Eval α} {a : α} (h : Steady base x a) :
    Comes base names (fun _ => x) a :=
  fun s _ sees _ => h s sees.goesOn

theorem comes_pure (a : α) : Comes base names (fun _ => pure a) a :=
  .of_steady (Value.steady_pure a)

/-- An expression means a value over a namespace, within some levels of evaluation. -/
def Means (base : Store) (names : Names) (n : Nat) (t : Tree) (v : Val) : Prop :=
  Comes base names (fun env => (Eval.engineOf n).eval env t) v

/-- Items of a tuple mean a row of values; a star stands for the items of its tuple. -/
def MeansItems (base : Store) (names : Names) (n : Nat) (ts : List Tree) (vs : List Val) : Prop :=
  Comes base names (fun env => Eval.itemValues (Eval.engineOf n) env ts) vs

/-- Whether the rest of a chain of comparisons holds, behind the value of its last operand. -/
def MeansChain (base : Store) (names : Names) (n : Nat) (v : Val) (cs : List Comparison)
    (b : Bool) : Prop :=
  Comes base names (fun env => Eval.chainHolds (Eval.engineOf n) env v cs) b

/-- What operands mean of which the first one that counts as `decisive` decides. -/
def MeansDeciding (base : Store) (names : Names) (n : Nat) (decisive : Bool) (ts : List Tree)
    (v : Val) : Prop :=
  Comes base names (fun env => Eval.firstDeciding (Eval.engineOf n) env decisive ts) v

namespace Means

variable {t l r : Tree} {v w u : Val}

theorem const (c : Constant) : Means base names (n + 1) (.const c) (Eval.constantValue c) :=
  comes_pure _

theorem name {id : String} (other : id ≠ "frag") (named : id ≠ Eval.debugName)
    (lookup : (layered [names]).lookup id = some v) : Means base names (n + 1) (.name id) v := by
  intro s env sees outside
  obtain ⟨f, hframe, hlookup⟩ := sees.exists_lookup other lookup
  exact eval_name outside hframe named hlookup

theorem tuple {ts : List Tree} {vs : List Val} (items : MeansItems base names n ts vs) :
    Means base names (n + 1) (.tuple ts) (.tuple vs) :=
  Comes.bind (f := fun _ vs => pure (Val.tuple vs)) items (comes_pure _)

theorem attributeOf {field : String} (object : Means base names n t v)
    (reads : Steady base (Value.readAttribute v field) w) :
    Means base names (n + 1) (.attribute t field) w :=
  Comes.bind (f := fun _ v => Value.readAttribute v field) object (.of_steady reads)

theorem subscript (object : Means base names n l v) (index : Means base names n r w)
    (reads : Steady base (Value.readItem v w) u) :
    Means base names (n + 1) (.subscript l r) u :=
  Comes.bind object (Comes.bind index (.of_steady reads))

theorem unary {op : UnaryOp} (operand : Means base names n t v)
    (applies : Steady base (Value.applyUnary op v) w) :
    Means base names (n + 1) (.unary op t) w :=
  Comes.bind (f := fun _ v => Value.applyUnary op v) operand (.of_steady applies)

theorem not {b : Bool} (operand : Means base names n t v) (counts : Steady base (Value.truth v) b) :
    Means base names (n + 1) (.not t) (.bool !b) :=
  Comes.bind operand
    (Comes.bind (f := fun _ b => pure (Val.bool !b)) (.of_steady counts) (comes_pure _))

/-- A text literal in front of a row of items is no operand but a pattern, and is left out. -/
theorem binary {op : BinaryOp} (plain : Eval.patternOf? op l r = none)
    (left : Means base names n l v) (right : Means base names n r w)
    (applies : Steady base (Eval.binaryValue (Eval.engineOf n) op v w) u) :
    Means base names (n + 1) (.binary op l r) u := by
  have hboth : Comes base names (fun env => do
      let v ← (Eval.engineOf n).eval env l
      Eval.binaryValue (Eval.engineOf n) op v (← (Eval.engineOf n).eval env r)) u :=
    Comes.bind left (Comes.bind right (.of_steady applies))
  intro s env sees outside
  have hstep : (Eval.engineOf (n + 1)).eval env (.binary op l r) = (do
      let v ← (Eval.engineOf n).eval env l
      Eval.binaryValue (Eval.engineOf n) op v (← (Eval.engineOf n).eval env r)) := by
    show Eval.evaluate (Eval.engineOf n) env (.binary op l r) = _
    rw [Eval.evaluate, plain]
  exact (congrFun hstep s).trans (hboth s env sees outside)

theorem compare {cs : List Comparison} {b : Bool} (first : Means base names n t v)
    (chain : MeansChain base names n v cs b) : Means base names (n + 1) (.compare t cs) (.bool b) :=
  Comes.bind first (Comes.bind (f := fun _ b => pure (Val.bool b)) chain (comes_pure _))

theorem conjunction {ts : List Tree} (operands : MeansDeciding base names n false ts v) :
    Means base names (n + 1) (.conjunction ts) v := operands

theorem disjunction {ts : List Tree} (operands : MeansDeciding base names n true ts v) :
    Means base names (n + 1) (.disjunction ts) v := operands

/-- Only the branch that is taken has to mean something. -/
theorem conditional {b : Bool} (test : Means base names n t v)
    (counts : Steady base (Value.truth v) b) (branch : Means base names n (if b then l else r) w) :
    Means base names (n + 1) (.conditional t l r) w := by
  refine Comes.bind test (Comes.bind (.of_steady counts) ?_)
  cases b with
  | true => exact branch
  | false => exact branch

/-- A star means nothing by itself. -/
theorem not_star {s : Store} {env : Env} (sees : Sees base names s env.globals)
    (outside : env.frames = []) : ¬ Means base names n (.star t) v := by
  intro h
  have heval := h s env sees outside
  cases n with
  | zero => cases heval
  | succ n => cases heval

end Means

/-! ### Operators on two values -/

/-- Unless one of two values is a view of a dictionary, an operation on them is a matter of values.
-/
theorem steady_binaryValue {e : Eval.Engine} {op : BinaryOp} {v w u : Val}
    (left : Eval.isSetView v = false) (right : Eval.isSetView w = false)
    (h : Steady base (Value.applyBinary op v w) u) :
    Steady base (Eval.binaryValue e op v w) u := by
  rw [Eval.binaryValue, left, right]
  exact h

/-! ### Items of tuples -/

section Items

variable {e : Eval.Engine} {env : Env} {s : Store} {t : Tree}

theorem itemValues_cons {ts : List Tree} {ws vs : List Val}
    (first : Eval.itemValues e env [t] s = .ok ws s)
    (others : Eval.itemValues e env ts s = .ok vs s) :
    Eval.itemValues e env (t :: ts) s = .ok (ws ++ vs) s := by
  rw [Eval.itemValues, bind_eq_ok_iff] at first others ⊢
  obtain ⟨groups, s₁, hfirst, hws⟩ := first
  obtain ⟨groups', s₂, hothers, hvs⟩ := others
  rw [List.mapM_cons, List.mapM_nil, bind_eq_ok_iff] at hfirst
  obtain ⟨group, s₃, hgroup, hfirst⟩ := hfirst
  obtain ⟨rfl, rfl⟩ := pure_eq_ok_iff.mp hfirst
  obtain ⟨rfl, rfl⟩ := pure_eq_ok_iff.mp hws
  obtain ⟨rfl, rfl⟩ := pure_eq_ok_iff.mp hvs
  refine ⟨group :: groups', s₂, ?_, ?_⟩
  · rw [List.mapM_cons, bind_eq_ok_iff]
    refine ⟨group, s₂, hgroup, ?_⟩
    rw [bind_eq_ok_iff]
    exact ⟨groups', s₂, hothers, rfl⟩
  · rw [List.flatten_cons, List.flatten_cons, List.flatten_nil, List.append_nil]
    rfl

theorem itemValues_star {ws : List Val} (h : e.eval env t s = .ok (.tuple ws) s) :
    Eval.itemValues e env [.star t] s = .ok ws s := by
  have hgroup : (do e.elements (← e.eval env t)) s = .ok ws s := by
    rw [bind_eq_ok_iff]
    exact ⟨_, s, h, rfl⟩
  rw [Eval.itemValues, List.mapM_cons, List.mapM_nil]
  simp only [bind_eq_ok_iff, pure_eq_ok_iff]
  refine ⟨[ws], s, ⟨ws, s, bind_eq_ok_iff.mp hgroup, [], s, ⟨rfl, rfl⟩, rfl, rfl⟩, ?_, rfl⟩
  rw [List.flatten_singleton]

theorem itemValues_plain {v : Val} (plain : ∀ u, t ≠ .star u) (h : e.eval env t s = .ok v s) :
    Eval.itemValues e env [t] s = .ok [v] s := by
  rw [Eval.itemValues, List.mapM_cons, List.mapM_nil, bind_eq_ok_iff]
  refine ⟨[[v]], s, ?_, rfl⟩
  rw [bind_eq_ok_iff]
  refine ⟨[v], s, ?_, rfl⟩
  split
  · rename_i u
    exact absurd rfl (plain u)
  · rw [bind_eq_ok_iff]
    exact ⟨v, s, h, rfl⟩

end Items

namespace MeansItems

variable {t : Tree} {ts : List Tree} {v : Val} {ws vs : List Val}

theorem nil : MeansItems base names n [] [] := comes_pure []

theorem item (first : Means base names n t v) (others : MeansItems base names n ts vs) :
    MeansItems base names n (t :: ts) (v :: vs) := by
  intro s env sees outside
  have hplain : ∀ u, t ≠ .star u := by
    rintro u rfl
    exact Means.not_star sees outside first
  exact itemValues_cons (itemValues_plain hplain (first s env sees outside))
    (others s env sees outside)

theorem star (first : Means base names n t (.tuple ws)) (others : MeansItems base names n ts vs) :
    MeansItems base names n (.star t :: ts) (ws ++ vs) := by
  intro s env sees outside
  exact itemValues_cons (itemValues_star (first s env sees outside)) (others s env sees outside)

end MeansItems

/-! ### Chains of comparisons -/

namespace MeansChain

variable {v w : Val} {op : CompareOp} {t : Tree} {cs : List Comparison}

theorem nil : MeansChain base names n v [] true := comes_pure true

/-- What stands behind a comparison that fails need not mean anything. -/
theorem fails (operand : Means base names n t w)
    (compares : Steady base (Eval.compareValues (Eval.engineOf n) op v w) false) :
    MeansChain base names n v (.mk op t :: cs) false :=
  Comes.bind operand (Comes.bind (.of_steady compares) (comes_pure false))

theorem holds {b : Bool} (operand : Means base names n t w)
    (compares : Steady base (Eval.compareValues (Eval.engineOf n) op v w) true)
    (others : MeansChain base names n w cs b) : MeansChain base names n v (.mk op t :: cs) b :=
  Comes.bind operand (Comes.bind (.of_steady compares) others)

end MeansChain

/-! ### Conjunctions and disjunctions -/

namespace MeansDeciding

variable {decisive : Bool} {t t' : Tree} {ts : List Tree} {v w : Val}

/-- The last operand decides, whatever it counts as. -/
theorem last (operand : Means base names n t v) : MeansDeciding base names n decisive [t] v :=
  operand

/-- What stands behind an operand that decides need not mean anything. -/
theorem decides (operand : Means base names n t v)
    (counts : Steady base (Value.truth v) decisive) :
    MeansDeciding base names n decisive (t :: t' :: ts) v := by
  refine Comes.bind operand (Comes.bind (.of_steady counts) ?_)
  rw [beq_self_eq_true]
  exact comes_pure v

theorem goesOn (operand : Means base names n t v)
    (counts : Steady base (Value.truth v) (!decisive))
    (others : MeansDeciding base names n decisive (t' :: ts) w) :
    MeansDeciding base names n decisive (t :: t' :: ts) w := by
  refine Comes.bind operand (Comes.bind (.of_steady counts) ?_)
  rw [Bool.not_beq_self]
  exact others

end MeansDeciding

/-! ## Sites that are repeatable -/

/-- In a state with the names of the binding, a site has the value that its expression means. -/
theorem Means.value_eq {t : Tree} {v : Val} (h : Means base names Eval.levelLimit t v) {s : Store}
    {globals : Nat} (sees : Sees base names s globals) :
    (evaluator { frames := [], globals }).value t s = .ok v s := by
  obtain ⟨layers, -, hframe⟩ := sees.frame
  refine value_of_eval hframe fun env outside hglobals => ?_
  rw [← hglobals] at sees
  exact h s env sees outside

theorem Means.repeatable {t : Tree} {v : Val} (h : Means base names Eval.levelLimit t v)
    (source : String) : Repeatable .same base names ⟨source, false, t⟩ :=
  repeatable_of_steady (.value v) fun sees => .value rfl (h.value_eq sees) (.nil _)

theorem Means.repeatable_splat {t : Tree} {vs : List Val}
    (h : Means base names Eval.levelLimit t (.tuple vs)) (source : String) :
    Repeatable .same base names ⟨source, true, t⟩ :=
  repeatable_of_steady (.splat vs) fun sees => .splat rfl (h.value_eq sees) rfl (.nil _)

section Accesses

variable {id : String} {address : Nat} {v w : Val}

/-- An attribute of a record that a name stands for. -/
theorem repeatable_attribute {field : String} {fields : List (String × Val)} (other : id ≠ "frag")
    (named : id ≠ Eval.debugName) (lookup : (layered [names]).lookup id = some (.object address))
    (there : base.objects[address]? = some (.record fields)) (table : field ≠ "__dict__")
    (ofClass : field ≠ "__class__") (value : fields.lookup field = some v) (source : String) :
    Repeatable .same base names ⟨source, false, .attribute (.name id) field⟩ :=
  Means.repeatable (.attributeOf (.name other named lookup)
    (Value.steady_readAttribute_record there table ofClass value)) source

/-- The entry of a text in a dictionary that a name stands for. -/
theorem repeatable_entry {key : Text} {entries : Value.Entries} {i : Nat} (other : id ≠ "frag")
    (named : id ≠ Eval.debugName) (lookup : (layered [names]).lookup id = some (.object address))
    (there : base.objects[address]? = some (.dict entries))
    (entry : entries[i]? = some (.str key, v))
    (others : ∀ j < i, ∃ other v, entries[j]? = some (.str other, v) ∧ other ≠ key)
    (source : String) :
    Repeatable .same base names ⟨source, false, .subscript (.name id) (.const (.str key))⟩ :=
  Means.repeatable (.subscript (.name other named lookup) (.const (.str key))
    (Value.steady_readItem_dict there entry others)) source

/-- A sum of two integers that names stand for. -/
theorem repeatable_sum {id' : String} {m n : Int} (other : id ≠ "frag")
    (named : id ≠ Eval.debugName) (lookup : (layered [names]).lookup id = some (.int m))
    (other' : id' ≠ "frag") (named' : id' ≠ Eval.debugName)
    (lookup' : (layered [names]).lookup id' = some (.int n)) (source : String) :
    Repeatable .same base names ⟨source, false, .binary .add (.name id) (.name id')⟩ :=
  Means.repeatable (.binary rfl (.name other named lookup) (.name other' named' lookup')
    (steady_binaryValue rfl rfl (Value.steady_applyBinary_int (by decide) (by decide)
      (Value.steady_pure (m + n))))) source

end Accesses

end BoundSql.Template
