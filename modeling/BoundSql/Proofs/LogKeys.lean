import BoundSql.Proofs.LogReading
import BoundSql.Proofs.Reading
import BoundSql.Proofs.Sorting
set_option autoImplicit false

/-!
# The keys of dictionaries in a log

The entries of a dictionary are sorted by their keys before the keys are turned into names.  That
goes well if and only if the keys agree: all of them are texts, or all are numbers, or nothing is
the only key.  Texts are sorted code point by code point.

Sorting compares some pairs of keys, and which ones depends on the order in which it finds them.  So
that sorting fails for keys of two kinds cannot be read off a single comparison.  What is known is
that sorting links all of its elements by comparisons (`sortKeyed_uniform`), and that keys of
different kinds are never compared (`kind_eq_of_ordered`); hence a dictionary that is sorted is of
one kind (`precedes_of_sortKeyed`, `keysAgree_of_sortedEntries`).  The other direction needs that
texts and numbers can always be compared (`answers_text`, `answers_number`).

Names that are made of texts stand in the order of the texts.  It is the only order that is kept:
numbers are sorted by their values and written as their numerals.
-/

namespace BoundSql.Observe

open BoundSql.Value
open BoundSql.Eval (Keyed sortKeyed)
open BoundSql.Text (CodePoint)

/-! ## Mapping without a change of state -/

section Mapping

variable {ε σ α β : Type} {f : α → EStateM ε σ β} {s t : σ}

/-- If all elements are mapped and leave the state as it is, so is their list. -/
theorem mapM_of_forall₂ {as : List α} {bs : List β}
    (h : List.Forall₂ (fun a b => f a s = .ok b s) as bs) : as.mapM f s = .ok bs s := by
  induction h with
  | nil => rfl
  | cons hab _ ih =>
      rw [List.mapM_cons, bind_of_ok hab, bind_of_ok ih]
      rfl

/-- If a list is mapped, all of its elements are. -/
theorem exists_of_mapM {as : List α} {bs : List β}
    (keeps : ∀ a ∈ as, ∀ b t, f a s = .ok b t → t = s) (h : as.mapM f s = .ok bs t) :
    ∀ a ∈ as, ∃ b, f a s = .ok b s := by
  induction as generalizing bs t with
  | nil => nofun
  | cons a as ih =>
      obtain ⟨hkeep, hkeeps⟩ := List.forall_mem_cons.mp keeps
      rw [List.mapM_cons] at h
      obtain ⟨b, s₁, hb, hrest⟩ := bind_eq_ok_iff.mp h
      obtain rfl := hkeep b s₁ hb
      obtain ⟨bs', s₂, hbs, -⟩ := bind_eq_ok_iff.mp hrest
      exact List.forall_mem_cons.mpr ⟨⟨b, hb⟩, ih hkeeps hbs⟩

end Mapping

/-! ## Keys -/

/-- A value can be shown. -/
def HasText (s : Store) (v : Val) : Prop := ∃ text, shown v s = .ok text s

/-- The kinds of keys that can be compared with each other. -/
inductive KeyKind where
  | text | number | nothing | other
  deriving DecidableEq

/-- The kind of a key. -/
def keyKind : Val → KeyKind
  | .str _ => .text
  | .bool _ | .int _ | .float _ | .nan _ => .number
  | .none => .nothing
  | _ => .other

/-- All keys are texts. -/
def AllTexts (keys : List Val) : Prop := ∀ k ∈ keys, keyKind k = .text

/-- The keys of a dictionary can be sorted and have names: all are texts, or all are numbers, or
nothing is the only key. -/
def KeysAgree (keys : List Val) : Prop :=
  AllTexts keys ∨ (∀ k ∈ keys, keyKind k = .number) ∨ keys = [.none]

/-- The name of a key in a log. -/
def keyName : Val → Text
  | .str t => t
  | .int n => decimalText n
  | .float x => numberText x
  | .nan _ => notANumberText
  | .bool b => (if b then "true" else "false" : String)
  | .none => ("null" : String)
  | _ => []

theorem ten_le_digitBound : 10 ≤ digitBound := by
  have hlimit : 1 ≤ digitLimit := by decide
  unfold digitBound
  generalize digitLimit = k at hlimit
  exact Nat.pow_le_pow_right (by decide : 0 < 10) hlimit

/-- An integer can be shown if it does not have too many digits. -/
theorem hasText_int_iff {n : Int} {s : Store} : HasText s (.int n) ↔ n.natAbs < digitBound := by
  constructor
  · rintro ⟨text, htext⟩
    refine Nat.lt_of_not_le fun hle => ?_
    have hfails : intText n s = .error .wrongValue s := by
      rw [intText, if_pos hle]
      rfl
    cases hfails.symm.trans htext
  · intro h
    exact ⟨_, intText_of_lt h s⟩

theorem hasText_digit {n : Int} {s : Store} (h : n.natAbs < 10) : HasText s (.int n) :=
  hasText_int_iff.mpr (Nat.lt_of_lt_of_le h ten_le_digitBound)

/-- Keys that can be shown have names, unless they are of another kind. -/
theorem keyText_of_kind {k : Val} {s : Store} (hkind : keyKind k ≠ .other) (htext : HasText s k) :
    keyText k s = .ok (keyName k) s := by
  cases k with
  | int n => exact bind_of_ok (intText_of_lt (hasText_int_iff.mp htext) s) _
  | none | bool b | float x | nan m | str t => rfl
  | _ => exact absurd rfl hkind

/-- A text for a key is its name.  Keys of other kinds have none. -/
theorem keyText_eq_ok {k : Val} {s t : Store} {name : Text} (h : keyText k s = .ok name t) :
    name = keyName k ∧ keyKind k ≠ .other := by
  cases k with
  | int n =>
      obtain ⟨text, s₁, htext, h⟩ := bind_eq_ok_iff.mp h
      obtain ⟨rfl, -⟩ := pure_eq_ok_iff.mp h
      rw [intText] at htext
      split at htext
      · cases htext
      · obtain ⟨rfl, -⟩ := pure_eq_ok_iff.mp htext
        exact ⟨rfl, KeyKind.noConfusion⟩
  | none | bool b | float x | nan m | str t =>
      obtain ⟨rfl, -⟩ := pure_eq_ok_iff.mp h
      exact ⟨rfl, KeyKind.noConfusion⟩
  | _ => cases h

/-- What has the order of sets is of another kind. -/
theorem kind_of_setLike? {v : Val} {s t : Store} {x : SetLike}
    (h : setLike? v s = .ok (some x) t) : keyKind v = .other := by
  cases v with
  | none | bool b | int n | float x | nan m | str t => cases h
  | _ => rfl

/-- A number that compares with another one is not complex. -/
theorem kind_of_compare? {v w : Val} {m n : Number} {c : Option Ordering}
    (hv : asNumber? v = some m) (hw : asNumber? w = some n) (h : m.compare? n = some c) :
    keyKind v = .number ∧ keyKind w = .number := by
  cases v <;> cases hv <;> cases w <;> cases hw <;> first | exact ⟨rfl, rfl⟩ | cases h

/-- Only keys of one kind can be compared. -/
theorem kind_eq_of_ordered {o : Order} {v w : Val} {b : Bool} {s t : Store}
    (h : ordered o v w s = .ok b t) : keyKind v = keyKind w := by
  unfold ordered depthLimit orderWithin at h
  split at h
  next m n hv hw =>
    cases hc : m.compare? n with
    | none =>
        simp only [hc] at h
        cases h
    | some c =>
        obtain ⟨hkind, hkind'⟩ := kind_of_compare? hv hw hc
        rw [hkind, hkind']
  next =>
    split at h
    next => rfl
    next => rfl
    next => rfl
    next => rfl
    next =>
      obtain ⟨x, s₁, hx, h⟩ := bind_eq_ok_iff.mp h
      obtain ⟨y, s₂, hy, h⟩ := bind_eq_ok_iff.mp h
      cases x with
      | none => cases h
      | some x =>
          cases y with
          | none => cases h
          | some y => rw [kind_of_setLike? hx, kind_of_setLike? hy]

/-! ## The order of texts -/

/-- The order of lists of numbers is that of their first difference. -/
theorem lexicographic_eq_lt_iff (as bs : List Nat) : lexicographic as bs = .lt ↔ as < bs := by
  induction as generalizing bs with
  | nil => cases bs <;> simp [lexicographic]
  | cons a as ih =>
      cases bs with
      | nil => simp [lexicographic]
      | cons b bs =>
          rw [lexicographic, List.cons_lt_cons_iff]
          by_cases hab : a = b
          · simp [hab, ih]
          · simp [hab, Nat.compare_eq_lt]

theorem compareText_eq_lt_iff (t u : Text) :
    compareText t u = .lt ↔ t.map CodePoint.code < u.map CodePoint.code :=
  lexicographic_eq_lt_iff _ _

theorem code_injective : Function.Injective CodePoint.code := by
  intro p q h
  cases p with
  | char c =>
      have hc := toNat_cases c
      cases q with
      | char d => rw [Char.toNat_inj.mp h]
      | surrogate n =>
          have hn := n.isLt
          simp only [CodePoint.code, Text.firstSurrogate] at h
          omega
  | surrogate n =>
      have hn := n.isLt
      cases q with
      | char d =>
          have hd := toNat_cases d
          simp only [CodePoint.code, Text.firstSurrogate] at h
          omega
      | surrogate m =>
          have hvalue : n.val = m.val := Nat.add_left_cancel h
          rw [Fin.ext hvalue]

/-- Texts none of which precedes the other one are equal. -/
theorem eq_of_compareText {t u : Text} (htu : compareText t u ≠ .lt) (hut : compareText u t ≠ .lt) :
    t = u := by
  rw [Ne, compareText_eq_lt_iff, List.not_lt] at htu hut
  exact List.map_injective_iff.mpr code_injective (List.le_antisymm hut htu)

/-! ## Sorting keys -/

/-- A key of a kind comes before another one. -/
def textPrecedes (x y : Keyed) : Bool := compareText (keyName x.key) (keyName y.key) == .lt

theorem answers_text (s : Store) :
    Eval.Answers s (fun x => keyKind x.key = .text) textPrecedes where
  compare := by
    rintro ⟨v, _⟩ ⟨w, _⟩ hv hw
    cases v <;> cases hv
    cases w <;> cases hw
    unfold Keyed.precedes ordered depthLimit orderWithin
    rfl

theorem orders_text : Eval.Orders (fun x => keyKind x.key = .text) textPrecedes where
  asymm := by
    intro x y _ _ h
    rw [textPrecedes, beq_iff_eq, compareText_eq_lt_iff] at h
    rw [textPrecedes, beq_eq_false_iff_ne, Ne, compareText_eq_lt_iff]
    exact List.lt_asymm h
  trans := by
    intro x y z _ _ _ hxy hyz
    rw [textPrecedes, beq_eq_false_iff_ne, Ne, compareText_eq_lt_iff, List.not_lt] at hxy hyz ⊢
    exact List.le_trans hxy hyz

/-- Numbers that are not complex compare. -/
theorem exists_compare? {v w : Val} (hv : keyKind v = .number) (hw : keyKind w = .number) :
    ∃ m n c, asNumber? v = some m ∧ asNumber? w = some n ∧ m.compare? n = some c := by
  cases v <;> cases hv <;> cases w <;> cases hw <;> exact ⟨_, _, _, rfl, rfl, rfl⟩

theorem exists_ordered_numbers {v w : Val} (hv : keyKind v = .number) (hw : keyKind w = .number)
    (o : Order) (s : Store) : ∃ b, ordered o v w s = .ok b s := by
  obtain ⟨m, n, c, hm, hn, hc⟩ := exists_compare? hv hw
  unfold ordered depthLimit orderWithin
  rw [hm, hn]
  simp only [hc]
  cases c with
  | none => exact ⟨_, rfl⟩
  | some c => exact ⟨_, rfl⟩

/-- Whether a comparison says that an element comes before another one. -/
def saysPrecedes (s : Store) (x y : Keyed) : Bool :=
  match x.precedes y s with
  | .ok b _ => b
  | .error .. => false

theorem answers_number (s : Store) :
    Eval.Answers s (fun x => keyKind x.key = .number) (saysPrecedes s) where
  compare := by
    intro x y hx hy
    obtain ⟨b, hb⟩ := exists_ordered_numbers hx hy .lt s
    have hprecedes : x.precedes y s = .ok b s := hb
    rw [saysPrecedes, hprecedes]

/-- An entry of a dictionary with its key to be sorted by. -/
def keyed (e : Val × Val) : Keyed := ⟨e.1, e.2⟩

theorem kind_of_mem_keyed {vs : List (Val × Val)} {kind : KeyKind}
    (h : ∀ k ∈ vs.map (·.1), keyKind k = kind) : ∀ z ∈ vs.map keyed, keyKind z.key = kind := by
  intro z hz
  obtain ⟨e, he, rfl⟩ := List.mem_map.mp hz
  exact h e.1 (List.mem_map_of_mem he)

/-- Entries are sorted as their keys are. -/
theorem sortedEntries_of_sortKeyed {vs : List (Val × Val)} {ys : List Keyed} {s : Store}
    (h : sortKeyed (vs.map keyed) s = .ok ys s) :
    sortedEntries vs s = .ok (ys.map fun k => (k.key, k.value)) s
      ∧ (ys.map fun k => (k.key, k.value)).Perm vs := by
  refine ⟨bind_of_ok h _, ?_⟩
  have hperm := (Eval.sortKeyed_perm h).map fun k => (k.key, k.value)
  rw [List.map_map] at hperm
  exact hperm.trans (List.Perm.of_eq (List.map_id _))

/-- Keys that agree can be sorted. -/
theorem sortedEntries_of_agree {vs : List (Val × Val)} (agree : KeysAgree (vs.map (·.1)))
    (s : Store) :
    ∃ sorted, sortedEntries vs s = .ok sorted s ∧ sorted.Perm vs ∧
      (AllTexts (vs.map (·.1)) →
        sorted.Pairwise fun x y => compareText (keyName y.1) (keyName x.1) ≠ .lt) := by
  rcases agree with htext | hnumber | hnothing
  · obtain ⟨ys, hys, hin⟩ := Eval.sortKeyed_answers (answers_text s) (kind_of_mem_keyed htext)
    obtain ⟨hok, hperm⟩ := sortedEntries_of_sortKeyed hys
    refine ⟨_, hok, hperm, fun _ => List.pairwise_map.mpr ((hin orders_text).imp ?_)⟩
    intro x y hxy
    exact beq_eq_false_iff_ne.mp hxy
  · obtain ⟨ys, hys, -⟩ := Eval.sortKeyed_answers (answers_number s) (kind_of_mem_keyed hnumber)
    obtain ⟨hok, hperm⟩ := sortedEntries_of_sortKeyed hys
    refine ⟨_, hok, hperm, fun htext => ?_⟩
    have hempty : vs = [] := by
      refine List.eq_nil_iff_forall_not_mem.mpr fun e he => ?_
      have he := List.mem_map_of_mem (f := (·.1)) he
      cases (htext e.1 he).symm.trans (hnumber e.1 he)
    rw [hempty] at hperm
    rw [hperm.eq_nil]
    exact .nil
  · obtain ⟨⟨k, v⟩, rfl, hk⟩ := List.map_eq_singleton_iff.mp hnothing
    exact ⟨[(k, v)], rfl, .refl _, fun _ => List.pairwise_singleton _ _⟩

/-- To sort two elements and more, the first two are compared. -/
theorem precedes_of_sortKeyed {x y : Keyed} {rest ys : List Keyed} {s t : Store}
    (h : sortKeyed (x :: y :: rest) s = .ok ys t) : ∃ b s', y.precedes x s = .ok b s' := by
  obtain ⟨runs, s₁, hruns, -⟩ := bind_eq_ok_iff.mp h
  obtain ⟨run, s₂, hrun, -⟩ := bind_eq_ok_iff.mp hruns
  obtain ⟨b, s₃, hb, -⟩ := bind_eq_ok_iff.mp hrun
  exact ⟨b, s₃, hb⟩

/-- Nothing does not compare with itself. -/
theorem ordered_none_none (s : Store) : ordered .lt .none .none s = .error .wrongType s := by
  unfold ordered depthLimit orderWithin
  rfl

/-- Keys that are all nothing are sorted only if there is but one of them. -/
theorem eq_singleton_of_sortKeyed {e : Val × Val} {vs : List (Val × Val)} {ys : List Keyed}
    {s t : Store} (h : sortKeyed ((e :: vs).map keyed) s = .ok ys t)
    (nothing : ∀ k ∈ (e :: vs).map (·.1), keyKind k = .nothing) :
    (e :: vs).map (·.1) = [.none] := by
  have hnone : ∀ k ∈ (e :: vs).map (·.1), k = .none := by
    intro k hk
    have hk := nothing k hk
    cases k <;> first | rfl | cases hk
  cases vs with
  | nil => rw [List.map_singleton, hnone e.1 (by simp)]
  | cons f vs =>
      obtain ⟨b, s', hb⟩ := precedes_of_sortKeyed h
      have hfails : (keyed f).precedes (keyed e) s = .error .wrongType s := by
        rw [Keyed.precedes, keyed, keyed, hnone e.1 (by simp), hnone f.1 (by simp)]
        exact ordered_none_none s
      cases hfails.symm.trans hb

/-- If keys are sorted and have names, they agree. -/
theorem keysAgree_of_sortedEntries {vs sorted : List (Val × Val)} {s t : Store}
    (h : sortedEntries vs s = .ok sorted t) (names : ∀ e rest, sorted = e :: rest →
      keyKind e.1 ≠ .other) : KeysAgree (vs.map (·.1)) := by
  obtain ⟨ys, s₁, hys, hpure⟩ := bind_eq_ok_iff.mp h
  obtain ⟨rfl, -⟩ := pure_eq_ok_iff.mp hpure
  have huniform : Eval.Uniform (fun x => keyKind x.key) (vs.map keyed) :=
    Eval.sortKeyed_uniform (fun h => kind_eq_of_ordered h) hys
  have hperm : ys.Perm (vs.map keyed) := Eval.sortKeyed_perm hys
  cases vs with
  | nil => exact .inl nofun
  | cons e vs =>
      have hkinds : ∀ k ∈ (e :: vs).map (·.1), keyKind k = keyKind e.1 := by
        intro k hk
        obtain ⟨f, hf, rfl⟩ := List.mem_map.mp hk
        exact huniform _ (List.mem_map_of_mem hf) _ (List.mem_map_of_mem List.mem_cons_self)
      have hother : keyKind e.1 ≠ .other := by
        cases ys with
        | nil => cases hperm.symm.eq_nil
        | cons y ys =>
            have hy : y ∈ (e :: vs).map keyed := hperm.mem_iff.mp List.mem_cons_self
            have hkind : keyKind y.key = keyKind e.1 :=
              huniform _ hy _ (List.mem_map_of_mem List.mem_cons_self)
            rw [← hkind]
            exact names _ _ rfl
      cases hkind : keyKind e.1 with
      | other => exact absurd hkind hother
      | text => exact .inl fun k hk => (hkinds k hk).trans hkind
      | number => exact .inr (.inl fun k hk => (hkinds k hk).trans hkind)
      | nothing => exact .inr (.inr (eq_singleton_of_sortKeyed hys fun k hk =>
          (hkinds k hk).trans hkind))

/-! ## Members -/

theorem KeysAgree.kind_ne_other {keys : List Val} (agree : KeysAgree keys) {k : Val}
    (hk : k ∈ keys) : keyKind k ≠ .other := by
  rcases agree with htext | hnumber | rfl
  · rw [htext k hk]
    exact KeyKind.noConfusion
  · rw [hnumber k hk]
    exact KeyKind.noConfusion
  · rw [List.mem_singleton.mp hk]
    exact KeyKind.noConfusion

/-- The member that an entry of a dictionary becomes. -/
structure BecomesMember (tree : Val → Eval LogTree) (s : Store) (e : Val × Val)
    (m : Text × LogTree) : Prop where
  name : keyText e.1 s = .ok m.1 s
  value : tree e.2 s = .ok m.2 s

/-- Names are in the order of texts. -/
def NamesInOrder (names : List Text) : Prop := names.Pairwise fun t u => compareText u t ≠ .lt

section Members

variable {tree : Val → Eval LogTree} {s t : Store} {vs : List (Val × Val)}
  {ms : List (Text × LogTree)}

/-- The names of members are those of the keys. -/
theorem names_of_becomesMember (h : List.Forall₂ (BecomesMember tree s) vs ms) :
    ms.map (·.1) = vs.map fun e => keyName e.1 := by
  induction h with
  | nil => rfl
  | cons hm _ ih => rw [List.map_cons, List.map_cons, ih, (keyText_eq_ok hm.name).1]

/-- If the keys of a dictionary agree and its values are logged, so is the dictionary. -/
theorem membersOf_of_agree (agree : KeysAgree (vs.map (·.1)))
    (members : List.Forall₂ (BecomesMember tree s) vs ms) :
    ∃ sorted, membersOf tree vs s = .ok sorted s ∧ sorted.Perm ms ∧
      (AllTexts (vs.map (·.1)) → NamesInOrder (sorted.map (·.1))) := by
  obtain ⟨es, hes, hperm, horder⟩ := sortedEntries_of_agree agree s
  obtain ⟨sorted, hmembers, hsorted⟩ := List.perm_comp_forall₂ hperm members
  have hmapped : List.Forall₂ (fun e m => (do
      let name ← keyText e.1
      pure (name, ← tree e.2) : Eval (Text × LogTree)) s = .ok m s) es sorted := by
    refine hmembers.imp fun e m hm => ?_
    rw [bind_of_ok hm.name, bind_of_ok hm.value]
    rfl
  refine ⟨sorted, (bind_of_ok hes _).trans (mapM_of_forall₂ hmapped), hsorted, fun htext => ?_⟩
  rw [names_of_becomesMember hmembers]
  exact List.pairwise_map.mpr (horder htext)

/-- If a dictionary is logged, its keys agree, and its values are logged. -/
theorem agree_of_membersOf (texts : ∀ e ∈ vs, HasText s e.1)
    (keeps : ∀ e ∈ vs, ∀ tr s', tree e.2 s = .ok tr s' → s' = s)
    (h : membersOf tree vs s = .ok ms t) :
    KeysAgree (vs.map (·.1)) ∧ ∀ e ∈ vs, ∃ tr, tree e.2 s = .ok tr s := by
  obtain ⟨es, s₁, hes, hmapped⟩ := bind_eq_ok_iff.mp h
  have agree : KeysAgree (vs.map (·.1)) := by
    refine keysAgree_of_sortedEntries hes fun e rest heq => ?_
    subst heq
    rw [List.mapM_cons] at hmapped
    obtain ⟨m, s₂, hm, -⟩ := bind_eq_ok_iff.mp hmapped
    obtain ⟨name, s₃, hname, -⟩ := bind_eq_ok_iff.mp hm
    exact (keyText_eq_ok hname).2
  obtain ⟨es', hes', hperm, -⟩ := sortedEntries_of_agree agree s
  obtain ⟨rfl, rfl⟩ := EStateM.Result.ok.inj (hes.symm.trans hes')
  have hnamed : ∀ e ∈ vs, keyText e.1 s₁ = .ok (keyName e.1) s₁ := fun e he =>
    keyText_of_kind (agree.kind_ne_other (List.mem_map_of_mem he)) (texts e he)
  have htree : ∀ e ∈ vs, ∀ m s', (do
      let name ← keyText e.1
      pure (name, ← tree e.2) : Eval (Text × LogTree)) s₁ = .ok m s' →
        tree e.2 s₁ = .ok m.2 s₁ ∧ s' = s₁ := by
    intro e he m s' hm
    rw [bind_of_ok (hnamed e he)] at hm
    obtain ⟨tr, s₂, htr, hpure⟩ := bind_eq_ok_iff.mp hm
    obtain ⟨rfl, rfl⟩ := pure_eq_ok_iff.mp hpure
    have heq := keeps e he tr s₂ htr
    exact ⟨heq ▸ htr, heq⟩
  refine ⟨agree, fun e he => ?_⟩
  obtain ⟨m, hm⟩ := exists_of_mapM (fun e he m s' hm => (htree e (hperm.mem_iff.mp he) m s' hm).2)
    hmapped e (hperm.mem_iff.mpr he)
  exact ⟨m.2, (htree e he m s₁ hm).1⟩

end Members

end BoundSql.Observe
