import BoundSql.Proofs.LogKeys
import BoundSql.Proofs.LogReading
set_option autoImplicit false

/-!
# What can be logged

The values that a log is given, as trees of data.  A value is logged if and only if it is not nested
too deeply and the keys of each of its dictionaries agree.  What is written then says of each part
of the value what it is.

Values live in a store, where a list may have been put into itself, so that nothing can be shown by
induction on a value.  `Data` is what a value looks like that does end, and `Data.Of` says that a
value in a store looks like that.  Data is nested through lists of items and of entries;
`Data.induct` is the induction for it, with hypotheses about all items, and the relations that are
defined by recursion over the nesting are told as relations of all items at once (`itemsOf_iff`,
`entriesWritten_iff` and the like), so that no proof needs to go through the lists.

`exists_treeWithin` finds the tree of data that is sortable and not too deep, and `onlyLoggable`
says that nothing else has one.  Numbers are numerals except for the floating point numbers that are
not finite (`Written.numerals_iff`), which decides whether the line is JSON.
-/

namespace BoundSql.Observe

open BoundSql.Value
open BoundSql.Eval (load_of_getElem?)

/-! ## Lists that go along with each other -/

section Along

variable {α β γ : Type} {R : α → β → Prop} {as : List α} {bs : List β}

theorem exists_left_of_forall₂ (h : List.Forall₂ R as bs) : ∀ b ∈ bs, ∃ a ∈ as, R a b := by
  induction h with
  | nil => simp
  | @cons a b as bs hab hrest ih =>
      intro b' hb'
      rcases List.mem_cons.mp hb' with rfl | hb'
      · exact ⟨a, List.mem_cons_self, hab⟩
      · obtain ⟨a', ha', hab'⟩ := ih b' hb'
        exact ⟨a', List.mem_cons_of_mem a ha', hab'⟩

theorem exists_right_of_forall₂ (h : List.Forall₂ R as bs) : ∀ a ∈ as, ∃ b ∈ bs, R a b :=
  exists_left_of_forall₂ h.flip

/-- Where related elements have something that goes along with both of them, related lists have a
list that goes along with both of them. -/
theorem exists_forall₂_between {Q : β → γ → Prop} {W : α → γ → Prop} (h : List.Forall₂ R as bs)
    (each : ∀ a ∈ as, ∀ b, R a b → ∃ c, Q b c ∧ W a c) :
    ∃ cs, List.Forall₂ Q bs cs ∧ List.Forall₂ W as cs := by
  induction h with
  | nil => exact ⟨[], .nil, .nil⟩
  | @cons a b as bs hab hrest ih =>
      obtain ⟨c, hq, hw⟩ := each a List.mem_cons_self b hab
      obtain ⟨cs, hqs, hws⟩ := ih fun a' ha' => each a' (List.mem_cons_of_mem a ha')
      exact ⟨c :: cs, .cons hq hqs, .cons hw hws⟩

/-- Lists that go along with lists that go along with each other are equal, if their elements are.
-/
theorem eq_of_forall₂ {S : α → γ → Prop} {T : β → γ → Prop} {cs cs' : List γ}
    (h : List.Forall₂ R as bs) (hcs : List.Forall₂ S as cs) (hcs' : List.Forall₂ T bs cs')
    (each : ∀ a ∈ as, ∀ b c c', R a b → S a c → T b c' → c = c') : cs = cs' := by
  induction h generalizing cs cs' with
  | nil =>
      cases hcs
      cases hcs'
      rfl
  | @cons a b as bs hab hrest ih =>
      cases hcs with
      | @cons _ c _ cs hc hcs =>
          cases hcs' with
          | @cons _ c' _ cs' hc' hcs' =>
              rw [each a List.mem_cons_self b c c' hab hc hc']
              rw [ih hcs hcs' fun a' ha' => each a' (List.mem_cons_of_mem a ha')]

end Along

/-! ## Data -/

/-- A value as a log sees it. -/
inductive Data where
  | none
  | bool (b : Bool)
  | int (n : Int)
  | float (x : Float)
  | notANumber
  | text (t : Text)
  | tuple (items : List Data)
  | list (items : List Data)
  /-- keys with data, in the order in which they were put in -/
  | dict (entries : List (Val × Data))
  /-- a value of any other kind, by the text that shows it -/
  | shown (written : String)
  deriving Inhabited

/-- A value of a kind that a log has no form of its own for. -/
def IsOpaque (s : Store) : Val → Prop
  | .none | .bool _ | .int _ | .float _ | .nan _ | .str _ | .tuple _ => False
  | .object address =>
      ∃ o, s.objects[address]? = some o ∧ (∀ vs, o ≠ .list vs) ∧ ∀ es, o ≠ .dict es
  | _ => True

namespace Data

mutual

/-- The data that a value is in a store; `inside` holds the addresses of the collections around the
value, none of which it contains. -/
def Of (s : Store) (inside : List Nat) : Data → Val → Prop
  | none, v => v = .none
  | bool b, v => v = .bool b
  | int n, v => v = .int n ∧ HasText s v
  | float x, v => v = .float x
  | notANumber, v => ∃ mark, v = .nan mark
  | text t, v => v = .str t
  | tuple ds, v => ∃ vs, v = .tuple vs ∧ ItemsOf s inside ds vs
  | list ds, v => ∃ address vs, v = .object address ∧ s.objects[address]? = some (.list vs) ∧
      address ∉ inside ∧ ItemsOf s (address :: inside) ds vs.toList
  | dict es, v => ∃ address vs, v = .object address ∧ s.objects[address]? = some (.dict vs) ∧
      address ∉ inside ∧ EntriesOf s (address :: inside) es vs.toList
  | shown written, v => IsOpaque s v ∧ Value.shown v s = .ok written s

/-- The data that the items of a list or a tuple are. -/
def ItemsOf (s : Store) (inside : List Nat) : List Data → List Val → Prop
  | [], vs => vs = []
  | d :: ds, vs => ∃ v vs', vs = v :: vs' ∧ d.Of s inside v ∧ ItemsOf s inside ds vs'

/-- The data that the entries of a dictionary are.  All keys can be shown. -/
def EntriesOf (s : Store) (inside : List Nat) : List (Val × Data) → List (Val × Val) → Prop
  | [], vs => vs = []
  | (key, d) :: es, vs => ∃ v vs', vs = (key, v) :: vs' ∧ HasText s key ∧ d.Of s inside v ∧
      EntriesOf s inside es vs'

end

mutual

/-- How deep data is nested. -/
def depth : Data → Nat
  | tuple ds | list ds => itemsDepth ds + 1
  | dict es => entriesDepth es + 1
  | _ => 1

/-- How deep the deepest item is nested. -/
def itemsDepth : List Data → Nat
  | [] => 0
  | d :: ds => max d.depth (itemsDepth ds)

/-- How deep the deepest value of an entry is nested. -/
def entriesDepth : List (Val × Data) → Nat
  | [] => 0
  | (_, d) :: es => max d.depth (entriesDepth es)

end

theorem depth_pos (d : Data) : 0 < d.depth := by
  cases d <;> simp [depth]

mutual

/-- The keys of each dictionary agree. -/
def Sortable : Data → Prop
  | tuple ds | list ds => ItemsSortable ds
  | dict es => KeysAgree (es.map (·.1)) ∧ EntriesSortable es
  | _ => True

/-- The keys of each dictionary in the items agree. -/
def ItemsSortable : List Data → Prop
  | [] => True
  | d :: ds => d.Sortable ∧ ItemsSortable ds

/-- The keys of each dictionary in the values of the entries agree. -/
def EntriesSortable : List (Val × Data) → Prop
  | [] => True
  | (_, d) :: es => d.Sortable ∧ EntriesSortable es

end

mutual

/-- A tree says of data what it is.  The members of an object are sorted. -/
def Written : Data → LogTree → Prop
  | none, t => t = .null
  | bool b, t => t = .bool b
  | int n, t => t = .number (decimalText n).toList
  | float x, t => t = .number (numberText x).toList
  | notANumber, t => t = .number notANumberText.toList
  | text s, t => t = .string s
  | tuple ds, t | list ds, t => ∃ ts, t = .array ts ∧ ItemsWritten ds ts
  | dict es, t => ∃ sorted, t = .object sorted ∧ ∃ ms, EntriesWritten es ms ∧ sorted.Perm ms ∧
      (AllTexts (es.map (·.1)) → NamesInOrder (sorted.map (·.1)))
  | shown written, t => t = .string written

/-- Trees say of items what they are. -/
def ItemsWritten : List Data → List LogTree → Prop
  | [], ts => ts = []
  | d :: ds, ts => ∃ t ts', ts = t :: ts' ∧ d.Written t ∧ ItemsWritten ds ts'

/-- Members say of entries what they are. -/
def EntriesWritten : List (Val × Data) → List (Text × LogTree) → Prop
  | [], ms => ms = []
  | (key, d) :: es, ms =>
      ∃ t ms', ms = (keyName key, t) :: ms' ∧ d.Written t ∧ EntriesWritten es ms'

end

/-! ### Data by its parts -/

/-- What holds of the items of lists and tuples and of the values of dictionaries, and then of these
themselves, holds of all data. -/
@[elab_as_elim, induction_eliminator]
theorem induct {motive : Data → Prop} (none : motive none) (bool : ∀ b, motive (bool b))
    (int : ∀ n, motive (int n)) (float : ∀ x, motive (float x)) (notANumber : motive notANumber)
    (text : ∀ t, motive (text t)) (tuple : ∀ ds, (∀ d ∈ ds, motive d) → motive (tuple ds))
    (list : ∀ ds, (∀ d ∈ ds, motive d) → motive (list ds))
    (dict : ∀ es, (∀ e ∈ es, motive e.2) → motive (dict es))
    (shown : ∀ written, motive (shown written)) (d : Data) : motive d :=
  match d with
  | .none => none
  | .bool b => bool b
  | .int n => int n
  | .float x => float x
  | .notANumber => notANumber
  | .text t => text t
  | .tuple ds => tuple ds fun d _ =>
      induct none bool int float notANumber text tuple list dict shown d
  | .list ds => list ds fun d _ =>
      induct none bool int float notANumber text tuple list dict shown d
  | .dict es => dict es fun e he =>
      have : sizeOf e.2 < 1 + sizeOf es := by
        have hmem := List.sizeOf_lt_of_mem he
        have hpair : sizeOf e = 1 + sizeOf e.1 + sizeOf e.2 := rfl
        omega
      induct none bool int float notANumber text tuple list dict shown e.2
  | .shown written => shown written

section Parts

variable {s : Store} {inside : List Nat} {ds : List Data} {es : List (Val × Data)}

theorem itemsOf_iff {vs : List Val} :
    ItemsOf s inside ds vs ↔ List.Forall₂ (fun d v => d.Of s inside v) ds vs := by
  induction ds generalizing vs with
  | nil => exact List.forall₂_nil_left_iff.symm
  | cons d ds ih =>
      rw [List.forall₂_cons_left_iff]
      constructor
      · rintro ⟨v, vs, rfl, hd, hds⟩
        exact ⟨v, vs, hd, ih.mp hds, rfl⟩
      · rintro ⟨v, vs, hd, hds, rfl⟩
        exact ⟨v, vs, rfl, hd, ih.mpr hds⟩

theorem entriesOf_iff {vs : List (Val × Val)} :
    EntriesOf s inside es vs ↔
      List.Forall₂ (fun e v => v.1 = e.1 ∧ HasText s e.1 ∧ e.2.Of s inside v.2) es vs := by
  induction es generalizing vs with
  | nil => exact List.forall₂_nil_left_iff.symm
  | cons e es ih =>
      rw [List.forall₂_cons_left_iff]
      constructor
      · rintro ⟨v, vs, rfl, htext, hd, hes⟩
        exact ⟨(e.1, v), vs, ⟨rfl, htext, hd⟩, ih.mp hes, rfl⟩
      · rintro ⟨⟨key, v⟩, vs, ⟨rfl, htext, hd⟩, hes, rfl⟩
        exact ⟨v, vs, rfl, htext, hd, ih.mpr hes⟩

/-- The keys of entries are those of their data. -/
theorem keys_of_entriesOf {vs : List (Val × Val)} (h : EntriesOf s inside es vs) :
    vs.map (·.1) = es.map (·.1) := by
  induction es generalizing vs with
  | nil => rw [show vs = [] from h]; rfl
  | cons e es ih =>
      obtain ⟨v, vs, rfl, -, -, hes⟩ := h
      rw [List.map_cons, List.map_cons, ih hes]

/-- The keys of entries can be shown. -/
theorem texts_of_entriesOf {vs : List (Val × Val)} (h : EntriesOf s inside es vs) :
    ∀ e ∈ vs, HasText s e.1 := by
  intro v hv
  obtain ⟨e, -, hkey, htext, -⟩ := exists_left_of_forall₂ (entriesOf_iff.mp h) v hv
  rw [hkey]
  exact htext

theorem itemsDepth_le_iff {n : Nat} : itemsDepth ds ≤ n ↔ ∀ d ∈ ds, d.depth ≤ n := by
  induction ds with
  | nil => simp [itemsDepth]
  | cons d ds ih => simp [itemsDepth, ih]

theorem entriesDepth_le_iff {n : Nat} : entriesDepth es ≤ n ↔ ∀ e ∈ es, e.2.depth ≤ n := by
  induction es with
  | nil => simp [entriesDepth]
  | cons e es ih => simp [entriesDepth, ih]

theorem itemsSortable_iff : ItemsSortable ds ↔ ∀ d ∈ ds, d.Sortable := by
  induction ds with
  | nil => simp [ItemsSortable]
  | cons d ds ih => simp [ItemsSortable, ih]

theorem entriesSortable_iff : EntriesSortable es ↔ ∀ e ∈ es, e.2.Sortable := by
  induction es with
  | nil => simp [EntriesSortable]
  | cons e es ih => simp [EntriesSortable, ih]

theorem itemsWritten_iff {ts : List LogTree} :
    ItemsWritten ds ts ↔ List.Forall₂ Written ds ts := by
  induction ds generalizing ts with
  | nil => exact List.forall₂_nil_left_iff.symm
  | cons d ds ih =>
      rw [List.forall₂_cons_left_iff]
      constructor
      · rintro ⟨t, ts, rfl, ht, hts⟩
        exact ⟨t, ts, ht, ih.mp hts, rfl⟩
      · rintro ⟨t, ts, ht, hts, rfl⟩
        exact ⟨t, ts, rfl, ht, ih.mpr hts⟩

theorem entriesWritten_iff {ms : List (Text × LogTree)} :
    EntriesWritten es ms ↔
      List.Forall₂ (fun e m => m.1 = keyName e.1 ∧ e.2.Written m.2) es ms := by
  induction es generalizing ms with
  | nil => exact List.forall₂_nil_left_iff.symm
  | cons e es ih =>
      rw [List.forall₂_cons_left_iff]
      constructor
      · rintro ⟨t, ms, rfl, ht, hms⟩
        exact ⟨_, ms, ⟨rfl, ht⟩, ih.mp hms, rfl⟩
      · rintro ⟨⟨name, t⟩, ms, ⟨rfl, ht⟩, hms, rfl⟩
        exact ⟨t, ms, rfl, ht, ih.mpr hms⟩

end Parts

end Data

/-! ## The tree of a value -/

section Trees

variable {s : Store} {fuel : Nat} {inside : List Nat}

theorem treeWithin_int {n : Int} (h : HasText s (.int n)) :
    treeWithin (fuel + 1) inside (.int n) s = .ok (.number (decimalText n).toList) s :=
  bind_of_ok (intText_of_lt (hasText_int_iff.mp h) s) _

theorem treeWithin_tuple (vs : List Val) :
    treeWithin (fuel + 1) inside (.tuple vs) s
      = (vs.mapM (treeWithin fuel inside) >>= fun ts => pure (.array ts)) s := rfl

theorem treeWithin_list {address : Nat} {vs : Array Val}
    (h : s.objects[address]? = some (.list vs)) (outside : address ∉ inside) :
    treeWithin (fuel + 1) inside (.object address) s
      = (vs.toList.mapM (treeWithin fuel (address :: inside)) >>=
          fun ts => pure (.array ts)) s := by
  rw [treeWithin]
  dsimp only
  rw [bind_of_ok (load_of_getElem? h)]
  dsimp only
  rw [if_neg (by simpa using outside)]

theorem treeWithin_dict {address : Nat} {vs : Array (Val × Val)}
    (h : s.objects[address]? = some (.dict vs)) (outside : address ∉ inside) :
    treeWithin (fuel + 1) inside (.object address) s
      = (membersOf (treeWithin fuel (address :: inside)) vs.toList >>= fun ms =>
          pure (.object ms)) s := by
  rw [treeWithin]
  dsimp only
  rw [bind_of_ok (load_of_getElem? h)]
  dsimp only
  rw [if_neg (by simpa using outside)]

/-- A value of any other kind is logged as the text that shows it. -/
theorem treeWithin_of_isOpaque {v : Val} {written : String} (h : IsOpaque s v)
    (htext : shown v s = .ok written s) :
    treeWithin (fuel + 1) inside v s = .ok (.string written) s := by
  have hshown : (shown v >>= fun text => pure (LogTree.string text)) s
      = .ok (.string written) s := by
    rw [bind_of_ok htext]
    rfl
  cases v with
  | none | bool b | int n | float x | nan m | str t | tuple vs => exact h.elim
  | object address =>
      obtain ⟨o, ho, hlist, hdict⟩ := h
      rw [treeWithin]
      dsimp only
      rw [bind_of_ok (load_of_getElem? ho)]
      cases o with
      | list vs => exact absurd rfl (hlist vs)
      | dict es => exact absurd rfl (hdict es)
      | _ => exact hshown
  | _ => exact hshown

namespace Data

variable {ds : List Data} {es : List (Val × Data)}

/-- Members of a dictionary are made, where its keys can be written and its values are logged. -/
theorem exists_membersWritten {vs : List (Val × Val)} (of : EntriesOf s inside es vs)
    (kinds : ∀ e ∈ es, keyKind e.1 ≠ .other)
    (each : ∀ e ∈ es, ∀ v, e.2.Of s inside v →
      ∃ t, treeWithin fuel inside v s = .ok t s ∧ e.2.Written t) :
    ∃ ms, List.Forall₂ (BecomesMember (treeWithin fuel inside) s) vs ms ∧ EntriesWritten es ms := by
  have hmember : ∀ e ∈ es, ∀ v : Val × Val, v.1 = e.1 ∧ HasText s e.1 ∧ e.2.Of s inside v.2 →
      ∃ m, BecomesMember (treeWithin fuel inside) s v m ∧
        m.1 = keyName e.1 ∧ e.2.Written m.2 := by
    rintro e he v ⟨hkey, htext, hof⟩
    obtain ⟨t, ht, hwritten⟩ := each e he v.2 hof
    have hname : keyText v.1 s = .ok (keyName e.1) s := by
      rw [hkey]
      exact keyText_of_kind (kinds e he) htext
    exact ⟨(keyName e.1, t), ⟨hname, ht⟩, rfl, hwritten⟩
  obtain ⟨ms, hms, hwritten⟩ := exists_forall₂_between (entriesOf_iff.mp of) hmember
  exact ⟨ms, hms, entriesWritten_iff.mpr hwritten⟩

/-- Data that is not nested too deeply and whose keys agree is logged. -/
theorem exists_treeWithin {d : Data} {v : Val} (of : d.Of s inside v) (hdepth : d.depth ≤ fuel)
    (hsort : d.Sortable) : ∃ t, treeWithin fuel inside v s = .ok t s ∧ d.Written t := by
  -- Each level of a value takes one step, so the induction is on the steps that are left.
  induction fuel generalizing d inside v with
  | zero => exact absurd hdepth (Nat.not_le_of_lt d.depth_pos)
  | succ fuel ih =>
      cases d with
      | none =>
          obtain rfl : v = .none := of
          exact ⟨.null, rfl, rfl⟩
      | bool b =>
          obtain rfl : v = .bool b := of
          exact ⟨.bool b, rfl, rfl⟩
      | int n =>
          obtain ⟨rfl, htext⟩ : v = .int n ∧ HasText s v := of
          exact ⟨_, treeWithin_int htext, rfl⟩
      | float x =>
          obtain rfl : v = .float x := of
          exact ⟨_, rfl, rfl⟩
      | notANumber =>
          obtain ⟨mark, rfl⟩ : ∃ mark, v = .nan mark := of
          exact ⟨_, rfl, rfl⟩
      | text t =>
          obtain rfl : v = .str t := of
          exact ⟨.string t, rfl, rfl⟩
      | shown written =>
          obtain ⟨hkind, htext⟩ : IsOpaque s v ∧ Value.shown v s = .ok written s := of
          exact ⟨_, treeWithin_of_isOpaque hkind htext, rfl⟩
      | tuple ds =>
          obtain ⟨vs, rfl, hof⟩ := of
          obtain ⟨ts, hts, hwritten⟩ := exists_forall₂_between (itemsOf_iff.mp hof)
            fun d hd v hof => ih hof (itemsDepth_le_iff.mp (Nat.le_of_succ_le_succ hdepth) d hd)
              (itemsSortable_iff.mp hsort d hd)
          refine ⟨.array ts, ?_, ts, rfl, itemsWritten_iff.mpr hwritten⟩
          rw [treeWithin_tuple, bind_of_ok (mapM_of_forall₂ hts)]
          rfl
      | list ds =>
          obtain ⟨address, vs, rfl, hload, outside, hof⟩ := of
          obtain ⟨ts, hts, hwritten⟩ := exists_forall₂_between (itemsOf_iff.mp hof)
            fun d hd v hof => ih hof (itemsDepth_le_iff.mp (Nat.le_of_succ_le_succ hdepth) d hd)
              (itemsSortable_iff.mp hsort d hd)
          refine ⟨.array ts, ?_, ts, rfl, itemsWritten_iff.mpr hwritten⟩
          rw [treeWithin_list hload outside, bind_of_ok (mapM_of_forall₂ hts)]
          rfl
      | dict es =>
          obtain ⟨address, vs, rfl, hload, outside, hof⟩ := of
          obtain ⟨hagree, hvalues⟩ := hsort
          have hkeys := keys_of_entriesOf hof
          obtain ⟨ms, hms, hwritten⟩ := exists_membersWritten hof
            (fun e he => hagree.kind_ne_other (List.mem_map_of_mem he))
            fun e he v hof => ih hof (entriesDepth_le_iff.mp (Nat.le_of_succ_le_succ hdepth) e he)
              (entriesSortable_iff.mp hvalues e he)
          obtain ⟨sorted, hsorted, hperm, horder⟩ := membersOf_of_agree (hkeys ▸ hagree) hms
          refine ⟨.object sorted, ?_, sorted, rfl, ms, hwritten, hperm, hkeys ▸ horder⟩
          rw [treeWithin_dict hload outside, bind_of_ok hsorted]
          rfl

theorem exists_members {vs : List (Val × Val)} (of : EntriesOf s inside es vs)
    (hdepth : entriesDepth es ≤ fuel) (hsort : EntriesSortable es)
    (kinds : ∀ e ∈ es, keyKind e.1 ≠ .other) :
    ∃ ms, List.Forall₂ (BecomesMember (treeWithin fuel inside) s) vs ms ∧ EntriesWritten es ms :=
  exists_membersWritten of kinds fun e he _ hof =>
    exists_treeWithin hof (entriesDepth_le_iff.mp hdepth e he) (entriesSortable_iff.mp hsort e he)

/-- Logging what can be logged leaves the state as it is. -/
theorem Of.state_eq {d : Data} {v : Val} {t : LogTree} {s' : Store} (hd : d.Of s inside v)
    (hloggable : d.depth ≤ fuel ∧ d.Sortable) (h : treeWithin fuel inside v s = .ok t s') :
    s' = s := by
  obtain ⟨t', ht', -⟩ := exists_treeWithin hd hloggable.1 hloggable.2
  exact (EStateM.Result.ok.inj (h.symm.trans ht')).2

/-- Whatever is logged inside of some collections, in so many steps, can be logged. -/
def OnlyLoggable (s : Store) (fuel : Nat) (inside : List Nat) : Prop :=
  ∀ (d : Data) (v : Val) (t : LogTree) (s' : Store), d.Of s inside v →
    treeWithin fuel inside v s = .ok t s' → d.depth ≤ fuel ∧ d.Sortable

theorem OnlyLoggable.items {vs : List Val} (h : OnlyLoggable s fuel inside)
    (of : ItemsOf s inside ds vs) {ts : List LogTree} {s' : Store}
    (logged : vs.mapM (treeWithin fuel inside) s = .ok ts s') :
    itemsDepth ds ≤ fuel ∧ ItemsSortable ds := by
  have hkeeps : ∀ v ∈ vs, ∀ t s', treeWithin fuel inside v s = .ok t s' → s' = s := by
    intro v hv t s' ht
    obtain ⟨d, -, hof⟩ := exists_left_of_forall₂ (itemsOf_iff.mp of) v hv
    exact hof.state_eq (h d v t s' hof ht) ht
  have heach : ∀ d ∈ ds, d.depth ≤ fuel ∧ d.Sortable := by
    intro d hd
    obtain ⟨v, hv, hof⟩ := exists_right_of_forall₂ (itemsOf_iff.mp of) d hd
    obtain ⟨t, ht⟩ := exists_of_mapM hkeeps logged v hv
    exact h d v t s hof ht
  exact ⟨itemsDepth_le_iff.mpr fun d hd => (heach d hd).1,
    itemsSortable_iff.mpr fun d hd => (heach d hd).2⟩

theorem OnlyLoggable.entries {vs : List (Val × Val)} (h : OnlyLoggable s fuel inside)
    (of : EntriesOf s inside es vs) {ms : List (Text × LogTree)} {s' : Store}
    (logged : membersOf (treeWithin fuel inside) vs s = .ok ms s') :
    entriesDepth es ≤ fuel ∧ KeysAgree (es.map (·.1)) ∧ EntriesSortable es := by
  have hkeeps : ∀ e ∈ vs, ∀ t s', treeWithin fuel inside e.2 s = .ok t s' → s' = s := by
    intro v hv t s' ht
    obtain ⟨e, -, -, -, hof⟩ := exists_left_of_forall₂ (entriesOf_iff.mp of) v hv
    exact hof.state_eq (h e.2 v.2 t s' hof ht) ht
  obtain ⟨hagree, hvalues⟩ := agree_of_membersOf (texts_of_entriesOf of) hkeeps logged
  have heach : ∀ e ∈ es, e.2.depth ≤ fuel ∧ e.2.Sortable := by
    intro e he
    obtain ⟨v, hv, -, -, hof⟩ := exists_right_of_forall₂ (entriesOf_iff.mp of) e he
    obtain ⟨t, ht⟩ := hvalues v hv
    exact h e.2 v.2 t s hof ht
  exact ⟨entriesDepth_le_iff.mpr fun e he => (heach e he).1, keys_of_entriesOf of ▸ hagree,
    entriesSortable_iff.mpr fun e he => (heach e he).2⟩

/-- Data that is logged is not nested too deeply, and its keys agree. -/
theorem onlyLoggable (s : Store) (fuel : Nat) (inside : List Nat) : OnlyLoggable s fuel inside := by
  intro d v t s' of logged
  induction fuel generalizing d inside v t s' with
  | zero => cases logged
  | succ fuel ih =>
      have hinner : ∀ inside, OnlyLoggable s fuel inside :=
        fun inside d v t s' => ih inside d v t s'
      cases d with
      | tuple ds =>
          obtain ⟨vs, rfl, hof⟩ := of
          rw [treeWithin_tuple] at logged
          obtain ⟨ts, s₁, hts, -⟩ := bind_eq_ok_iff.mp logged
          obtain ⟨hdepth, hsort⟩ := (hinner inside).items hof hts
          exact ⟨Nat.succ_le_succ hdepth, hsort⟩
      | list ds =>
          obtain ⟨address, vs, rfl, hload, outside, hof⟩ := of
          rw [treeWithin_list hload outside] at logged
          obtain ⟨ts, s₁, hts, -⟩ := bind_eq_ok_iff.mp logged
          obtain ⟨hdepth, hsort⟩ := (hinner (address :: inside)).items hof hts
          exact ⟨Nat.succ_le_succ hdepth, hsort⟩
      | dict es =>
          obtain ⟨address, vs, rfl, hload, outside, hof⟩ := of
          rw [treeWithin_dict hload outside] at logged
          obtain ⟨ms, s₁, hms, -⟩ := bind_eq_ok_iff.mp logged
          obtain ⟨hdepth, hagree, hsort⟩ := (hinner (address :: inside)).entries hof hms
          exact ⟨Nat.succ_le_succ hdepth, hagree, hsort⟩
      | _ => exact ⟨Nat.le_add_left 1 fuel, trivial⟩

end Data

end Trees

/-! ## Numbers -/

/-- A floating point number is finite. -/
def IsFinite (x : Float) : Prop :=
  ∃ negative mantissa exponent, Decimal.Binary.ofFloat x = .finite negative mantissa exponent

/-- The text of a number is a numeral, or else a word. -/
theorem numberText_cases (x : Float) :
    IsFinite x ∧ IsNumeral (numberText x).toList ∨ ¬IsFinite x ∧ IsWord (numberText x).toList := by
  unfold IsFinite numberText
  cases hx : Decimal.Binary.ofFloat x with
  | nan => exact .inr ⟨by simp, .notANumber⟩
  | infinite negative =>
      refine .inr ⟨by simp, ?_⟩
      cases negative with
      | true => exact .negativeInfinite
      | false => exact .infinite
  | finite negative mantissa exponent =>
      exact .inl ⟨⟨_, _, _, rfl⟩, Decimal.isNumeral_floatText hx⟩

theorem isWritten_numberText (x : Float) : IsWritten (numberText x).toList := by
  rcases numberText_cases x with ⟨-, h⟩ | ⟨-, h⟩
  · exact .inl h
  · exact .inr h

theorem isNumeral_numberText_iff (x : Float) :
    IsNumeral (numberText x).toList ↔ IsFinite x := by
  rcases numberText_cases x with ⟨hfinite, h⟩ | ⟨hfinite, h⟩
  · exact iff_of_true h hfinite
  · exact iff_of_false h.not_isNumeral hfinite

namespace LogTree

/-- The numbers of members do not depend on their order. -/
theorem memberNumbers_perm {P : List Char → Prop} {ms ms' : List (Text × LogTree)}
    (h : ms.Perm ms') : MemberNumbers P ms ↔ MemberNumbers P ms' := by
  rw [memberNumbers_iff, memberNumbers_iff]
  exact forall_congr' fun m => by rw [h.mem_iff]

end LogTree

namespace Data

mutual

/-- All floating point numbers are finite. -/
def Finite : Data → Prop
  | float x => IsFinite x
  | notANumber => False
  | tuple ds | list ds => ItemsFinite ds
  | dict es => EntriesFinite es
  | _ => True

/-- All floating point numbers of items are finite. -/
def ItemsFinite : List Data → Prop
  | [] => True
  | d :: ds => d.Finite ∧ ItemsFinite ds

/-- All floating point numbers of the values of entries are finite. -/
def EntriesFinite : List (Val × Data) → Prop
  | [] => True
  | (_, d) :: es => d.Finite ∧ EntriesFinite es

end

section Numbers

variable {ds : List Data} {es : List (Val × Data)} {ts : List LogTree}
  {ms : List (Text × LogTree)} {P : List Char → Prop}

theorem itemsFinite_iff : ItemsFinite ds ↔ ∀ d ∈ ds, d.Finite := by
  induction ds with
  | nil => simp [ItemsFinite]
  | cons d ds ih => simp [ItemsFinite, ih]

theorem entriesFinite_iff : EntriesFinite es ↔ ∀ e ∈ es, e.2.Finite := by
  induction es with
  | nil => simp [EntriesFinite]
  | cons e es ih => simp [EntriesFinite, ih]

/-- The numbers of items are those of their trees. -/
theorem itemNumbers_of_written (h : ItemsWritten ds ts)
    (each : ∀ d ∈ ds, ∀ t, d.Written t → t.Numbers P) : LogTree.ItemNumbers P ts := by
  refine (LogTree.itemNumbers_iff ts).mpr fun t ht => ?_
  obtain ⟨d, hd, hwritten⟩ := exists_left_of_forall₂ (itemsWritten_iff.mp h) t ht
  exact each d hd t hwritten

theorem memberNumbers_of_written (h : EntriesWritten es ms)
    (each : ∀ e ∈ es, ∀ t, e.2.Written t → t.Numbers P) : LogTree.MemberNumbers P ms := by
  refine (LogTree.memberNumbers_iff ms).mpr fun m hm => ?_
  obtain ⟨e, he, -, hwritten⟩ := exists_left_of_forall₂ (entriesWritten_iff.mp h) m hm
  exact each e he m.2 hwritten

/-- The numbers that are written are numerals or words. -/
theorem Written.numbers {d : Data} {t : LogTree} (h : d.Written t) : t.Numbers IsWritten := by
  induction d generalizing t with
  | int n =>
      rw [show t = _ from h]
      exact .inl (isNumeral_decimalText n)
  | float x =>
      rw [show t = _ from h]
      exact isWritten_numberText x
  | notANumber =>
      rw [show t = _ from h]
      exact .inr .notANumber
  | tuple ds ih =>
      obtain ⟨ts, rfl, hts⟩ := h
      exact itemNumbers_of_written hts fun d hd t ht => ih d hd ht
  | list ds ih =>
      obtain ⟨ts, rfl, hts⟩ := h
      exact itemNumbers_of_written hts fun d hd t ht => ih d hd ht
  | dict es ih =>
      obtain ⟨sorted, rfl, ms, hms, hperm, -⟩ := h
      refine (LogTree.memberNumbers_perm hperm).mpr ?_
      exact memberNumbers_of_written hms fun e he t ht => ih e he ht
  | _ =>
      rw [show t = _ from h]
      trivial

/-- Items are written with numerals if and only if all floating point numbers in them are finite. -/
theorem itemNumbers_iff_finite (h : ItemsWritten ds ts)
    (each : ∀ d ∈ ds, ∀ t, d.Written t → (t.Numbers IsNumeral ↔ d.Finite)) :
    LogTree.ItemNumbers IsNumeral ts ↔ ItemsFinite ds := by
  rw [LogTree.itemNumbers_iff, itemsFinite_iff]
  constructor
  · intro hnumbers d hd
    obtain ⟨t, ht, hwritten⟩ := exists_right_of_forall₂ (itemsWritten_iff.mp h) d hd
    exact (each d hd t hwritten).mp (hnumbers t ht)
  · intro hfinite t ht
    obtain ⟨d, hd, hwritten⟩ := exists_left_of_forall₂ (itemsWritten_iff.mp h) t ht
    exact (each d hd t hwritten).mpr (hfinite d hd)

theorem memberNumbers_iff_finite (h : EntriesWritten es ms)
    (each : ∀ e ∈ es, ∀ t, e.2.Written t → (t.Numbers IsNumeral ↔ e.2.Finite)) :
    LogTree.MemberNumbers IsNumeral ms ↔ EntriesFinite es := by
  rw [LogTree.memberNumbers_iff, entriesFinite_iff]
  constructor
  · intro hnumbers e he
    obtain ⟨m, hm, -, hwritten⟩ := exists_right_of_forall₂ (entriesWritten_iff.mp h) e he
    exact (each e he m.2 hwritten).mp (hnumbers m hm)
  · intro hfinite m hm
    obtain ⟨e, he, -, hwritten⟩ := exists_left_of_forall₂ (entriesWritten_iff.mp h) m hm
    exact (each e he m.2 hwritten).mpr (hfinite e he)

/-- All of them are numerals if and only if all floating point numbers are finite. -/
theorem Written.numerals_iff {d : Data} {t : LogTree} (h : d.Written t) :
    t.Numbers IsNumeral ↔ d.Finite := by
  induction d generalizing t with
  | int n =>
      rw [show t = _ from h]
      exact iff_of_true (isNumeral_decimalText n) trivial
  | float x =>
      rw [show t = _ from h]
      exact isNumeral_numberText_iff x
  | notANumber =>
      rw [show t = _ from h]
      exact iff_of_false IsWord.notANumber.not_isNumeral id
  | tuple ds ih =>
      obtain ⟨ts, rfl, hts⟩ := h
      exact itemNumbers_iff_finite hts fun d hd t ht => ih d hd ht
  | list ds ih =>
      obtain ⟨ts, rfl, hts⟩ := h
      exact itemNumbers_iff_finite hts fun d hd t ht => ih d hd ht
  | dict es ih =>
      obtain ⟨sorted, rfl, ms, hms, hperm, -⟩ := h
      refine (LogTree.memberNumbers_perm hperm).trans ?_
      exact memberNumbers_iff_finite hms fun e he t ht => ih e he ht
  | _ =>
      rw [show t = _ from h]
      exact Iff.rfl

end Numbers

end Data

end BoundSql.Observe
