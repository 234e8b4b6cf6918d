import BoundSql.Decimal.Reading
import BoundSql.Proofs.EventLogs
set_option autoImplicit false

/-!
# Lines that say everything and nothing twice

Data of the kinds that JSON has is read back from its line, and data that differs in the order of
entries alone has one line.  A log with both properties can be searched and compared as text: no two
lines say the same, and no line says two things.

Reading back is done by a reader of JSON in general, which knows nothing of how lines are written,
and by `data?`, which takes the tree that was read for data again.  For plain data that inverts the
writing (`Unpaired.exists_data?`).  Dictionaries that are permutations of each other have the same
members, since sorting answers with the one order that texts have (`members_eq_of_perm`), and this
is lifted through all levels of the data (`written_eq_of_same`).

Two halves of a surrogate pair in a text are read as one character, so texts in which they follow
each other are left out (`NoPair`), and so are values that are nested deeper than a line can be
written.  Both exceptions are real, and are shown on an event.
-/

namespace BoundSql.Observe

open BoundSql.Value (Store Val depthLimit)

/-! ## Reading data -/

/-- The integer that a numeral without a fraction and an exponent stands for. -/
def integer? : List Char → Option Int
  | '-' :: ds => if ds.all Char.isDigit then some (-(Nat.ofDigitChars 10 ds 0 : Int)) else none
  | ds => if ds.all Char.isDigit then some (Nat.ofDigitChars 10 ds 0 : Int) else none

/-- The number that a numeral stands for. -/
def numberData? (s : List Char) : Option Data :=
  match integer? s with
  | some n => some (.int n)
  | none => (Decimal.floatOfText? (String.ofList s)).map .float

namespace LogTree

mutual

/-- The data that a tree stands for. -/
def data? : LogTree → Option Data
  | null => some .none
  | bool b => some (.bool b)
  | number s => numberData? s
  | string s => some (.text s)
  | array items => (itemsData? items).map .list
  | object members => (membersData? members).map .dict

/-- The data that the items of an array stand for. -/
def itemsData? : List LogTree → Option (List Data)
  | [] => some []
  | t :: ts => do
      let d ← t.data?
      let ds ← itemsData? ts
      some (d :: ds)

/-- The data that the members of an object stand for, in the order in which they are written. -/
def membersData? : List (Text × LogTree) → Option (List (Val × Data))
  | [] => some []
  | (name, t) :: ms => do
      let d ← t.data?
      let es ← membersData? ms
      some ((.str name, d) :: es)

end

end LogTree

theorem all_isDigit_toDigits (n : Nat) : (Nat.toDigits 10 n).all Char.isDigit = true :=
  List.all_eq_true.mpr (isDigits_toDigits n).digits

theorem integer?_decimalText (n : Int) : integer? (decimalText n).toList = some n := by
  have hvalue : Nat.ofDigitChars 10 (Nat.toDigits 10 n.natAbs) 0 = n.natAbs :=
    Nat.ofDigitChars_ten_toDigits
  unfold decimalText
  split
  next hn =>
    rw [String.toList_append, toList_natText]
    have hread : integer? ('-' :: Nat.toDigits 10 n.natAbs) = some n := by
      rw [integer?, if_pos (all_isDigit_toDigits _), hvalue]
      exact congrArg some (by omega)
    exact hread
  next hn =>
    rw [toList_natText, integer?, if_pos (all_isDigit_toDigits _), hvalue]
    · exact congrArg some (by omega)
    · intro ds hds
      have hdigit := (isDigits_toDigits n.natAbs).digits '-' (hds ▸ List.mem_cons_self)
      exact absurd hdigit (by decide)

/-! ## Plain data -/

/-- In a text, the first half of a surrogate pair never stands in front of a second half. -/
def NoPair : Text → Prop
  | .surrogate a :: .surrogate b :: rest =>
      ¬(a.val < 0x400 ∧ 0x400 ≤ b.val) ∧ NoPair (.surrogate b :: rest)
  | _ :: rest => NoPair rest
  | [] => True

theorem joined_of_noPair {t : Text} (h : NoPair t) : joined t = t := by
  fun_induction joined t with
  | case1 a b rest hpair ih => exact absurd hpair h.1
  | case2 a b rest _ ih => rw [ih h.2]
  | case3 p rest hnext ih =>
      rw [ih]
      unfold NoPair at h
      split at h
      next a b rest heq =>
        obtain ⟨rfl, rfl⟩ := List.cons.inj heq
        exact absurd rfl (hnext a b rest rfl)
      next heq =>
        obtain ⟨rfl, rfl⟩ := List.cons.inj heq
        exact h
      next heq => cases heq
  | case4 => rfl

/-- There are no surrogates in a text of characters. -/
theorem noPair_ofString (s : String) : NoPair (Text.ofString s) := by
  have hchars (cs : List Char) : NoPair (Text.ofChars cs) := by
    induction cs with
    | nil => trivial
    | cons c cs ih => exact ih
  exact hchars s.toList

namespace Data

mutual

/-- Data of the kinds that JSON has.  The keys of a dictionary are texts, none of which occurs
twice. -/
def Plain : Data → Prop
  | none | bool _ | int _ | text _ => True
  | list ds => ItemsPlain ds
  | dict es => AllTexts (es.map (·.1)) ∧ (es.map fun e => keyName e.1).Nodup ∧ EntriesPlain es
  | float _ | notANumber | tuple _ | shown _ => False

/-- Items of the kinds that JSON has. -/
def ItemsPlain : List Data → Prop
  | [] => True
  | d :: ds => d.Plain ∧ ItemsPlain ds

/-- Entries of the kinds that JSON has. -/
def EntriesPlain : List (Val × Data) → Prop
  | [] => True
  | (_, d) :: es => d.Plain ∧ EntriesPlain es

end

mutual

/-- No text in the data has two halves of a pair in front of each other. -/
def Unpaired : Data → Prop
  | none | bool _ | int _ | float _ | notANumber => True
  | text t | shown t => NoPair t
  | tuple ds | list ds => ItemsUnpaired ds
  | dict es => EntriesUnpaired es

/-- No text in the items has two halves of a pair in front of each other. -/
def ItemsUnpaired : List Data → Prop
  | [] => True
  | d :: ds => d.Unpaired ∧ ItemsUnpaired ds

/-- No name and no text in the entries has two halves of a pair in front of each other. -/
def EntriesUnpaired : List (Val × Data) → Prop
  | [] => True
  | (key, d) :: es => NoPair (keyName key) ∧ d.Unpaired ∧ EntriesUnpaired es

end

section Parts

variable {ds : List Data} {es : List (Val × Data)}

theorem itemsPlain_iff : ItemsPlain ds ↔ ∀ d ∈ ds, d.Plain := by
  induction ds with
  | nil => simp [ItemsPlain]
  | cons d ds ih => simp [ItemsPlain, ih]

theorem entriesPlain_iff : EntriesPlain es ↔ ∀ e ∈ es, e.2.Plain := by
  induction es with
  | nil => simp [EntriesPlain]
  | cons e es ih => simp [EntriesPlain, ih]

theorem itemsUnpaired_iff : ItemsUnpaired ds ↔ ∀ d ∈ ds, d.Unpaired := by
  induction ds with
  | nil => simp [ItemsUnpaired]
  | cons d ds ih => simp [ItemsUnpaired, ih]

theorem entriesUnpaired_iff :
    EntriesUnpaired es ↔ ∀ e ∈ es, NoPair (keyName e.1) ∧ e.2.Unpaired := by
  induction es with
  | nil => simp [EntriesUnpaired]
  | cons e es ih => simp [EntriesUnpaired, ih, and_assoc]

end Parts

/-- The keys of plain data agree. -/
theorem Plain.sortable {d : Data} (h : d.Plain) : d.Sortable := by
  induction d with
  | list ds ih => exact itemsSortable_iff.mpr fun d hd => ih d hd (itemsPlain_iff.mp h d hd)
  | dict es ih =>
      obtain ⟨htexts, -, hes⟩ := h
      exact ⟨.inl htexts,
        entriesSortable_iff.mpr fun e he => ih e he (entriesPlain_iff.mp hes e he)⟩
  | tuple ds ih => exact h.elim
  | _ => trivial

/-- There are no floating point numbers in plain data. -/
theorem Plain.finite {d : Data} (h : d.Plain) : d.Finite := by
  induction d with
  | list ds ih => exact itemsFinite_iff.mpr fun d hd => ih d hd (itemsPlain_iff.mp h d hd)
  | dict es ih =>
      obtain ⟨-, -, hes⟩ := h
      exact entriesFinite_iff.mpr fun e he => ih e he (entriesPlain_iff.mp hes e he)
  | float x => exact h.elim
  | notANumber => exact h.elim
  | tuple ds ih => exact h.elim
  | _ => trivial

/-! ## Data that is the same -/

mutual

/-- Data that is the same but for the order of the entries of dictionaries, at any depth. -/
def Same : Data → Data → Prop
  | tuple ds, d => ∃ ds', d = tuple ds' ∧ ItemsSame ds ds'
  | list ds, d => ∃ ds', d = list ds' ∧ ItemsSame ds ds'
  | dict es, d => ∃ moved, d = dict moved ∧ ∃ es', EntriesSame es es' ∧ moved.Perm es'
  | d, d' => d' = d

/-- Items that are the same, one by one. -/
def ItemsSame : List Data → List Data → Prop
  | [], ds => ds = []
  | d :: ds, l => ∃ d' ds', l = d' :: ds' ∧ d.Same d' ∧ ItemsSame ds ds'

/-- Entries that are the same, one by one. -/
def EntriesSame : List (Val × Data) → List (Val × Data) → Prop
  | [], es => es = []
  | (key, d) :: es, l => ∃ d' es', l = (key, d') :: es' ∧ d.Same d' ∧ EntriesSame es es'

end

theorem itemsSame_iff {ds ds' : List Data} : ItemsSame ds ds' ↔ List.Forall₂ Same ds ds' := by
  induction ds generalizing ds' with
  | nil => exact List.forall₂_nil_left_iff.symm
  | cons d ds ih =>
      rw [List.forall₂_cons_left_iff]
      constructor
      · rintro ⟨d', ds', rfl, hd, hds⟩
        exact ⟨d', ds', hd, ih.mp hds, rfl⟩
      · rintro ⟨d', ds', hd, hds, rfl⟩
        exact ⟨d', ds', rfl, hd, ih.mpr hds⟩

theorem entriesSame_iff {es es' : List (Val × Data)} :
    EntriesSame es es' ↔ List.Forall₂ (fun e e' => e'.1 = e.1 ∧ e.2.Same e'.2) es es' := by
  induction es generalizing es' with
  | nil => exact List.forall₂_nil_left_iff.symm
  | cons e es ih =>
      rw [List.forall₂_cons_left_iff]
      constructor
      · rintro ⟨d', es', rfl, hd, hes⟩
        exact ⟨(e.1, d'), es', ⟨rfl, hd⟩, ih.mp hes, rfl⟩
      · rintro ⟨⟨key, d'⟩, es', ⟨rfl, hd⟩, hes, rfl⟩
        exact ⟨d', es', rfl, hd, ih.mpr hes⟩

theorem Same.refl (d : Data) : d.Same d := by
  induction d with
  | tuple ds ih => exact ⟨ds, rfl, itemsSame_iff.mpr (List.forall₂_same.mpr ih)⟩
  | list ds ih => exact ⟨ds, rfl, itemsSame_iff.mpr (List.forall₂_same.mpr ih)⟩
  | dict es ih =>
      have hsame : EntriesSame es es :=
        entriesSame_iff.mpr (List.forall₂_same.mpr fun e he => ⟨rfl, ih e he⟩)
      exact ⟨es, rfl, es, hsame, .refl es⟩
  | _ => rfl

theorem ItemsSame.refl (ds : List Data) : ItemsSame ds ds :=
  itemsSame_iff.mpr (List.forall₂_same.mpr fun d _ => Same.refl d)

theorem EntriesSame.refl (es : List (Val × Data)) : EntriesSame es es :=
  entriesSame_iff.mpr (List.forall₂_same.mpr fun e _ => ⟨rfl, Same.refl e.2⟩)

/-- Entries in another order are the same. -/
theorem same_of_perm {es es' : List (Val × Data)} (h : es'.Perm es) : (dict es).Same (dict es') :=
  ⟨es', rfl, es, EntriesSame.refl es, h⟩

/-- Names that are written are those of the keys. -/
theorem names_of_entriesWritten {es : List (Val × Data)} {ms : List (Text × LogTree)}
    (h : EntriesWritten es ms) : ms.map (·.1) = es.map fun e => keyName e.1 := by
  induction es generalizing ms with
  | nil => rw [show ms = [] from h]; rfl
  | cons e es ih =>
      obtain ⟨t, ms, rfl, -, hms⟩ := h
      rw [List.map_cons, List.map_cons, ih hms]

theorem keys_of_entriesSame {es es' : List (Val × Data)} (h : EntriesSame es es') :
    es'.map (·.1) = es.map (·.1) := by
  induction es generalizing es' with
  | nil => rw [show es' = [] from h]
  | cons e es ih =>
      obtain ⟨d', es', rfl, -, hes⟩ := h
      rw [List.map_cons, List.map_cons, ih hes]

/-- Members in the order of their names, none of which occurs twice, are known by what they are. -/
theorem members_eq_of_perm {ms ms' : List (Text × LogTree)} (hperm : ms.Perm ms')
    (hnames : (ms.map (·.1)).Nodup) (h : NamesInOrder (ms.map (·.1)))
    (h' : NamesInOrder (ms'.map (·.1))) : ms = ms' := by
  refine hperm.eq_of_pairwise ?_ (List.pairwise_map.mp h) (List.pairwise_map.mp h')
  intro m n hm hn hmn hnm
  exact List.inj_on_of_nodup_map hnames hm (hperm.mem_iff.mpr hn) (eq_of_compareText hnm hmn)

/-- Plain data that is the same is written as one tree. -/
theorem written_eq_of_same {d d' : Data} {t t' : LogTree} (plain : d.Plain) (same : d.Same d')
    (ht : d.Written t) (ht' : d'.Written t') : t = t' := by
  induction d generalizing d' t t' with
  | list ds ih =>
      obtain ⟨ds', rfl, hsame⟩ := same
      obtain ⟨ts, rfl, hts⟩ := ht
      obtain ⟨ts', rfl, hts'⟩ := ht'
      refine congrArg LogTree.array (eq_of_forall₂ (itemsSame_iff.mp hsame)
        (itemsWritten_iff.mp hts) (itemsWritten_iff.mp hts') fun d hd d' t t' hd' ht ht' => ?_)
      exact ih d hd (itemsPlain_iff.mp plain d hd) hd' ht ht'
  | dict es ih =>
      obtain ⟨htexts, hnames, hplain⟩ := plain
      obtain ⟨moved, rfl, es', hsame, hmoved⟩ := same
      obtain ⟨sorted, rfl, ms, hms, hsorted, horder⟩ := ht
      obtain ⟨sorted', rfl, ms', hms', hsorted', horder'⟩ := ht'
      obtain ⟨ms'', hms'', hperm⟩ :=
        List.perm_comp_forall₂ hmoved.symm (entriesWritten_iff.mp hms')
      -- entry by entry, the members are the same; the order of names does the rest
      have hmembers : ms = ms'' := by
        refine eq_of_forall₂ (entriesSame_iff.mp hsame) (entriesWritten_iff.mp hms) hms'' ?_
        rintro e he e' m m' ⟨hkey, he'⟩ ⟨hname, hm⟩ ⟨hname', hm'⟩
        refine Prod.ext (by rw [hname, hname', hkey]) ?_
        exact ih e he (entriesPlain_iff.mp hplain e he) he' hm hm'
      subst hmembers
      have hmovedTexts : AllTexts (moved.map (·.1)) := by
        intro k hk
        have hk := (hmoved.map (·.1)).mem_iff.mp hk
        rw [keys_of_entriesSame hsame] at hk
        exact htexts k hk
      have hdistinct : (sorted.map (·.1)).Nodup := by
        rw [(hsorted.map (·.1)).nodup_iff, names_of_entriesWritten hms]
        exact hnames
      exact congrArg LogTree.object (members_eq_of_perm
        (hsorted.trans (hperm.trans hsorted'.symm)) hdistinct (horder htexts)
        (horder' hmovedTexts))
  | float x => exact plain.elim
  | notANumber => exact plain.elim
  | tuple ds ih => exact plain.elim
  | shown written => exact plain.elim
  | _ =>
      obtain rfl : d' = _ := same
      rw [show t = _ from ht, show t' = _ from ht']

end Data

/-! ## Lines that are read -/

namespace LogTree

theorem pairedMembers_eq_self {ms : List (Text × LogTree)}
    (h : ∀ m ∈ ms, joined m.1 = m.1 ∧ m.2.paired = m.2) : pairedMembers ms = ms := by
  induction ms with
  | nil => rfl
  | cons m ms ih =>
      obtain ⟨⟨hname, hvalue⟩, hrest⟩ := List.forall_mem_cons.mp h
      rw [pairedMembers, hname, hvalue, ih hrest]

theorem pairedItems_eq_self {ts : List LogTree} (h : ∀ t ∈ ts, t.paired = t) :
    pairedItems ts = ts := by
  induction ts with
  | nil => rfl
  | cons t ts ih =>
      obtain ⟨ht, hts⟩ := List.forall_mem_cons.mp h
      rw [pairedItems, ht, ih hts]

/-- Items stand for data one by one. -/
theorem itemsData?_of_forall₂ {ts : List LogTree} {ds : List Data}
    (h : List.Forall₂ (fun t d => t.data? = some d) ts ds) : itemsData? ts = some ds := by
  induction h with
  | nil => rfl
  | cons ht hts ih =>
      rw [itemsData?, ht, ih]
      rfl

/-- Members stand for entries one by one. -/
theorem membersData?_eq_some_iff {ms : List (Text × LogTree)} {es : List (Val × Data)} :
    membersData? ms = some es ↔
      List.Forall₂ (fun m e => e.1 = .str m.1 ∧ m.2.data? = some e.2) ms es := by
  induction ms generalizing es with
  | nil =>
      rw [List.forall₂_nil_left_iff]
      exact ⟨fun h => (Option.some.inj h).symm, fun h => congrArg some h.symm⟩
  | cons m ms ih =>
      rw [List.forall₂_cons_left_iff]
      constructor
      · intro h
        obtain ⟨d, hd, h⟩ := Option.bind_eq_some_iff.mp h
        obtain ⟨es', hes, h⟩ := Option.bind_eq_some_iff.mp h
        obtain rfl := Option.some.inj h
        exact ⟨_, es', ⟨rfl, hd⟩, ih.mp hes, rfl⟩
      · rintro ⟨⟨key, d⟩, es', ⟨rfl, hd⟩, hes, rfl⟩
        rw [membersData?, hd, ih.mpr hes]
        rfl

end LogTree

namespace Data

/-- In what is written of such data, there are no halves of pairs to be joined. -/
theorem Unpaired.paired_eq {d : Data} {t : LogTree} (h : d.Unpaired) (ht : d.Written t) :
    t.paired = t := by
  have hitems : ∀ {ds : List Data} {ts : List LogTree}, ItemsUnpaired ds → ItemsWritten ds ts →
      (∀ d ∈ ds, ∀ t, d.Unpaired → d.Written t → t.paired = t) →
        LogTree.pairedItems ts = ts := by
    intro ds ts hds hts each
    refine LogTree.pairedItems_eq_self fun t ht => ?_
    obtain ⟨d, hd, hwritten⟩ := exists_left_of_forall₂ (itemsWritten_iff.mp hts) t ht
    exact each d hd t (itemsUnpaired_iff.mp hds d hd) hwritten
  induction d generalizing t with
  | text s =>
      rw [show t = _ from ht]
      exact congrArg LogTree.string (joined_of_noPair h)
  | shown written =>
      rw [show t = _ from ht]
      exact congrArg LogTree.string (joined_of_noPair h)
  | tuple ds ih =>
      obtain ⟨ts, rfl, hts⟩ := ht
      exact congrArg LogTree.array (hitems h hts fun d hd t => ih d hd)
  | list ds ih =>
      obtain ⟨ts, rfl, hts⟩ := ht
      exact congrArg LogTree.array (hitems h hts fun d hd t => ih d hd)
  | dict es ih =>
      obtain ⟨sorted, rfl, ms, hms, hsorted, -⟩ := ht
      refine congrArg LogTree.object (LogTree.pairedMembers_eq_self fun m hm => ?_)
      obtain ⟨e, he, hname, hwritten⟩ := exists_left_of_forall₂ (entriesWritten_iff.mp hms) m
        (hsorted.mem_iff.mp hm)
      obtain ⟨hkey, hvalue⟩ := entriesUnpaired_iff.mp h e he
      refine ⟨?_, ih e he hvalue hwritten⟩
      rw [hname]
      exact joined_of_noPair hkey
  | _ =>
      rw [show t = _ from ht]
      rfl

/-- What is written of plain data stands for the same data. -/
theorem exists_data? {d : Data} {t : LogTree} (plain : d.Plain) (ht : d.Written t) :
    ∃ d', t.data? = some d' ∧ d.Same d' := by
  induction d generalizing t with
  | int n =>
      obtain rfl : t = .number (decimalText n).toList := ht
      refine ⟨.int n, ?_, rfl⟩
      rw [LogTree.data?, numberData?, integer?_decimalText]
  | list ds ih =>
      obtain ⟨ts, rfl, hts⟩ := ht
      obtain ⟨ds', hds, hsame⟩ := exists_forall₂_between (itemsWritten_iff.mp hts)
        fun d hd t ht => ih d hd (itemsPlain_iff.mp plain d hd) ht
      refine ⟨.list ds', ?_, ds', rfl, itemsSame_iff.mpr hsame⟩
      rw [LogTree.data?, LogTree.itemsData?_of_forall₂ hds, Option.map_some]
  | dict es ih =>
      obtain ⟨htexts, -, hplain⟩ := plain
      obtain ⟨sorted, rfl, ms, hms, hsorted, -⟩ := ht
      have hentry : ∀ e ∈ es, ∀ m : Text × LogTree, m.1 = keyName e.1 ∧ e.2.Written m.2 →
          ∃ e' : Val × Data, (e'.1 = .str m.1 ∧ m.2.data? = some e'.2) ∧
            e'.1 = e.1 ∧ e.2.Same e'.2 := by
        rintro e he m ⟨hname, hwritten⟩
        obtain ⟨d', hdata, hsame⟩ := ih e he (entriesPlain_iff.mp hplain e he) hwritten
        have htext := htexts e.1 (List.mem_map_of_mem he)
        have hkey : e.1 = .str (keyName e.1) := by
          cases hk : e.1 <;> first | rfl | (rw [hk] at htext; cases htext)
        exact ⟨(e.1, d'), ⟨hname ▸ hkey, hdata⟩, rfl, hsame⟩
      obtain ⟨es', hes, hsame⟩ := exists_forall₂_between (entriesWritten_iff.mp hms) hentry
      obtain ⟨moved, hmoved, hperm⟩ := List.perm_comp_forall₂ hsorted hes
      refine ⟨.dict moved, ?_, moved, rfl, es', entriesSame_iff.mpr hsame, hperm⟩
      rw [LogTree.data?, LogTree.membersData?_eq_some_iff.mpr hmoved, Option.map_some]
  | float x => exact plain.elim
  | notANumber => exact plain.elim
  | tuple ds ih => exact plain.elim
  | shown written => exact plain.elim
  | _ =>
      rw [show t = _ from ht]
      exact ⟨_, rfl, rfl⟩

end Data

/-! ## Records -/

/-- A record whose fields are plain data that is not nested too deeply. -/
structure Record.IsPlain (s : Store) (r : Record) (es : List (Val × Data)) : Prop where
  of : r.Of s es
  plain : ∀ e ∈ es, e.2.Plain
  depth : Data.entriesDepth es ≤ depthLimit

/-- The names of the fields of a record. -/
def fieldNames : List Text := (Record.entries default).map fun e => (e.1 : Text)

theorem names_entries (r : Record) : r.entries.map (fun e => (e.1 : Text)) = fieldNames := rfl

theorem Record.Of.names {s : Store} {r : Record} {es : List (Val × Data)} (of : r.Of s es) :
    (es.map fun e => keyName e.1) = fieldNames := by
  have hkeys := congrArg (List.map keyName) (Data.keys_of_entriesOf of)
  rw [List.map_map, List.map_map, List.map_map] at hkeys
  exact hkeys.symm.trans (names_entries r)

theorem Record.IsPlain.dict_plain {s : Store} {r : Record} {es : List (Val × Data)}
    (h : r.IsPlain s es) : (Data.dict es).Plain := by
  have hdistinct : fieldNames.Nodup := by decide
  exact ⟨h.of.allTexts, h.of.names ▸ hdistinct, Data.entriesPlain_iff.mpr h.plain⟩

theorem Record.Of.dict_unpaired {s : Store} {r : Record} {es : List (Val × Data)} (of : r.Of s es)
    (h : ∀ e ∈ es, e.2.Unpaired) : (Data.dict es).Unpaired := by
  have hnames : ∀ t ∈ fieldNames, NoPair t := by
    intro t ht
    obtain ⟨e, -, rfl⟩ := List.mem_map.mp ht
    exact noPair_ofString e.1
  exact Data.entriesUnpaired_iff.mpr fun e he =>
    ⟨hnames _ (of.names ▸ List.mem_map_of_mem he), h e he⟩

/-- A record of plain data is logged as one printable line, and a record that differs from it in the
order of entries alone is logged as the same line.  What is read from the line is the record, unless
there are two halves of a pair in front of each other in a text. -/
theorem line_of_plain_record_is_canonical {s : Store} {r : Record} {es : List (Val × Data)}
    (plain : r.IsPlain s es) (threshold level : Int) :
    ∃ line : String,
      logged threshold level r s = .ok (if isEnabled threshold level then [line] else []) s ∧
      AllPrintable line.toList ∧
      ((∀ e ∈ es, e.2.Unpaired) →
        ∃ t d, LogTree.read? line.toList = some t ∧ t.data? = some d ∧ (Data.dict es).Same d) ∧
      ∀ {s' : Store} {r' : Record} {es' : List (Val × Data)}, r'.IsPlain s' es' →
        (Data.dict es).Same (.dict es') →
          logged threshold level r' s'
            = .ok (if isEnabled threshold level then [line] else []) s' := by
  have hplain := plain.dict_plain
  obtain ⟨sorted, hline, hwritten⟩ :=
    exists_logLine plain.of ⟨plain.depth, hplain.sortable.2⟩
  refine ⟨_, bind_of_ok hline _, ?_, fun hpairs => ?_, ?_⟩
  · rw [String.toList_ofList]
    exact LogTree.printable_text _ hwritten.numbers
  · obtain ⟨d, hdata, hsame⟩ := Data.exists_data? hplain hwritten
    refine ⟨_, d, ?_, hdata, hsame⟩
    rw [String.toList_ofList, LogTree.read?_text (hwritten.numerals_iff.mpr hplain.finite),
      Data.Unpaired.paired_eq (plain.of.dict_unpaired hpairs) hwritten]
  · intro s' r' es' plain' hsame
    obtain ⟨sorted', hline', hwritten'⟩ :=
      exists_logLine plain'.of ⟨plain'.depth, plain'.dict_plain.sortable.2⟩
    have htree := Data.written_eq_of_same hplain hsame hwritten hwritten'
    rw [htree]
    exact bind_of_ok hline' _

/-! ## Events -/

namespace Event

variable {stamp : Stamp} {e : Event} {m m' : Data}

theorem forall_optional {P : Data → Prop} {α : Type} {f : α → Data} (hnone : P .none)
    (h : ∀ a, P (f a)) (a : Option α) : P (optionalData f a) := by
  cases a with
  | none => exact hnone
  | some a => exact h a

variable (stamp) in
/-- The record of an event without a duration is plain if the metadata is. -/
theorem isPlain_record {s : Store} {v : Val} (countable : e.Countable) (untimed : e.timed = false)
    (of : m.Of s [] v) (plain : m.Plain) (depth : m.depth ≤ depthLimit) :
    (e.record (.str stamp.timestamp) (.float stamp.duration) v stamp.queryText).IsPlain s
      (e.data stamp m) where
  of := record_of stamp countable of
  depth := ((loggable_data_iff stamp e m).mpr ⟨depth, plain.sortable⟩).depth
  plain := by
    have htext {α : Type} (f : α → Text) (a : Option α) :
        (optionalData (fun b => .text (f b)) a).Plain :=
      forall_optional (f := fun b => .text (f b)) trivial (fun _ => trivial) a
    have hcount (n : Option Nat) : (optionalData countData n).Plain :=
      forall_optional (f := countData) trivial (fun _ => trivial) n
    have hduration : (if e.timed then Data.float stamp.duration else .none).Plain := by
      rw [untimed]
      trivial
    simp only [data, List.forall_mem_cons]
    exact ⟨trivial, trivial, trivial, trivial, plain, htext (fun t => t) _, htext _ _,
      hduration, hcount _, hcount _, hcount _, htext _ _, htext _ _, List.forall_mem_nil _⟩

/-- Surrogates come from the time and the metadata alone. -/
theorem unpaired_data (timestamp : NoPair stamp.timestamp) (unpaired : m.Unpaired) :
    ∀ d ∈ e.data stamp m, d.2.Unpaired := by
  have htext {α : Type} (f : α → String) (a : Option α) :
      (optionalData (fun b => .text (f b)) a).Unpaired :=
    forall_optional (f := fun b => .text (f b)) trivial (fun b => noPair_ofString (f b)) a
  have hcount (n : Option Nat) : (optionalData countData n).Unpaired :=
    forall_optional (f := countData) trivial (fun _ => trivial) n
  have hoperation (o : Option String) : (optionalData .text o).Unpaired := by
    cases o with
    | none => trivial
    | some o => exact noPair_ofString o
  have hduration : (if e.timed then Data.float stamp.duration else .none).Unpaired := by
    split <;> trivial
  simp only [data, List.forall_mem_cons]
  exact ⟨timestamp, noPair_ofString _, noPair_ofString _, trivial, unpaired, hoperation _,
    htext _ _, hduration, hcount _, hcount _, hcount _, htext _ _, htext _ _,
    List.forall_mem_nil _⟩

/-- Events that differ in metadata that is the same have the same data. -/
theorem same_data (stamp : Stamp) (e : Event) (h : m.Same m') :
    (Data.dict (e.data stamp m)).Same (.dict (e.data stamp m')) := by
  have hrest : ∀ es : List (Val × Data), Data.EntriesSame es es := Data.EntriesSame.refl
  refine ⟨_, rfl, _, ?_, .refl _⟩
  exact ⟨_, _, rfl, .refl _, _, _, rfl, .refl _, _, _, rfl, .refl _, _, _, rfl, .refl _,
    _, _, rfl, h, hrest _⟩

end Event

/-- Two records that differ in the order of the entries of a dictionary in a list. -/
theorem line_of_plain_record_is_canonical_of_reordered :
    let s (entries : Array (Val × Val)) : Store := { objects := #[.dict entries,
      .list #[.int 1, .object 0, .none], .dict #[(.str "l", .object 1)]] }
    let record := (Event.queryStart "sqlite" "execute" [] 0 2).record (.str "now") (.float 0)
      (.object 2) fun _ => "q"
    let s₁ := s #[(.str "b", .str "\u00e9\n"), (.str "a", .bool true)]
    let s₂ := s #[(.str "a", .bool true), (.str "b", .str "\u00e9\n")]
    ∃ line t, logged 20 20 record s₁ = .ok [line] s₁ ∧ logged 20 20 record s₂ = .ok [line] s₂ ∧
      AllPrintable line.toList ∧ LogTree.read? line.toList = some t ∧ t.data?.isSome := by
  intro s record s₁ s₂
  let stamp : Stamp := ⟨"now", 0, fun _ => "q"⟩
  let e := Event.queryStart "sqlite" "execute" [] 0 2
  let metadata (entries : List (Val × Data)) : Data :=
    .dict [(.str "l", .list [.int 1, .dict entries, .none])]
  have countable : e.Countable :=
    Event.countable_queryStart (Nat.lt_of_lt_of_le (by decide) ten_le_digitBound)
  have isPlain : ∀ {vs : Array (Val × Val)} {es : List (Val × Data)},
      Data.EntriesOf (s vs) [0, 1, 2] es vs.toList → Data.Plain (.dict es) →
        (metadata es).depth ≤ depthLimit → record.IsPlain (s vs) (e.data stamp (metadata es)) := by
    intro vs es of plain depth
    refine Event.isPlain_record stamp countable rfl ?_ ?_ depth
    · refine ⟨2, _, rfl, rfl, nofun, _, _, rfl, hasText_str _, ?_, rfl⟩
      refine ⟨1, _, rfl, rfl, by decide, _, _, rfl, ⟨rfl, hasText_digit (by decide)⟩,
        _, _, rfl, ?_, _, _, rfl, rfl, rfl⟩
      exact ⟨0, vs, rfl, rfl, by decide, of⟩
    · exact ⟨by simp [AllTexts, keyKind], by simp, ⟨trivial, plain, trivial, trivial⟩, trivial⟩
  have plain₁ : record.IsPlain s₁ (e.data stamp (metadata
      [(.str "b", .text "\u00e9\n"), (.str "a", .bool true)])) := by
    refine isPlain ⟨_, _, rfl, hasText_str _, rfl, _, _, rfl, hasText_str _, rfl, rfl⟩ ?_
      (by decide)
    exact ⟨by unfold AllTexts; decide, by decide, trivial, trivial, trivial⟩
  have plain₂ : record.IsPlain s₂ (e.data stamp (metadata
      [(.str "a", .bool true), (.str "b", .text "\u00e9\n")])) := by
    refine isPlain ⟨_, _, rfl, hasText_str _, rfl, _, _, rfl, hasText_str _, rfl, rfl⟩ ?_
      (by decide)
    exact ⟨by unfold AllTexts; decide, by decide, trivial, trivial, trivial⟩
  have unpaired : ∀ d ∈ e.data stamp (metadata
      [(.str "b", .text "\u00e9\n"), (.str "a", .bool true)]), d.2.Unpaired := by
    refine Event.unpaired_data (noPair_ofString "now") ⟨noPair_ofString "l", ⟨trivial, ?_⟩, trivial⟩
    exact ⟨⟨noPair_ofString "b", noPair_ofString "\u00e9\n", noPair_ofString "a", trivial, trivial⟩,
      trivial, trivial⟩
  obtain ⟨line, hline, hprint, hread, hother⟩ :=
    line_of_plain_record_is_canonical plain₁ 20 20
  obtain ⟨t, d, hread, hdata, -⟩ := hread unpaired
  have hentries : (Data.dict [(.str "b", .text "\u00e9\n"), (.str "a", .bool true)]).Same
      (.dict [(.str "a", .bool true), (.str "b", .text "\u00e9\n")]) :=
    Data.same_of_perm (.swap _ _ _)
  have hmetadata : (metadata [(.str "b", .text "\u00e9\n"), (.str "a", .bool true)]).Same
      (metadata [(.str "a", .bool true), (.str "b", .text "\u00e9\n")]) :=
    ⟨_, rfl, _, ⟨_, _, rfl, ⟨_, rfl, _, _, rfl, .refl _, _, _, rfl, hentries,
      Data.ItemsSame.refl _⟩, rfl⟩, .refl _⟩
  have hsame := Event.same_data stamp e hmetadata
  exact ⟨line, t, hline, hother plain₂ hsame, hprint, hread, Option.isSome_of_eq_some hdata⟩

/-! ## Lines that are missing, and lines that are read otherwise -/

/-- The fields of a record in the order in which they are written. -/
def sortedFields (r : Record) : List (Val × Val) :=
  [(.str "component", r.component), (.str "duration_ms", r.durationMs),
    (.str "error_message", r.errorMessage), (.str "error_type", r.errorType),
    (.str "event", r.event), (.str "expression_count", r.expressionCount),
    (.str "metadata", r.metadata), (.str "operation", r.operation),
    (.str "param_count", r.paramCount), (.str "part_count", r.partCount),
    (.str "query_id", r.queryId), (.str "success", r.success), (.str "timestamp", r.timestamp)]

set_option maxRecDepth 4000 in
theorem sortedEntries_fields (r : Record) :
    sortedEntries (r.entries.map fun e => (Val.str e.1, e.2)) = pure (sortedFields r) := by
  funext s
  cbv

/-- Lists in each other. -/
def nested : Nat → Data
  | 0 => .list []
  | n + 1 => .list [nested n]

/-- A store with lists in each other, the empty one first. -/
def nestedStore (n : Nat) : Store where
  objects := (Array.range (n + 1)).map fun k =>
    .list (match k with
      | 0 => #[]
      | k + 1 => #[.object k])

theorem depth_nested (n : Nat) : (nested n).depth = n + 1 := by
  induction n with
  | zero => rfl
  | succ n ih => rw [nested, Data.depth, Data.itemsDepth, Data.itemsDepth, ih, Nat.max_zero]

theorem plain_nested (n : Nat) : (nested n).Plain := by
  induction n with
  | zero => trivial
  | succ n ih => exact ⟨ih, trivial⟩

theorem size_nestedStore (n : Nat) : (nestedStore n).objects.size = n + 1 := by
  rw [nestedStore, Array.size_map, Array.size_range]

/-- The list at an address is nested as deep as the address says. -/
theorem nested_of {n : Nat} {m : Metadata} {k : Nat} (hk : k ≤ n) {inside : List Nat}
    (outside : ∀ a ∈ inside, k < a) :
    (nested k).Of (storeWith (nestedStore n) m) inside (.object k) := by
  have hget : ∀ k ≤ n, (storeWith (nestedStore n) m).objects[k]? = some (.list (match k with
      | 0 => #[]
      | k + 1 => #[.object k])) := by
    intro k hk
    rw [storeWith, Array.getElem?_push, size_nestedStore, if_neg (by omega), nestedStore,
      Array.getElem?_map, Array.getElem?_range, if_pos (by omega)]
    rfl
  induction k generalizing inside with
  | zero => exact ⟨0, #[], rfl, hget 0 hk, fun h => Nat.lt_irrefl 0 (outside 0 h), rfl⟩
  | succ k ih =>
      refine ⟨k + 1, #[.object k], rfl, hget (k + 1) hk,
        fun h => Nat.lt_irrefl (k + 1) (outside (k + 1) h), _, _, rfl, ?_, rfl⟩
      refine ih (by omega) fun a ha => ?_
      rcases List.mem_cons.mp ha with rfl | ha
      · omega
      · exact Nat.lt_trans (Nat.lt_succ_self k) (outside a ha)

theorem nested_metadata (n : Nat) :
    Metadata.Of (nestedStore n) [("d", .object n)] [(.str "d", nested n)] := by
  refine ⟨(nestedStore n).objects.size, _, rfl, Array.getElem?_push_size, nofun, _, _, rfl,
    hasText_str _, nested_of (Nat.le_refl n) fun a ha => ?_, rfl⟩
  rw [List.mem_singleton.mp ha, size_nestedStore]
  exact Nat.lt_succ_self n

/-- An event with lists in each other beyond the limit is not logged, and two events with different
texts are logged as one line, if one text has two halves of a pair where the other one has the
character. -/
theorem deep_event_is_not_logged_and_halves_are_one_character :
    let stamp : Stamp := ⟨"now", 0, fun _ => "q"⟩
    let e (metadata : Metadata) : Event := {
      event := "start", component := "app", success := true, metadata }
    let deep : Metadata := [("d", .object 960)]
    let halves : Metadata := [("t", .str [.surrogate 0, .surrogate 0x400])]
    let whole : Metadata := [("t", .str [.char (Char.ofNat 0x10000)])]
    (deep.Of (nestedStore 960) [(.str "d", nested 960)] ∧ (nested 960).Plain ∧
      ∀ lines s', logEvent 20 20 stamp (e deep) (nestedStore 960) ≠ .ok lines s') ∧
    ∃ line s' s'', logEvent 20 20 stamp (e halves) {} = .ok [line] s' ∧
      logEvent 20 20 stamp (e whole) {} = .ok [line] s'' := by
  intro stamp e deep halves whole
  have countable {m : Metadata} : (e m).Countable := by
    constructor <;> (intro n hn; cases hn)
  have of : deep.Of (nestedStore 960) [(.str "d", nested 960)] := nested_metadata 960
  refine ⟨⟨of, plain_nested 960, fun lines s' h => ?_⟩, ?_⟩
  · obtain ⟨hdepth, -⟩ :=
      (logEvent_returns_iff 20 20 stamp (e := e deep) of countable).mp ⟨lines, s', h⟩
    rw [Data.depth, Data.entriesDepth, Data.entriesDepth, depth_nested] at hdepth
    exact absurd hdepth (by decide)
  · have hsame : addedLines? (logEvent 20 20 stamp (e halves) {})
        = addedLines? (logEvent 20 20 stamp (e whole) {}) := by
      simp only [logEvent_eq, logged, logLine, membersOf, sortedEntries_fields, pure_bind]
      decide +kernel
    have halvesOf : halves.Of {} [(.str "t", .text [.surrogate 0, .surrogate 0x400])] :=
      ⟨0, _, rfl, rfl, List.not_mem_nil, _, _, rfl, hasText_str _, rfl, rfl⟩
    have texts : AllTexts [.str "t"] := by
      unfold AllTexts
      decide
    obtain ⟨line, hhalves, -⟩ := exists_line_of_logEvent 20 20 stamp (e := e halves) halvesOf
      countable ⟨by decide, .inl texts, trivial, trivial⟩
    rw [hhalves] at hsame
    generalize logEvent 20 20 stamp (e whole) {} = result at hsame ⊢
    cases result with
    | error f s'' => cases hsame
    | ok lines s'' =>
        obtain rfl := Option.some.inj hsame
        exact ⟨line, _, s'', hhalves, rfl⟩

end BoundSql.Observe
