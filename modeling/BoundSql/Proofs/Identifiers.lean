import BoundSql.Proofs.BareSites
import BoundSql.Proofs.Boundaries
import BoundSql.Proofs.Sequence
set_option autoImplicit false

/-!
# Identifiers at bare sites

The language of the expressions spells identifiers with the characters of `XID_Start` and
`XID_Continue`.  The reader of sites goes by letters and numeric characters instead.  The two agree
on ASCII, but marks and connectors continue an identifier and no name at a site, and some numeric
characters do the opposite.

A bare site is the whole identifier behind its marker just where the two agree along it, and it is
never more of the text than that.  Both classes are tables of Unicode, so that nothing can be shown
of them character by character; what is used of them is that they are what they are on the 128
characters of ASCII (`forall_ascii`), and that an identifier is read as one word by the lexer,
whatever follows it (`IsVariable.tokens_eq`).

A name that the reader of sites cuts off too early is still a name, and so the site is accepted and
means another variable than the text says.  An identifier with an accent that is written as a mark
of its own is the example.
-/

namespace BoundSql.Expr

/-- An identifier that is no reserved word. -/
structure IsVariable (name : String) : Prop where
  spelled : Text.isIdentifier name.toList = true
  unreserved : keywords.contains name = false

/-- The name that a spelling stands for, in normal form. -/
def nameOf (name : String) : String := String.ofList (Text.normalName name.toList)

/-! ## Characters of words -/

/-- A property of the characters of ASCII can be looked up. -/
theorem forall_ascii {p : Char → Bool}
    (h : ((List.range 0x80).all fun n => p (Char.ofNat n)) = true) {c : Char}
    (hc : c.toNat < 0x80) : p c = true := by
  have hall := List.all_eq_true.mp h c.toNat (List.mem_range.mpr hc)
  rwa [Char.ofNat_toNat] at hall

/-- All other characters may stand in words, so that only ASCII has to be looked up. -/
theorem isWordChar_of_ascii {p : Char → Bool}
    (h : ((List.range 0x80).all fun n => !p (Char.ofNat n) || isWordChar (Char.ofNat n)) = true)
    {c : Char} (hc : p c = true) : isWordChar c = true := by
  by_cases hascii : c.toNat < 0x80
  · have hlookup := forall_ascii (p := fun c => !p c || isWordChar c) h hascii
    rwa [hc] at hlookup
  · have hhigh : 0x80 ≤ c.toNat := Nat.le_of_not_lt hascii
    rw [isWordChar, decide_eq_true hhigh, Bool.or_true]

theorem isWordChar_of_isIdentifierStart {c : Char} (h : Text.isIdentifierStart c = true) :
    isWordChar c = true :=
  isWordChar_of_ascii (by decide +kernel) h

theorem isWordChar_of_isIdentifierContinue {c : Char} (h : Text.isIdentifierContinue c = true) :
    isWordChar c = true :=
  isWordChar_of_ascii (by decide +kernel) h

/-- No identifier begins with a digit. -/
theorem isDigit_of_isIdentifierStart {c : Char} (h : Text.isIdentifierStart c = true) :
    c.isDigit = false := by
  cases hdigit : c.isDigit with
  | false => rfl
  | true =>
      have hascii : c.toNat < 0x80 := by
        simp only [Char.isDigit, Bool.and_eq_true, decide_eq_true_eq] at hdigit
        exact Nat.lt_of_le_of_lt hdigit.2 (by decide)
      have hlookup := forall_ascii (p := fun c => !(Text.isIdentifierStart c && c.isDigit))
        (by decide +kernel) hascii
      rw [h, hdigit] at hlookup
      cases hlookup

theorem exists_of_isIdentifier {cs : List Char} (h : Text.isIdentifier cs = true) :
    ∃ c ds, cs = c :: ds ∧ Text.isIdentifierStart c = true ∧
      ∀ d ∈ ds, Text.isIdentifierContinue d = true := by
  cases cs with
  | nil => cases h
  | cons c ds =>
      obtain ⟨hc, hds⟩ := Bool.and_eq_true_iff.mp h
      exact ⟨c, ds, rfl, hc, List.all_eq_true.mp hds⟩

/-- Reserved words are spelled with the characters of identifiers. -/
theorem isIdentifierContinue_of_mem_keywords {word : List Char}
    (h : keywords.contains (String.ofList word) = true) :
    ∀ d ∈ word, Text.isIdentifierContinue d = true := by
  have hall : (keywords.all fun s => s.toList.all Text.isIdentifierContinue) = true := by
    decide +kernel
  have hword := List.all_eq_true.mp hall _ (List.contains_iff_mem.mp h)
  rw [String.toList_ofList] at hword
  exact List.all_eq_true.mp hword

/-! ## Words as tokens -/

/-- A text that begins with a word is cut off behind the word. -/
theorem front_word {c : Char} {word rest : List Char} (hdigit : c.isDigit = false)
    (hword : ∀ d ∈ c :: word, isWordChar d = true) (hrest : headIs isWordChar rest = false)
    (hquote : headIs Template.isQuote rest = false) :
    front (c :: word ++ rest) = (wordToken (c :: word)).map fun t => (.token t, rest) := by
  have hc : isWordChar c = true := hword c List.mem_cons_self
  have hno : ∀ d, isWordChar d = false → c ≠ d := by
    rintro d hd rfl
    exact Bool.false_ne_true (hd.symm.trans hc)
  have hstop : rest.takeWhile isWordChar = [] ∧ rest.dropWhile isWordChar = rest := by
    cases rest with
    | nil => exact ⟨rfl, rfl⟩
    | cons d rest =>
        have hd : isWordChar d = false := hrest
        simp [hd]
  have htake : (c :: (word ++ rest)).takeWhile isWordChar = c :: word := by
    rw [← List.cons_append, List.takeWhile_append_of_pos hword, hstop.1, List.append_nil]
  have hdrop : (c :: (word ++ rest)).dropWhile isWordChar = rest := by
    rw [← List.cons_append, List.dropWhile_append_of_pos hword, hstop.2]
  have hsingle : headIs (· == '\'') rest = false ∧ headIs (· == '"') rest = false := by
    cases rest with
    | nil => exact ⟨rfl, rfl⟩
    | cons d rest => exact Bool.or_eq_false_iff.mp hquote
  have hbehind : behindWord (c :: word) rest = (wordToken (c :: word)).map fun t => (t, rest) := by
    rw [behindWord]
    split
    · rw [if_neg (by rw [hsingle.1]; exact Bool.false_ne_true),
        if_neg (by rw [hsingle.2]; exact Bool.false_ne_true)]
    · rfl
  have htoken : token (c :: (word ++ rest))
      = (wordToken (c :: word)).map fun t => (t, rest) := by
    simp only [token, hno '\'' rfl, hno '"' rfl, hdigit, hno '.' rfl, decide_false, Bool.or_self,
      Bool.false_and, Bool.false_eq_true, if_false, hc, if_true, htake, hdrop, hbehind]
  simp only [List.cons_append, front, hno ' ' rfl, hno '\t' rfl, hno '\x0c' rfl, hno '#' rfl,
    hno '\n' rfl, hno '\\' rfl, decide_false, Bool.or_self, Bool.false_eq_true, if_false, htoken,
    Option.map_map]
  rfl

/-- Words hold no character that the lexer treats before it cuts tokens off. -/
theorem not_mem_of_isWordChar {word : List Char} (h : ∀ d ∈ word, isWordChar d = true) {c : Char}
    (hc : isWordChar c = false) : c ∉ word :=
  fun hmem => Bool.false_ne_true (hc.symm.trans (h c hmem))

/-- An identifier that is no reserved word is one token. -/
theorem IsVariable.tokens_eq {name : String} (h : IsVariable name) :
    tokens name.toList = some [.name (nameOf name)] := by
  obtain ⟨c, word, hname, hc, hword⟩ := exists_of_isIdentifier h.spelled
  have hchars : ∀ d ∈ name.toList, isWordChar d = true := by
    rw [hname]
    intro d hd
    rcases List.mem_cons.mp hd with rfl | hd
    · exact isWordChar_of_isIdentifierStart hc
    · exact isWordChar_of_isIdentifierContinue (hword d hd)
  have htoken : wordToken name.toList = some (.name (nameOf name)) := by
    have hname : String.ofList name.toList = name := String.ofList_toList
    rw [wordToken, hname, h.unreserved, h.spelled]
    rfl
  have hzero : ¬ name.toList.contains '\x00' = true := fun hmem =>
    not_mem_of_isWordChar hchars rfl (List.contains_iff_mem.mp hmem)
  have hfront : front name.toList = some (.token (.name (nameOf name)), []) := by
    have hcut := @front_word c word [] (isDigit_of_isIdentifierStart hc) (hname ▸ hchars) rfl rfl
    rw [List.append_nil, ← hname, htoken] at hcut
    exact hcut
  rw [tokens, if_neg hzero]
  simp only [unixLines_of_not_mem (not_mem_of_isWordChar hchars rfl)]
  change lexed [] name.toList = _
  rw [lexed_eq [] (ne_nil_of_front_eq_some hfront), hfront]
  rfl

/-- A name may stand alone unless it comes to mean a constant in its normal form. -/
theorem compileTokens_name (id : String) :
    compileTokens [.name id] = if Scope.isConstantName id then none else some (.name id) := by
  have hread : readTokens [.name id] = some (.name id) := rfl
  have hscopes : (Tree.name id).scopesInOrder (levelBound [.name id])
      = ((Scope.require (!Scope.isConstantName id) >>= fun _ => Scope.mention id false).run
          [{ kind := .outermost }]).isSome := rfl
  rw [compileTokens, hread, Option.bind_eq_bind, Option.bind_some, hscopes]
  cases Scope.isConstantName id <;> rfl

/-- An identifier is the expression that looks its name up. -/
theorem IsVariable.compile_eq {name : String} (h : IsVariable name) :
    compile name.toList
      = if Scope.isConstantName (nameOf name) then none else some (.name (nameOf name)) := by
  rw [← compileTokens_name, compile, h.tokens_eq]
  rfl

/-- A source is no expression if it begins with a word that is no identifier. -/
theorem compile_eq_none_of_word {c d : Char} {word rest : List Char}
    (hdigit : c.isDigit = false) (hword : ∀ d ∈ c :: word, isWordChar d = true)
    (hd : d ∈ word) (hno : Text.isIdentifierContinue d = false)
    (hrest : ∀ e, rest.head? = some e → e = '.' ∨ e = '[') :
    compile (c :: word ++ rest) = none := by
  have htoken : wordToken (c :: word) = none := by
    have hkeyword : ¬ keywords.contains (String.ofList (c :: word)) = true := by
      intro hmem
      have hcontinue := isIdentifierContinue_of_mem_keywords hmem d (List.mem_cons_of_mem c hd)
      exact Bool.false_ne_true (hno.symm.trans hcontinue)
    have hidentifier : ¬ Text.isIdentifier (c :: word) = true := by
      intro hspelled
      have hall := (Bool.and_eq_true_iff.mp hspelled).2
      exact Bool.false_ne_true (hno.symm.trans (List.all_eq_true.mp hall d hd))
    simp only [wordToken, hkeyword, hidentifier, Bool.false_eq_true, if_false]
  -- A dot or a bracket is no line end, so that the word ends where it did.
  have hhead : headIs isWordChar (unixLines rest) = false ∧
      headIs Template.isQuote (unixLines rest) = false := by
    cases rest with
    | nil => exact ⟨rfl, rfl⟩
    | cons e rest =>
        rcases hrest e rfl with rfl | rfl
        · rw [unixLines_cons (by decide)]
          exact ⟨rfl, rfl⟩
        · rw [unixLines_cons (by decide)]
          exact ⟨rfl, rfl⟩
  have hfront : front (c :: word ++ unixLines rest) = none := by
    rw [front_word hdigit hword hhead.1 hhead.2, htoken]
    rfl
  have htokens : tokens (c :: word ++ rest) = none := by
    rw [tokens]
    split
    · rfl
    · simp only [unixLines_append_of_not_mem (not_mem_of_isWordChar hword rfl)]
      change lexed [] (c :: word ++ unixLines rest) = none
      have hne : c :: word ++ unixLines rest ≠ [] := List.cons_ne_nil _ _
      rw [lexed_eq [] hne, hfront]
      rfl
  rw [compile, htokens]
  rfl

end BoundSql.Expr

namespace BoundSql.Template

open BoundSql.Expr (IsVariable isWordChar nameOf)
open BoundSql.Value (Store)

/-! ## Names at sites -/

/-- On ASCII a name at a site begins as an identifier does. -/
theorem isNameStart_eq_of_ascii {c : Char} (hc : c.toNat < 0x80) :
    isNameStart c = Text.isIdentifierStart c :=
  eq_of_beq (Expr.forall_ascii (p := fun c => isNameStart c == Text.isIdentifierStart c)
    (by decide +kernel) hc)

/-- On ASCII a name at a site goes on as an identifier does. -/
theorem isNameChar_eq_of_ascii {c : Char} (hc : c.toNat < 0x80) :
    isNameChar c = Text.isIdentifierContinue c :=
  eq_of_beq (Expr.forall_ascii (p := fun c => isNameChar c == Text.isIdentifierContinue c)
    (by decide +kernel) hc)

theorem isWordChar_of_isNameChar {c : Char} (h : isNameChar c = true) : isWordChar c = true :=
  Expr.isWordChar_of_ascii (by decide +kernel) h

/-- A name at a site ends in front of a text that does not go on with it. -/
theorem afterName_append {name rest : List Char} (hname : ∀ c ∈ name, isNameChar c = true)
    (hrest : rest.head?.any isNameChar = false) : afterName (name ++ rest) = rest := by
  rw [afterName, List.dropWhile_append_of_pos hname]
  cases rest with
  | nil => rfl
  | cons c rest =>
      have hc : isNameChar c = false := by simpa using hrest
      simp [hc]

/-- The text behind an identifier: the identifier ends in front of it, and no access begins it. -/
def EndsVariable (rest : String) : Prop :=
  ∀ c, rest.toList.head? = some c → Text.isIdentifierContinue c = false ∧ c ≠ '.' ∧ c ≠ '['

/-- An identifier ends in front of a blank. -/
theorem endsVariable_blank (rest : String) (h : rest.toList.head? = some ' ') :
    EndsVariable rest := by
  intro c hc
  obtain rfl : ' ' = c := Option.some.inj (h.symm.trans hc)
  decide +kernel

/-- What a bare site takes of an identifier, letters and numeric characters in a row. -/
def takenName : List Char → List Char
  | [] => []
  | c :: cs => c :: cs.takeWhile isNameChar

/-- An identifier is a name at a site, too, as far as its characters and the text behind it go, and
its name means no constant. -/
structure TakenWhole (name rest : String) : Prop where
  begins : ∀ c, name.toList.head? = some c → isNameStart c = true
  goesOn : ∀ c ∈ name.toList.tail, isNameChar c = true
  ends : ∀ c, rest.toList.head? = some c → isNameChar c = false
  changes : Expr.Scope.isConstantName (nameOf name) = false

theorem noAccess_of_head {cs : List Char}
    (h : ∀ c, cs.head? = some c → c ≠ '.' ∧ c ≠ '[') : NoAccess cs where
  noSubscript := fun hhead => (h _ hhead).2 rfl
  noAttribute := by
    rintro c rest rfl
    exact absurd rfl (h '.' rfl).1

/-- Accesses begin with a dot or with a bracket. -/
theorem Accesses.head_eq {cs : List Char} (h : Accesses cs) :
    ∀ c, cs.head? = some c → c = '.' ∨ c = '[' := by
  intro c hc
  cases h with
  | nil => cases hc
  | member letters tail => exact .inl (Option.some.inj hc).symm
  | subscript inside tail => exact .inr (Option.some.inj hc).symm

section Sites

variable {room : Room} {name rest : String} {site : Site Expr.Tree} {after : List Char}

/-- Where a name at a site goes on behind an identifier, nothing is read. -/
theorem Site.read_ne_ok_of_head {c d : Char} {cs ds : List Char}
    (hc : Text.isIdentifierStart c = true) (hcs : ∀ e ∈ cs, isNameChar e = true)
    (hd : isNameChar d = true) (hno : Text.isIdentifierContinue d = false) :
    Site.read room.compile (c :: (cs ++ d :: ds)) ≠ .ok (site, after) := by
  intro hread
  rcases Site.read_cases hread with ⟨rfl, -⟩ | ⟨hparen, hstart, hafter⟩
  · exact absurd hc (by decide +kernel)
  obtain ⟨accesses, hbehind, haccesses⟩ := exists_accesses hafter
  have htake : (cs ++ d :: ds).takeWhile isNameChar = cs ++ d :: ds.takeWhile isNameChar := by
    rw [List.takeWhile_append_of_pos hcs, List.takeWhile_cons, if_pos hd]
  have hwhole : cs ++ d :: ds = ((cs ++ d :: ds.takeWhile isNameChar) ++ accesses) ++ after := by
    rw [List.append_assoc, ← hbehind, ← htake, takeWhile_append_afterName]
  rw [hwhole] at hread hafter
  rw [Site.read_named hparen hstart hafter, map_fst_eq_ok_iff,
    Site.make_room_eq_ok_iff (List.cons_ne_nil _ _)] at hread
  obtain ⟨⟨-, code, hcode, -⟩, -⟩ := hread
  have hword : ∀ e ∈ c :: (cs ++ d :: ds.takeWhile isNameChar), isWordChar e = true := by
    intro e he
    rcases List.mem_cons.mp he with rfl | he
    · exact Expr.isWordChar_of_isIdentifierStart hc
    · rw [← htake] at he
      exact isWordChar_of_isNameChar (List.all_eq_true.mp List.all_takeWhile e he)
  have hnone := Expr.compile_eq_none_of_word (Expr.isDigit_of_isIdentifierStart hc) hword
    (List.mem_append_right cs List.mem_cons_self) hno haccesses.head_eq
  exact absurd (hnone.symm.trans hcode) nofun

/-- A bare site in front of text that goes on neither with a name nor with an access is made of the
name alone, for which there is always room. -/
theorem Site.read_name {c : Char} {cs tail : List Char} (hparen : c ≠ '(')
    (hc : isNameStart c = true) (hcs : ∀ e ∈ cs, isNameChar e = true)
    (htail : ∀ e, tail.head? = some e → isNameChar e = false ∧ e ≠ '.' ∧ e ≠ '[') :
    Site.read room.compile (c :: (cs ++ tail)) = .ok (site, after) ↔
      after = tail ∧ ∃ code, Expr.compile (c :: cs) = some code ∧
        site = ⟨String.ofList (c :: cs), false, code⟩ := by
  have hhead : tail.head?.any isNameChar = false := by
    cases tail with
    | nil => rfl
    | cons e tail => simpa using (htail e rfl).1
  have hafter : afterAccesses (afterName (cs ++ tail)) = .ok tail := by
    rw [afterName_append hcs hhead]
    exact afterAccesses_of_noAccess (noAccess_of_head fun e he => (htail e he).2)
  have hfits : room.exhausts (c :: cs) = none := by
    refine room.name _ (List.all_eq_true.mpr fun e he => ?_)
    rcases List.mem_cons.mp he with rfl | he
    · exact isNameChar_of_isNameStart hc
    · exact hcs e he
  rw [Site.read_named hparen hc hafter, map_fst_eq_ok_iff,
    Site.make_room_eq_ok_iff (List.cons_ne_nil c cs), and_iff_right hfits, and_comm, eq_comm]

/-- What is read at an identifier is what a bare site takes of it.  Nothing is read if the first
character begins no name, or if the whole identifier is taken and the name goes on behind it. -/
theorem Site.read_variable (h : IsVariable name) (apart : EndsVariable rest) :
    Site.read room.compile (name.toList ++ rest.toList) = .ok (site, after) ↔
      name.toList ++ rest.toList = takenName name.toList ++ after ∧
        (∀ c, name.toList.head? = some c → isNameStart c = true) ∧
        (takenName name.toList = name.toList →
          ∀ c, rest.toList.head? = some c → isNameChar c = false) ∧
        ∃ code, Expr.compile (takenName name.toList) = some code ∧
          site = ⟨String.ofList (takenName name.toList), false, code⟩ := by
  obtain ⟨c, cs, hname, hc, hcs⟩ := Expr.exists_of_isIdentifier h.spelled
  have hparen : c ≠ '(' := by
    rintro rfl
    exact absurd hc (by decide +kernel)
  have hsplit : cs.takeWhile isNameChar ++ cs.dropWhile isNameChar = cs :=
    List.takeWhile_append_dropWhile
  have htaken : ∀ e ∈ cs.takeWhile isNameChar, isNameChar e = true :=
    List.all_eq_true.mp List.all_takeWhile
  simp only [hname, takenName, List.head?_cons, Option.some.injEq, forall_eq', List.cons_append,
    List.cons.injEq, true_and]
  by_cases hstart : isNameStart c = true
  swap
  · refine iff_of_false (fun hread => ?_) fun hright => hstart hright.2.1
    rcases Site.read_cases hread with ⟨heq, -⟩ | ⟨-, hbegins, -⟩
    · exact hparen heq
    · exact hstart hbegins
  cases hdrop : cs.dropWhile isNameChar with
  | cons d ds =>
      -- The identifier goes on where the name ends.
      have hmem : d ∈ cs := hsplit ▸ hdrop ▸ List.mem_append_right _ List.mem_cons_self
      have hd : isNameChar d = false := by
        have hhead := List.head?_dropWhile_not isNameChar cs
        rw [hdrop] at hhead
        simpa using hhead
      have haccess : d ≠ '.' ∧ d ≠ '[' := by
        constructor <;> rintro rfl <;> exact absurd (hcs _ hmem) (by decide +kernel)
      have hshort : cs.takeWhile isNameChar ≠ cs := by
        intro heq
        have hall := htaken d (heq.symm ▸ hmem)
        rw [hd] at hall
        cases hall
      have hwhole : cs ++ rest.toList = cs.takeWhile isNameChar ++ (d :: ds ++ rest.toList) := by
        rw [← List.append_assoc, ← hdrop, hsplit]
      rw [hwhole, Site.read_name hparen hstart htaken fun e he => by
        obtain rfl := Option.some.inj he
        exact ⟨hd, haccess⟩]
      simp only [List.append_cancel_left_eq, @eq_comm _ after, hstart, hshort, false_implies,
        true_and]
  | nil =>
      have hwhole : cs.takeWhile isNameChar = cs := by rwa [hdrop, List.append_nil] at hsplit
      rw [hwhole] at htaken ⊢
      simp only [List.append_cancel_left_eq, hstart, true_implies, true_and]
      by_cases hends : ∀ e, rest.toList.head? = some e → isNameChar e = false
      · rw [Site.read_name hparen hstart htaken fun e he => ⟨hends e he, (apart e he).2⟩]
        rw [@eq_comm _ after]
        exact and_congr_right fun _ => (and_iff_right hends).symm
      · refine iff_of_false (fun hread => ?_) fun hright => hends hright.2.1
        simp only [not_forall, Bool.not_eq_false] at hends
        obtain ⟨d, hhead, hd⟩ := hends
        obtain ⟨ds, hrest⟩ : ∃ ds, rest.toList = d :: ds := by
          cases hrest : rest.toList with
          | nil => rw [hrest] at hhead; cases hhead
          | cons e ds => rw [hrest] at hhead; exact ⟨ds, by rw [Option.some.inj hhead]⟩
        rw [hrest] at hread
        exact Site.read_ne_ok_of_head hc htaken hd (apart d hhead).1 hread

/-- A site is read at an offset if it is found there. -/
theorem readSite_eq_ok_iff {text : String} {start stop : Nat} {store store' : Store} :
    readSite room text start store = .ok (site, stop) store' ↔
      siteAt room.compile text start = .ok (site, stop) ∧ store' = store := by
  rw [readSite]
  cases siteAt room.compile text start with
  | error f =>
      constructor
      · intro h
        cases h
      · rintro ⟨h, -⟩
        cases h
  | ok found =>
      rw [Build.ofScan, pure_eq_ok_iff, Except.ok.injEq, eq_comm]
      exact and_congr_right fun _ => eq_comm

end Sites

/-! ## Whole identifiers -/

/-- An identifier of ASCII is taken whole in front of ASCII. -/
theorem takenWhole_of_ascii {name rest : String} (h : IsVariable name) (apart : EndsVariable rest)
    (hname : ∀ c ∈ name.toList, c.toNat < 0x80)
    (hrest : ∀ c, rest.toList.head? = some c → c.toNat < 0x80) : TakenWhole name rest where
  begins := by
    intro c hc
    obtain ⟨d, ds, hsplit, hd, -⟩ := Expr.exists_of_isIdentifier h.spelled
    rw [hsplit] at hc hname
    obtain rfl := Option.some.inj hc
    rwa [isNameStart_eq_of_ascii (hname d List.mem_cons_self)]
  goesOn := by
    intro c hc
    obtain ⟨d, ds, hsplit, -, hds⟩ := Expr.exists_of_isIdentifier h.spelled
    rw [hsplit] at hc hname
    rw [isNameChar_eq_of_ascii (hname c (List.mem_of_mem_tail hc))]
    exact hds c hc
  ends := fun c hc => (isNameChar_eq_of_ascii (hrest c hc)).trans (apart c hc).1
  changes := by
    rw [nameOf, Text.normalName_of_ascii hname, String.ofList_toList]
    refine Bool.eq_false_iff.mpr fun hconstant => ?_
    simp only [Expr.Scope.isConstantName, Bool.or_eq_true, beq_iff_eq] at hconstant
    have hkeyword : Expr.keywords.contains name = true := by
      rcases hconstant with (rfl | rfl) | rfl <;> rfl
    exact Bool.false_ne_true (h.unreserved.symm.trans hkeyword)

/-- A name is taken whole if all of it can stand in a name at a site. -/
theorem takenName_eq_self_iff {cs : List Char} :
    takenName cs = cs ↔ ∀ c ∈ cs.tail, isNameChar c = true := by
  cases cs with
  | nil => simp [takenName]
  | cons c cs => rw [takenName, List.cons.injEq, List.tail_cons, List.takeWhile_eq_self_iff]; simp

/-- A site behind a marker at the beginning of a text. -/
theorem siteAt_one_eq_ok_iff {Code : Type} {compile : List Char → Verdict Code} {text : String}
    {site : Site Code} {stop : Nat} :
    siteAt compile ("$" ++ text) 1 = .ok (site, stop) ↔
      ∃ span after, text.toList = span ++ after ∧ stop = 1 + span.length ∧
        Site.read compile text.toList = .ok (site, after) := by
  have hdrop : ("$" ++ text).toList.drop 1 = text.toList := by
    rw [String.toList_append]
    rfl
  constructor
  · intro h
    cases hread : Site.read compile text.toList with
    | error r =>
        rw [siteAt, hdrop, hread] at h
        cases h
    | ok found =>
        obtain ⟨site', after⟩ := found
        obtain ⟨span, htext⟩ := Site.read_suffix hread
        rw [siteAt_eq_ok (hdrop.trans htext.symm) (htext.symm ▸ hread)] at h
        obtain ⟨rfl, rfl⟩ := Prod.mk.inj (Except.ok.inj h)
        exact ⟨span, after, htext.symm, rfl, rfl⟩
  · rintro ⟨span, after, htext, rfl, hread⟩
    exact siteAt_eq_ok (hdrop.trans htext) (htext ▸ hread)

/-- A bare site is the whole identifier behind its marker, and looks its name up, if and only if the
identifier is a name at a site, too.  Whatever is read is what a bare site takes of the identifier,
and never more. -/
theorem bare_site_is_identifier_iff {room : Room} {name rest : String} (h : IsVariable name)
    (apart : EndsVariable rest) (store : Store) :
    (readSite room ("$" ++ name ++ rest) 1 store
        = .ok (⟨name, false, .name (nameOf name)⟩, 1 + name.length) store ↔
      TakenWhole name rest) ∧
    ∀ site stop store', readSite room ("$" ++ name ++ rest) 1 store = .ok (site, stop) store' →
      site.source.toList = takenName name.toList ∧ stop = 1 + site.source.length := by
  rw [String.append_assoc]
  have htext : (name ++ rest).toList = name.toList ++ rest.toList := String.toList_append
  have hread : ∀ site stop store',
      readSite room ("$" ++ (name ++ rest)) 1 store = .ok (site, stop) store' →
        site.source.toList = takenName name.toList ∧ stop = 1 + site.source.length := by
    intro site stop store' hsite
    obtain ⟨hat, -⟩ := readSite_eq_ok_iff.mp hsite
    obtain ⟨span, after, hspan, rfl, hread⟩ := siteAt_one_eq_ok_iff.mp hat
    rw [htext] at hspan hread
    obtain ⟨htaken, -, -, code, -, rfl⟩ := (Site.read_variable h apart).mp hread
    have hlength : span = takenName name.toList :=
      List.append_cancel_right (hspan.symm.trans htaken)
    simp only [hlength, String.toList_ofList, String.length_ofList, and_self]
  refine ⟨⟨fun hwhole => ?_, fun hwhole => ?_⟩, hread⟩
  · obtain ⟨hsource, -⟩ := hread _ _ _ hwhole
    obtain ⟨hat, -⟩ := readSite_eq_ok_iff.mp hwhole
    obtain ⟨span, after, -, -, hsite⟩ := siteAt_one_eq_ok_iff.mp hat
    rw [htext] at hsite
    obtain ⟨-, hbegins, hends, code, hcode, -⟩ := (Site.read_variable h apart).mp hsite
    have htaken : takenName name.toList = name.toList := hsource.symm
    rw [htaken, h.compile_eq] at hcode
    refine ⟨hbegins, takenName_eq_self_iff.mp htaken, hends htaken, ?_⟩
    exact Bool.eq_false_iff.mpr fun hconstant => by rw [if_pos hconstant] at hcode; cases hcode
  · have htaken : takenName name.toList = name.toList := takenName_eq_self_iff.mpr hwhole.goesOn
    have hcode : Expr.compile name.toList = some (.name (nameOf name)) := by
      rw [h.compile_eq, hwhole.changes]
      rfl
    have hsite : Site.read room.compile (name.toList ++ rest.toList)
        = .ok (⟨name, false, .name (nameOf name)⟩, rest.toList) := by
      refine (Site.read_variable h apart).mpr ⟨by rw [htaken], hwhole.begins, fun _ => hwhole.ends,
        .name (nameOf name), ?_, ?_⟩
      · rw [htaken, hcode]
      · rw [htaken, String.ofList_toList]
    refine readSite_eq_ok_iff.mpr ⟨siteAt_one_eq_ok_iff.mpr ?_, rfl⟩
    exact ⟨name.toList, rest.toList, htext, rfl, htext ▸ hsite⟩

/-- A name of ASCII in front of a blank. -/
theorem bare_site_is_identifier_iff_of_ascii :
    (IsVariable "user_1" ∧ EndsVariable " = 1" ∧ TakenWhole "user_1" " = 1") ∧
      ∀ store : Store, readSite .standard ("$" ++ "user_1" ++ " = 1") 1 store
        = .ok (⟨"user_1", false, .name (nameOf "user_1")⟩, 7) store := by
  have hname : IsVariable "user_1" := ⟨by decide +kernel, by decide⟩
  have hends : EndsVariable " = 1" := endsVariable_blank " = 1" rfl
  have hascii : ∀ c, " = 1".toList.head? = some c → c.toNat < 0x80 := by
    intro c hc
    obtain rfl : ' ' = c := Option.some.inj hc
    decide
  have hwhole := takenWhole_of_ascii hname hends (by simp) hascii
  exact ⟨⟨hname, hends, hwhole⟩, fun store =>
    (bare_site_is_identifier_iff hname hends store).1.mpr hwhole⟩

/-- A letter with a combining accent is an identifier, but the bare site is the letter alone, and
the accent is left as text. -/
theorem bare_site_ends_at_accent :
    (IsVariable "e\u0301" ∧ EndsVariable " ") ∧
      ∀ store : Store, readSite .standard ("$" ++ "e\u0301" ++ " ") 1 store
        = .ok (⟨"e", false, .name (nameOf "e")⟩, 2) store := by
  have hname : IsVariable "e\u0301" := ⟨by decide +kernel, by decide⟩
  have hletter : IsVariable "e" := ⟨by decide +kernel, by decide⟩
  have hends : EndsVariable " " := endsVariable_blank " " rfl
  refine ⟨⟨hname, hends⟩, fun store => ?_⟩
  have htaken : takenName "e\u0301".toList = "e".toList := by decide +kernel
  have hread : Site.read Room.standard.compile ("e\u0301".toList ++ " ".toList)
      = .ok (⟨"e", false, .name (nameOf "e")⟩, "\u0301 ".toList) := by
    refine (Site.read_variable hname hends).mpr ⟨rfl, ?_, ?_, .name (nameOf "e"), ?_, rfl⟩
    · intro c hc
      obtain rfl : 'e' = c := Option.some.inj hc
      decide +kernel
    · intro hwhole
      rw [htaken] at hwhole
      exact absurd hwhole (by decide)
    · have hascii : ∀ c, "".toList.head? = some c → c.toNat < 0x80 := by simp
      have hend : EndsVariable "" := by simp [EndsVariable]
      have hwhole := takenWhole_of_ascii hletter hend (by simp) hascii
      rw [htaken, hletter.compile_eq, hwhole.changes]
      rfl
  rw [String.append_assoc]
  exact readSite_eq_ok_iff.mpr ⟨siteAt_one_eq_ok_iff.mpr ⟨"e".toList, _, rfl, rfl, hread⟩, rfl⟩

end BoundSql.Template
