import BoundSql.Proofs.Groups
import BoundSql.Template.Build
set_option autoImplicit false

/-!
# Names with accesses in parentheses

A site may be a name with accesses as it is, or an expression in parentheses.  Two readers look for
its end, and they have nothing in common: one goes from access to access and stops where the name
does not go on, the other looks for the parenthesis that closes.  That both come to the same source
for the same text is therefore a theorem, and the one that this module ends with.

What the first reader takes is described by `Accesses`, a row of attributes and subscripts behind a
name (`exists_accesses`).  Such a row is made of items of the bracket grammar
(`Accesses.groupItems`), so to the second reader it is the content of a group, and of no group that
ends earlier.  It begins with a letter and ends filled, so that nothing is trimmed from it and it is
no splat; hence it is read from the same source, up to its own parenthesis
(`IsPath.read_parenthesised`).

The two sites bind alike under every evaluator for which the same source means the same, in
parentheses or not.
-/

namespace BoundSql.Template

open BoundSql.Expr (Plain isPlain plain_nil)

/-! ## Characters of names -/

/-- The code points of the blanks. -/
def blankCodes : List Nat :=
  [9, 10, 11, 12, 13, 28, 29, 30, 31, 32, 0x85, 0xA0, 0x1680, 0x2000, 0x2001, 0x2002, 0x2003,
    0x2004, 0x2005, 0x2006, 0x2007, 0x2008, 0x2009, 0x200A, 0x2028, 0x2029, 0x202F, 0x205F, 0x3000]

theorem mem_blankCodes {c : Char} (h : Text.isBlank c = true) : c.toNat ∈ blankCodes := by
  simp only [Text.isBlank, Bool.or_eq_true, Bool.and_eq_true, decide_eq_true_eq, beq_iff_eq] at h
  simp only [blankCodes, List.mem_cons, List.not_mem_nil, or_false]
  omega

/-- A character of a name, be it the first one or another. -/
def isNamePart (c : Char) : Bool := isNameStart c || isNameChar c

/-- No name has a blank in it. -/
theorem isBlank_of_isNamePart {c : Char} (h : isNamePart c = true) : Text.isBlank c = false := by
  have hall : (blankCodes.all fun n => !isNamePart (Char.ofNat n)) = true := by decide +kernel
  refine Bool.eq_false_iff.mpr fun hblank => ?_
  have hnot := List.all_eq_true.mp hall c.toNat (mem_blankCodes hblank)
  rw [Char.ofNat_toNat, h] at hnot
  cases hnot

/-- No name has a quote, a bracket or the sign of a comment in it. -/
theorem isPlain_of_isNamePart {c : Char} (h : isNamePart c = true) : isPlain c = true := by
  cases hc : isPlain c with
  | true => rfl
  | false =>
      simp only [isPlain, Bool.not_eq_false', Bool.or_eq_true, beq_iff_eq] at hc
      have hnot : isNamePart c = false := by
        rcases hc with (((((((rfl | rfl) | rfl) | rfl) | rfl) | rfl) | rfl) | rfl) | rfl <;>
          decide +kernel
      exact hnot.symm.trans h

/-! ## Names with accesses -/

/-- The characters of a name. -/
def NameText (cs : List Char) : Prop := ∀ c ∈ cs, isNamePart c = true

/-- Attributes and subscripts, one behind the other. -/
inductive Accesses : List Char → Prop where
  | nil : Accesses []
  | member {name others : List Char} (letters : NameText name) (tail : Accesses others) :
      Accesses ('.' :: (name ++ others))
  | subscript {inner others : List Char} (inside : GroupItems CommentText inner)
      (tail : Accesses others) : Accesses ('[' :: (inner ++ ']' :: others))

theorem nameText_cons {c : Char} (hc : isNameStart c = true) (cs : List Char) :
    NameText (c :: cs.takeWhile isNameChar) := by
  intro d hd
  rcases List.mem_cons.mp hd with rfl | hd
  · rw [isNamePart, hc, Bool.true_or]
  · rw [isNamePart, List.all_eq_true.mp List.all_takeWhile d hd, Bool.or_true]

theorem takeWhile_append_afterName (cs : List Char) :
    cs.takeWhile isNameChar ++ afterName cs = cs :=
  List.takeWhile_append_dropWhile

/-- What the reader of accesses takes is a row of accesses. -/
theorem exists_accesses {cs rest : List Char} (h : afterAccesses cs = .ok rest) :
    ∃ accesses, cs = accesses ++ rest ∧ Accesses accesses := by
  fun_induction afterAccesses cs with
  | case1 c ds hc hlen ih =>
      obtain ⟨accesses, hbehind, haccesses⟩ := ih h
      refine ⟨'.' :: (c :: ds.takeWhile isNameChar ++ accesses), ?_,
        .member (nameText_cons hc ds) haccesses⟩
      rw [List.cons_append, List.append_assoc, ← hbehind, List.cons_append,
        takeWhile_append_afterName]
  | case2 => exact ⟨[], (Except.ok.inj h), .nil⟩
  | case3 => cases h
  | case4 ds after hafter hlen ih =>
      obtain ⟨accesses, rfl, haccesses⟩ := ih h
      obtain ⟨inner, hinner, rfl⟩ := (afterBracket_eq_ok_iff rfl).mp hafter
      exact ⟨'[' :: (inner ++ ']' :: accesses), by simp, .subscript hinner haccesses⟩
  | case5 => exact ⟨[], (Except.ok.inj h), .nil⟩

/-- Names are made of items. -/
theorem GroupItems.name_append {name others : List Char} (hname : NameText name)
    (h : GroupItems CommentText others) : GroupItems CommentText (name ++ others) := by
  induction name with
  | nil => exact h
  | cons c name ih =>
      have hc := isPlain_of_isNamePart (hname c List.mem_cons_self)
      exact .char hc (ih fun d hd => hname d (List.mem_cons_of_mem c hd))

/-- The search for a closing bracket takes accesses as a row of items. -/
theorem Accesses.groupItems {cs : List Char} (h : Accesses cs) : GroupItems CommentText cs := by
  induction h with
  | nil => exact .nil
  | member letters tail ih => exact .char rfl (ih.name_append letters)
  | subscript inside tail ih => exact .group rfl inside ih

/-- The text does not end with a blank. -/
def EndsFilled (cs : List Char) : Prop := ∀ c, cs.getLast? = some c → Text.isBlank c = false

theorem EndsFilled.append {cs ds : List Char} (hcs : ds = [] → EndsFilled cs)
    (hds : EndsFilled ds) : EndsFilled (cs ++ ds) := by
  intro c hc
  rw [List.getLast?_append, Option.or_eq_some_iff, List.getLast?_eq_none_iff] at hc
  rcases hc with hc | ⟨hnil, hc⟩
  · exact hds c hc
  · exact hcs hnil c hc

theorem endsFilled_singleton {c : Char} (hc : Text.isBlank c = false) : EndsFilled [c] := by
  intro d hd
  obtain rfl := Option.some.inj hd
  exact hc

theorem NameText.endsFilled {name : List Char} (h : NameText name) : EndsFilled name :=
  fun c hc => isBlank_of_isNamePart (h c (List.mem_of_getLast? hc))

/-- Accesses end with a name or with a bracket. -/
theorem Accesses.endsFilled {cs : List Char} (h : Accesses cs) : EndsFilled cs := by
  induction h with
  | nil => exact nofun
  | @member name others letters tail ih =>
      have hname : EndsFilled (name ++ others) := .append (fun _ => letters.endsFilled) ih
      exact .append (fun _ => endsFilled_singleton rfl) hname
  | @subscript inner others inside tail ih =>
      -- What stands between the brackets may end with a blank, the closing bracket is none.
      have hbracket : EndsFilled (']' :: others) := .append (fun _ => endsFilled_singleton rfl) ih
      have hrow : EndsFilled (('[' :: inner) ++ ']' :: others) :=
        .append (fun hnil => absurd hnil (List.cons_ne_nil _ _)) hbracket
      exact hrow

/-- A name with accesses. -/
def IsPath (cs : List Char) : Prop :=
  ∃ c name accesses, cs = c :: (name ++ accesses) ∧ isNameStart c = true ∧ NameText (c :: name) ∧
    Accesses accesses

/-! ## Sites -/

variable {Code : Type} {compile : List Char → Verdict Code} {site : Site Code}

/-- A site that begins with no parenthesis has a name with accesses as its source. -/
theorem Site.exists_path {cs rest : List Char} (h : Site.read compile cs = .ok (site, rest))
    (hparen : cs.head? ≠ some '(') :
    ∃ path code, IsPath path ∧ cs = path ++ rest ∧ compile path = .code code ∧
      site = ⟨String.ofList path, false, code⟩ := by
  cases cs with
  | nil => cases h
  | cons c cs =>
      rcases Site.read_cases h with ⟨rfl, -⟩ | ⟨hne, hname, hafter⟩
      · exact absurd rfl hparen
      · obtain ⟨accesses, hbehind, haccesses⟩ := exists_accesses hafter
        have hcs : cs = (cs.takeWhile isNameChar ++ accesses) ++ rest := by
          rw [List.append_assoc, ← hbehind, takeWhile_append_afterName]
        have hread := h
        rw [hcs] at hread hafter
        rw [Site.read_named hne hname hafter, map_fst_eq_ok_iff,
          Site.make_eq_ok_iff (List.cons_ne_nil _ _)] at hread
        obtain ⟨⟨code, hcode, rfl⟩, -⟩ := hread
        refine ⟨_, code, ⟨c, _, accesses, rfl, hname, nameText_cons hname cs, haccesses⟩, ?_,
          hcode, rfl⟩
        rw [List.cons_append, ← hcs]

/-- The search for a closing bracket takes a name with accesses as a row of items. -/
theorem IsPath.groupItems {path : List Char} (h : IsPath path) : GroupItems CommentText path := by
  obtain ⟨c, name, accesses, rfl, -, hname, haccesses⟩ := h
  exact haccesses.groupItems.name_append hname

theorem IsPath.trim_eq {path : List Char} (h : IsPath path) : Text.trim path = path := by
  obtain ⟨c, name, accesses, rfl, -, hname, haccesses⟩ := h
  refine Text.trim_eq_self (fun d hd => ?_) ?_
  · obtain rfl := Option.some.inj hd
    exact isBlank_of_isNamePart (hname c List.mem_cons_self)
  · exact EndsFilled.append (fun _ => hname.endsFilled) haccesses.endsFilled

theorem IsPath.not_isSplat {path : List Char} (h : IsPath path) : isSplat path = false := by
  obtain ⟨c, name, accesses, rfl, hc, -, -⟩ := h
  have hstar : c ≠ '*' := by
    rintro rfl
    have hnot : isNameStart '*' = false := by decide +kernel
    exact absurd (hnot.symm.trans hc) Bool.false_ne_true
  unfold isSplat
  split
  next heq => exact absurd (List.cons.inj heq).1 hstar
  next heq => exact absurd (List.cons.inj heq).1 hstar
  next => rfl

/-- A name with accesses in parentheses is read up to its parenthesis. -/
theorem IsPath.read_parenthesised {path : List Char} (h : IsPath path) {code : Code}
    (hcode : compile ('(' :: (path ++ ['\n', ')'])) = .code code) (rest : List Char) :
    Site.read compile ('(' :: (path ++ [')'] ++ rest))
      = .ok (⟨String.ofList path, false, code⟩, rest) := by
  have hbracket : afterBracket '(' (path ++ [')'] ++ rest) = .ok rest :=
    (afterBracket_eq_ok_iff rfl).mpr ⟨path, h.groupItems, by rw [List.append_assoc]; rfl⟩
  have hne : path ≠ [] := by
    obtain ⟨c, name, accesses, rfl, -⟩ := h
    exact List.cons_ne_nil _ _
  rw [Site.read_parenthesised hbracket, map_fst_eq_ok_iff, List.dropLast_concat, Site.ofInner,
    h.trim_eq, h.not_isSplat]
  exact ⟨(Site.make_eq_ok_iff hne).mpr ⟨code, hcode, rfl⟩, rfl⟩

/-! ## Both forms -/

/-- An expression means the same in parentheses of its own, whatever the names in scope: if a source
is an expression, so is the source in parentheses, and its value is computed in the same way. -/
def MeansSameInside {Names V : Type} {m : Type → Type} (compile : List Char → Verdict Code)
    (evaluator : Names → Evaluator m Code V) (source : List Char) : Prop :=
  ∀ code, compile source = .code code →
    ∃ inside, compile ('(' :: (source ++ ['\n', ')'])) = .code inside ∧
      ∀ names, (evaluator names).value inside = (evaluator names).value code

/-- The bare and the parenthesised form of a site agree.  If a site that begins with no parenthesis
is read, wherever it stands in a text, then its source in parentheses is read behind a marker as a
site with that source and that value, which is no splat, and what is taken is the text up to the
parenthesis behind the source, in front of any other text. -/
theorem bare_site_agrees_with_parenthesised {Names V : Type} {m : Type → Type}
    (evaluator : Names → Evaluator m Code V) {text : String} {start stop : Nat}
    (reads : siteAt compile text start = .ok (site, stop))
    (bare : text.toList[start]? ≠ some '(')
    (means : MeansSameInside compile evaluator site.source.toList) :
    ∃ inside, (∀ names, (evaluator names).value inside = (evaluator names).value site.code) ∧
      ∀ rest : String, siteAt compile ("$(" ++ site.source ++ ")" ++ rest) 1
        = .ok (⟨site.source, false, inside⟩, site.source.length + 3) := by
  rw [siteAt] at reads
  split at reads
  · cases reads
  · rename_i site' after hread
    obtain ⟨rfl, -⟩ := Prod.mk.inj (Except.ok.inj reads)
    have hparen : (text.toList.drop start).head? ≠ some '(' := by
      rwa [List.head?_drop]
    obtain ⟨path, code, hpath, -, hcode, rfl⟩ := Site.exists_path hread hparen
    rw [String.toList_ofList] at means
    obtain ⟨inside, hinside, hvalue⟩ := means code hcode
    refine ⟨inside, hvalue, fun rest => ?_⟩
    have hparenthesised := hpath.read_parenthesised hinside rest.toList
    have htext : ("$(" ++ String.ofList path ++ ")" ++ rest).toList.drop 1
        = ('(' :: (path ++ [')'])) ++ rest.toList := by
      simp only [String.toList_append, String.toList_ofList]
      rfl
    have hstop : 1 + ('(' :: (path ++ [')'])).length = (String.ofList path).length + 3 := by
      rw [String.length_ofList, List.length_cons, List.length_append, List.length_singleton]
      omega
    rw [siteAt_eq_ok htext hparenthesised, hstop]

set_option maxRecDepth 2000 in
/-- A subscript with brackets inside, one of them in a string and one in a comment. -/
theorem bare_site_agrees_with_parenthesised_of_subscript :
    let source := "x[y[')'] # ]\n].z"
    let tree : Expr.Tree := .attribute (.subscript (.name "x")
      (.subscript (.name "y") (.const (.str [.char ')'])))) "z"
    (siteAt Room.ample.compile ("a = $" ++ source ++ ".") 5 = .ok (⟨source, false, tree⟩, 21) ∧
      MeansSameInside Room.ample.compile evaluator source.toList) ∧
    ∃ inside, (∀ env, (evaluator env).value inside = (evaluator env).value tree) ∧
      ∀ rest : String, siteAt Room.ample.compile ("$(" ++ source ++ ")" ++ rest) 1
        = .ok (⟨source, false, inside⟩, source.length + 3) := by
  intro source tree
  have hsource : source.toList = 'x' :: "[y[')'] # ]\n].z".toList := by decide
  have hspan : '(' :: (source.toList ++ ['\n', ')']) = "(x[y[')'] # ]\n].z\n)".toList := by decide
  have hbare : Room.ample.compile source.toList = .code tree :=
    Room.ample_compile_eq_code_iff.mpr (by cbv)
  have hinside : Room.ample.compile "(x[y[')'] # ]\n].z\n)".toList = .code tree :=
    Room.ample_compile_eq_code_iff.mpr (by cbv)
  have hmeans : MeansSameInside Room.ample.compile evaluator source.toList := by
    intro code hcode
    obtain rfl := Verdict.code.inj (hbare.symm.trans hcode)
    exact ⟨tree, hspan ▸ hinside, fun _ => rfl⟩
  have hbracket : afterBracket '[' "y[')'] # ]\n].z.".toList = .ok ".z.".toList := by cbv
  have hmember : afterAccesses ".z.".toList = .ok ".".toList := by cbv
  have hafter : afterAccesses (afterName ("[y[')'] # ]\n].z".toList ++ ".".toList))
      = .ok ".".toList := (afterAccesses_subscript hbracket).trans hmember
  have hx : isNameStart 'x' = true := by decide +kernel
  have hread : Site.read Room.ample.compile (source.toList ++ ".".toList)
      = .ok (⟨source, false, tree⟩, ".".toList) := by
    rw [hsource, List.cons_append, Site.read_named (by decide) hx hafter, map_fst_eq_ok_iff,
      Site.make_eq_ok_iff (List.cons_ne_nil _ _), ← hsource, String.ofList_toList]
    exact ⟨⟨tree, hbare, rfl⟩, rfl⟩
  have hdrop : ("a = $" ++ source ++ ".").toList.drop 5 = source.toList ++ ".".toList := by decide
  have hstop : 5 + source.toList.length = 21 := by decide
  have hsite : siteAt Room.ample.compile ("a = $" ++ source ++ ".") 5
      = .ok (⟨source, false, tree⟩, 21) := by
    rw [siteAt_eq_ok hdrop hread, hstop]
  exact ⟨⟨hsite, hmeans⟩,
    bare_site_agrees_with_parenthesised evaluator hsite (by decide) hmeans⟩

end BoundSql.Template
