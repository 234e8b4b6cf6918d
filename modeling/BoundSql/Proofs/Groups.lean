import BoundSql.Proofs.BracketRuns
set_option autoImplicit false

/-!
# Groups

The grammar of what stands between two brackets, told without the search that looks for the closing
one.  A group is a bracket, a row of items and the bracket that belongs to the first one; an item is
a group, a string literal, a comment, or any other character.  The search finds an end if and only
if the text up to there is a group, and no other end makes one.

The search keeps a stack of the brackets that it waits for, and the grammar has no stack: it says of
nested groups that they are nested.  `ClosesAll` is what stands between the two.  It says what the
open brackets demand of a text, which is a row of items and the closing bracket for each of them,
and a search that succeeds has gone through a text of that kind (`exists_closesAll`).

String literals are told in the same way, by what is between their quotes (`LiteralText`), so that
nothing about the search is taken for granted.  All of this is about text alone; the language of the
expressions comes in elsewhere.
-/

namespace BoundSql.Template

open BoundSql.Expr (Plain isPlain plain_nil)

/-! ## The grammar -/

/-- The quotes in front of a string literal and behind it. -/
def delimiter (quote : Char) (triple : Bool) : List Char :=
  if triple then [quote, quote, quote] else [quote]

/-- The text between the delimiters of a string literal. -/
inductive LiteralText (quote : Char) (triple : Bool) : List Char → Prop where
  | nil : LiteralText quote triple []
  /-- a backslash takes the next character with it -/
  | escaped {c : Char} {cs : List Char} (others : LiteralText quote triple cs) :
      LiteralText quote triple ('\\' :: c :: cs)
  /-- the closing delimiter does not stand here yet, and only triple delimiters let a literal go
  on behind the end of a line -/
  | char {c : Char} {cs : List Char} (plain : c ≠ '\\')
      (inside : ¬ delimiter quote triple <+: c :: (cs ++ delimiter quote triple))
      (inLine : c = '\n' → triple = true) (others : LiteralText quote triple cs) :
      LiteralText quote triple (c :: cs)

/-- A row of items.  `Comment` says which texts may stand between the sign of a comment and the
line feed that ends it. -/
inductive GroupItems (Comment : List Char → Prop) : List Char → Prop where
  | nil : GroupItems Comment []
  | group {opener closer : Char} {inner rest : List Char} (pair : closer? opener = some closer)
      (inside : GroupItems Comment inner) (others : GroupItems Comment rest) :
      GroupItems Comment (opener :: (inner ++ closer :: rest))
  /-- the delimiters are triple if and only if three quotes stand there -/
  | string {quote : Char} {triple : Bool} {body rest : List Char} (quoted : isQuote quote = true)
      (opening : triple = true ↔ [quote, quote, quote] <+:
        delimiter quote triple ++ (body ++ (delimiter quote triple ++ rest)))
      (text : LiteralText quote triple body) (others : GroupItems Comment rest) :
      GroupItems Comment (delimiter quote triple ++ (body ++ (delimiter quote triple ++ rest)))
  | comment {text rest : List Char} (line : Comment text) (others : GroupItems Comment rest) :
      GroupItems Comment ('#' :: (text ++ '\n' :: rest))
  /-- a character that is no quote, no bracket and no sign of a comment -/
  | char {c : Char} {rest : List Char} (plain : isPlain c = true)
      (others : GroupItems Comment rest) : GroupItems Comment (c :: rest)

/-- An opening bracket, a row of items, and its closing bracket. -/
def Group (Comment : List Char → Prop) (cs : List Char) : Prop :=
  ∃ opener closer inner, closer? opener = some closer ∧ GroupItems Comment inner ∧
    cs = opener :: (inner ++ [closer])

/-- The text of a comment: it goes up to the first line feed. -/
def CommentText (text : List Char) : Prop := '\n' ∉ text

/-! ## String literals -/

section Strings

variable {quote : Char} {triple : Bool} {body cs rest : List Char}

theorem delimiter_true (quote : Char) : delimiter quote true = [quote, quote, quote] := rfl

theorem exists_delimiter_eq (quote : Char) (triple : Bool) :
    ∃ more, delimiter quote triple = quote :: more := by
  cases triple
  · exact ⟨[], rfl⟩
  · exact ⟨[quote, quote], rfl⟩

theorem ne_backslash_of_isQuote (h : isQuote quote = true) : quote ≠ '\\' := by
  rintro rfl
  cases h

/-- The reader of a literal goes through the text between the delimiters. -/
theorem LiteralText.skipsString (h : LiteralText quote triple body) (plain : quote ≠ '\\')
    (rest : List Char) :
    SkipsString quote triple (body ++ (delimiter quote triple ++ rest)) rest := by
  induction h with
  | nil =>
      cases triple with
      | false => exact .single plain
      | true => exact .triple plain
  | escaped others ih => exact .escaped ih
  | @char c cs hback inside inLine others ih =>
      by_cases hc : c = quote
      · subst hc
        cases triple with
        | false => exact absurd (List.prefix_append [c] _) inside
        | true =>
            simp only [delimiter_true] at inside ih ⊢
            -- two more characters stand behind the quote, and not both of them are quotes
            rcases cs with _ | ⟨a, _ | ⟨b, cs⟩⟩
            · simp at inside
            · exact .quote plain (by simpa [eq_comm] using inside) ih
            · exact .quote plain (by simpa [eq_comm] using inside) ih
      · have hline : ¬ (c = '\n' ∧ triple = false) := by
          rintro ⟨hfeed, hsingle⟩
          rw [inLine hfeed] at hsingle
          cases hsingle
        exact .char hback hc hline ih

/-- What the reader of a literal goes through is such a text. -/
theorem SkipsString.exists_literalText (h : SkipsString quote triple cs rest) :
    ∃ body, cs = body ++ (delimiter quote triple ++ rest) ∧ LiteralText quote triple body := by
  induction h with
  | escaped tail ih =>
      obtain ⟨body, rfl, hbody⟩ := ih
      exact ⟨_, rfl, .escaped hbody⟩
  | single plain => exact ⟨[], rfl, .nil⟩
  | triple plain => exact ⟨[], rfl, .nil⟩
  | @quote a b cs rest plain inside tail ih =>
      obtain ⟨body, hcs, hbody⟩ := ih
      refine ⟨quote :: body, by rw [hcs]; rfl, .char plain ?_ (fun _ => rfl) hbody⟩
      intro hends
      rw [delimiter_true] at hcs hends
      rcases body with _ | ⟨x, _ | ⟨y, body⟩⟩
      · simp only [List.nil_append, List.cons_append, List.cons.injEq] at hcs
        exact inside ⟨hcs.1, hcs.2.1⟩
      · simp only [List.nil_append, List.cons_append, List.cons.injEq] at hcs
        simp only [List.cons_append, List.cons_prefix_cons] at hends
        exact inside ⟨hcs.1.trans hends.2.1.symm, hcs.2.1⟩
      · simp only [List.cons_append, List.cons.injEq] at hcs
        simp only [List.cons_append, List.cons_prefix_cons] at hends
        exact inside ⟨hcs.1.trans hends.2.1.symm, hcs.2.1.trans hends.2.2.1.symm⟩
  | @char triple c cs rest plain other inLine tail ih =>
      obtain ⟨body, rfl, hbody⟩ := ih
      refine ⟨c :: body, rfl, .char plain ?_ (fun hfeed => ?_) hbody⟩
      · obtain ⟨more, hmore⟩ := exists_delimiter_eq quote triple
        intro hends
        rw [hmore, List.cons_prefix_cons] at hends
        exact other hends.1.symm
      · cases triple with
        | false => exact absurd ⟨hfeed, rfl⟩ inLine
        | true => rfl

theorem afterString_of_single (h : ¬ [quote, quote, quote] <+: quote :: cs) :
    afterString quote cs = skipString quote false cs := by
  rw [afterString.eq_def]
  split
  next a b ds =>
    rw [if_neg]
    rintro ⟨rfl, rfl⟩
    simp at h
  next => rfl

/-- The text behind a literal that begins with the quote just read. -/
theorem afterString_eq_some_iff (plain : quote ≠ '\\') :
    afterString quote cs = some rest ↔
      ∃ triple body,
        quote :: cs = delimiter quote triple ++ (body ++ (delimiter quote triple ++ rest)) ∧
        (triple = true ↔ [quote, quote, quote] <+: quote :: cs) ∧
        LiteralText quote triple body := by
  have hskip : ∀ {triple ds}, skipString quote triple ds = some rest ↔ ∃ body,
      ds = body ++ (delimiter quote triple ++ rest) ∧ LiteralText quote triple body := by
    intro triple ds
    constructor
    · intro h
      exact (skipsString_of_skipString h).exists_literalText
    · rintro ⟨body, rfl, hbody⟩
      exact (hbody.skipsString plain rest).skipString_eq
  by_cases hopen : [quote, quote, quote] <+: quote :: cs
  · obtain ⟨ds, hds⟩ := hopen
    obtain rfl : cs = quote :: quote :: ds := by simpa using hds.symm
    rw [afterString, if_pos ⟨rfl, rfl⟩, hskip]
    simp [delimiter, Bool.exists_bool]
  · rw [afterString_of_single hopen, hskip]
    simp [delimiter, Bool.exists_bool, hopen]

end Strings

/-! ## Rows of items -/

theorem afterComment_eq_some_iff {cs rest : List Char} :
    afterComment cs = some rest ↔ ∃ text, cs = text ++ '\n' :: rest ∧ CommentText text := by
  constructor
  · intro h
    rw [← List.append_nil cs] at h
    obtain ⟨text, y, rfl, htext, hrest⟩ := exists_of_afterComment (by simp) h
    rw [List.append_nil] at hrest
    exact ⟨text, by rw [hrest], htext⟩
  · rintro ⟨text, rfl, htext⟩
    induction text with
    | nil => rfl
    | cons c text ih =>
        rw [CommentText, List.mem_cons, not_or] at htext
        rw [List.cons_append, afterComment, if_neg (Ne.symm htext.1)]
        exact ih htext.2

theorem not_isQuote_of_closer? {c d : Char} (h : closer? c = some d) : ¬ isQuote c = true := by
  rcases eq_of_closer?_eq_some h with ⟨rfl, -⟩ | ⟨rfl, -⟩ | ⟨rfl, -⟩ <;> decide

/-- A closing bracket is none of the characters that the search takes for something else. -/
theorem closer_facts {c d : Char} (h : closer? c = some d) :
    ¬ isQuote d = true ∧ closer? d = none ∧ isCloser d = true := by
  rcases eq_of_closer?_eq_some h with ⟨-, rfl⟩ | ⟨-, rfl⟩ | ⟨-, rfl⟩ <;>
    exact ⟨by decide, rfl, rfl⟩

section Rows

variable {Comment : List Char → Prop} {opener : Char} {expected inner cs after : List Char}

/-- Restrictions on comments can be given up. -/
theorem GroupItems.imp {Comment' : List Char → Prop} (h : GroupItems Comment cs)
    (hcomment : ∀ text, Comment text → Comment' text) : GroupItems Comment' cs := by
  induction h with
  | nil => exact .nil
  | group pair inside others ihinside ihothers => exact .group pair ihinside ihothers
  | string quoted opening text others ih => exact .string quoted opening text ih
  | comment line others ih => exact .comment (hcomment _ line) ih
  | char plain others ih => exact .char plain ih

/-- Whether three quotes stand at the beginning of a literal is seen within the literal and the
character behind it. -/
theorem opening_append_iff {quote : Char} {triple : Bool} {body rest z : List Char}
    (hz : rest = [] → z.head? ≠ some quote) :
    [quote, quote, quote] <+:
        delimiter quote triple ++ (body ++ (delimiter quote triple ++ (rest ++ z))) ↔
      [quote, quote, quote] <+:
        delimiter quote triple ++ (body ++ (delimiter quote triple ++ rest)) := by
  cases triple with
  | true => simp [delimiter]
  | false =>
      rcases body with _ | ⟨b, _ | ⟨b', body⟩⟩
      · cases rest with
        | nil =>
            have hhead := hz rfl
            cases z <;> simp_all [delimiter, List.cons_prefix_cons, eq_comm]
        | cons c rest => simp [delimiter, List.cons_prefix_cons]
      · simp [delimiter, List.cons_prefix_cons]
      · simp [delimiter, List.cons_prefix_cons]

/-- The search passes over a string literal. -/
theorem closeBrackets_literal {quote : Char} {triple : Bool} {body rest : List Char}
    (quoted : isQuote quote = true) (text : LiteralText quote triple body)
    (opening : triple = true ↔ [quote, quote, quote] <+:
      delimiter quote triple ++ (body ++ (delimiter quote triple ++ rest))) :
    closeBrackets opener expected
        (delimiter quote triple ++ (body ++ (delimiter quote triple ++ rest)))
      = closeBrackets opener expected rest := by
  obtain ⟨more, hmore⟩ := exists_delimiter_eq quote triple
  have hspan : quote :: (more ++ (body ++ (delimiter quote triple ++ rest)))
      = delimiter quote triple ++ (body ++ (delimiter quote triple ++ rest)) := by
    rw [← List.cons_append, ← hmore]
  have hafter : afterString quote (more ++ (body ++ (delimiter quote triple ++ rest)))
      = some rest :=
    (afterString_eq_some_iff (ne_backslash_of_isQuote quoted)).mpr
      ⟨triple, body, hspan, by rwa [hspan], text⟩
  rw [← hspan, closeBrackets_string quoted hafter]

/-- The search goes through a row of items, in front of all text that does not begin with a
quote. -/
theorem GroupItems.closeBrackets_append (h : GroupItems CommentText inner) (hne : expected ≠ [])
    {z : List Char} (hz : ∀ c, z.head? = some c → ¬ isQuote c = true) :
    closeBrackets opener expected (inner ++ z) = closeBrackets opener expected z := by
  induction h generalizing expected z with
  | nil => rfl
  | @group o c inner rest pair inside others ihinside ihothers =>
      obtain ⟨hquote, hopen, hclose⟩ := closer_facts pair
      obtain ⟨e, outer, rfl⟩ := List.exists_cons_of_ne_nil hne
      have hcloser : ∀ d, (c :: (rest ++ z)).head? = some d → ¬ isQuote d = true := by
        intro d hd
        obtain rfl := Option.some.inj hd
        exact hquote
      have hinner := ihinside (List.cons_ne_nil c (e :: outer)) hcloser
      calc closeBrackets opener (e :: outer) (o :: (inner ++ c :: rest) ++ z)
          = closeBrackets opener (c :: e :: outer) (inner ++ c :: (rest ++ z)) := by
            rw [List.cons_append, List.append_assoc, List.cons_append,
              closeBrackets_opener (not_isQuote_of_closer? pair) pair]
        _ = closeBrackets opener (e :: outer) (rest ++ z) := by
            rw [hinner, closeBrackets_closer hquote hopen hclose]
        _ = closeBrackets opener (e :: outer) z := ihothers hne hz
  | @string quote triple body rest quoted opening text others ih =>
      rw [← opening_append_iff fun _ hhead => hz quote hhead quoted] at opening
      rw [List.append_assoc, List.append_assoc, List.append_assoc,
        closeBrackets_literal quoted text opening, ih hne hz]
  | @comment text rest line others ih =>
      have hafter : afterComment (text ++ '\n' :: rest ++ z) = some (rest ++ z) :=
        afterComment_eq_some_iff.mpr ⟨text, by simp, line⟩
      rw [List.cons_append, closeBrackets_comment hafter, ih hne hz]
  | @char c rest plain others ih =>
      have hplain : Plain [c] := plain_nil.cons plain
      exact (closeBrackets_plain hplain (rest ++ z)).trans (ih hne hz)

/-- What open brackets demand of a text, the innermost first: a row of items and the closing
bracket for each of them. -/
def ClosesAll (Comment : List Char → Prop) : List Char → List Char → Prop
  | [], span => span = []
  | d :: outer, span =>
      ∃ inner rest, span = inner ++ d :: rest ∧ GroupItems Comment inner ∧
        ClosesAll Comment outer rest

theorem ClosesAll.ne_nil {span : List Char} (h : ClosesAll Comment expected span)
    (hne : expected ≠ []) : span ≠ [] := by
  obtain ⟨d, outer, rfl⟩ := List.exists_cons_of_ne_nil hne
  obtain ⟨inner, rest, rfl, -, -⟩ := h
  simp

/-- A character or a comment in front of the items of the innermost bracket. -/
theorem ClosesAll.append {span front : List Char} (h : ClosesAll Comment expected span)
    (hne : expected ≠ [])
    (hfront : ∀ inner, GroupItems Comment inner → GroupItems Comment (front ++ inner)) :
    ClosesAll Comment expected (front ++ span) := by
  obtain ⟨d, outer, rfl⟩ := List.exists_cons_of_ne_nil hne
  obtain ⟨inner, rest, rfl, hinner, hrest⟩ := h
  exact ⟨front ++ inner, rest, (List.append_assoc ..).symm, hfront inner hinner, hrest⟩

/-- A string literal in front of the items of the innermost bracket. -/
theorem ClosesAll.string {quote : Char} {triple : Bool} {body span : List Char}
    (h : ClosesAll Comment expected span) (hne : expected ≠ []) (quoted : isQuote quote = true)
    (hclosers : ∀ d ∈ expected, ¬ isQuote d = true) (text : LiteralText quote triple body)
    (opening : triple = true ↔ [quote, quote, quote] <+:
      delimiter quote triple ++ (body ++ (delimiter quote triple ++ span))) :
    ClosesAll Comment expected
      (delimiter quote triple ++ (body ++ (delimiter quote triple ++ span))) := by
  obtain ⟨d, outer, rfl⟩ := List.exists_cons_of_ne_nil hne
  obtain ⟨inner, rest, rfl, hinner, hrest⟩ := h
  have hcloser : (d :: rest).head? ≠ some quote := by
    intro hhead
    obtain rfl := Option.some.inj hhead
    exact hclosers d List.mem_cons_self quoted
  rw [opening_append_iff fun _ => hcloser] at opening
  exact ⟨_, rest, by simp, .string quoted opening text hinner, hrest⟩

/-- Only what open brackets demand is gone through. -/
theorem exists_closesAll (h : closeBrackets opener expected cs = .ok after) (hne : expected ≠ [])
    (hclosers : ∀ d ∈ expected, ¬ isQuote d = true) :
    ∃ span, cs = span ++ after ∧ ClosesAll CommentText expected span := by
  fun_induction closeBrackets opener expected cs with
  | case1 => cases h
  | case2 => cases h
  | case3 expected c ds hquote after' hafter hlen ih =>
      obtain ⟨span, rfl, hspan⟩ := ih h hne hclosers
      obtain ⟨triple, body, hcs, hopening, hbody⟩ :=
        (afterString_eq_some_iff (ne_backslash_of_isQuote hquote)).mp hafter
      rw [hcs, opening_append_iff fun hnil => absurd hnil (hspan.ne_nil hne)] at hopening
      exact ⟨_, by rw [hcs]; simp, hspan.string hne hquote hclosers hbody hopening⟩
  | case4 expected c ds hquote d hopen ih =>
      have hclosers' : ∀ e ∈ d :: expected, ¬ isQuote e = true := by
        intro e he
        rcases List.mem_cons.mp he with rfl | he
        · exact (closer_facts hopen).1
        · exact hclosers e he
      obtain ⟨span, rfl, inner, rest, rfl, hinner, hrest⟩ :=
        ih h (List.cons_ne_nil d expected) hclosers'
      obtain ⟨e, outer, rfl⟩ := List.exists_cons_of_ne_nil hne
      obtain ⟨inner', rest', rfl, hinner', hrest'⟩ := hrest
      exact ⟨c :: (inner ++ d :: inner') ++ e :: rest', by simp,
        c :: (inner ++ d :: inner'), rest', rfl, .group hopen hinner hinner', hrest'⟩
  | case5 => cases h
  | case6 ds d =>
      obtain rfl := Except.ok.inj h
      exact ⟨[d], rfl, [], [], rfl, .nil, rfl⟩
  | case7 => cases h
  | case8 ds d e outer hquote hopen hclose ih =>
      obtain ⟨span, rfl, hspan⟩ := ih h (List.cons_ne_nil e outer)
        fun d' hd' => hclosers d' (List.mem_cons_of_mem d hd')
      exact ⟨d :: span, rfl, [], span, rfl, .nil, hspan⟩
  | case9 => cases h
  | case10 => cases h
  | case11 expected ds after' hafter hlen _ _ _ ih =>
      obtain ⟨span, rfl, hspan⟩ := ih h hne hclosers
      obtain ⟨text, rfl, htext⟩ := afterComment_eq_some_iff.mp hafter
      refine ⟨'#' :: (text ++ ['\n']) ++ span, by simp, hspan.append hne fun inner hinner => ?_⟩
      have hcomment := GroupItems.comment htext hinner
      rwa [List.cons_append, List.append_assoc]
  | case12 expected c ds hquote hopen hclose hcomment ih =>
      obtain ⟨span, rfl, hspan⟩ := ih h hne hclosers
      have hplain : isPlain c = true := isPlain_iff.mpr
        ⟨eq_false_of_ne_true hquote, hopen, eq_false_of_ne_true hclose, hcomment⟩
      have hall : ClosesAll CommentText expected ([c] ++ span) :=
        hspan.append hne fun inner hinner => .char hplain hinner
      exact ⟨c :: span, rfl, hall⟩

end Rows

/-! ## The end of a group -/

/-- A bracket that is never closed begins no access. -/
theorem afterAccesses_of_error {cs : List Char} {reason : Reason}
    (h : afterBracket '[' cs = .error reason) : afterAccesses ('[' :: cs) = .error reason := by
  rw [afterAccesses]
  split
  next herror => rw [← herror, h]
  next hok =>
    rw [h] at hok
    cases hok

/-- A bracket that is never closed begins no site. -/
theorem Site.read_of_error {Code : Type} {compile : List Char → Verdict Code} {cs : List Char}
    {reason : Reason} (h : afterBracket '(' cs = .error reason) :
    Site.read compile ('(' :: cs) = .error (.malformed reason) := by
  rw [Site.read, if_pos rfl, h]

section Ends

variable {opener closer : Char} {cs after : List Char}

/-- The search finds the end of a group, and it finds nothing else. -/
theorem afterBracket_eq_ok_iff (pair : closer? opener = some closer) :
    afterBracket opener cs = .ok after ↔
      ∃ inner, GroupItems CommentText inner ∧ cs = inner ++ closer :: after := by
  obtain ⟨hquote, hopen, hclose⟩ := closer_facts pair
  have hexpected : afterBracket opener cs = closeBrackets opener [closer] cs := by
    rw [afterBracket, pair, Option.toList_some]
  rw [hexpected]
  constructor
  · intro h
    have hclosers : ∀ d ∈ [closer], ¬ isQuote d = true := by
      intro d hd
      rwa [List.mem_singleton.mp hd]
    obtain ⟨span, rfl, inner, rest, rfl, hinner, rfl⟩ :=
      exists_closesAll h (List.cons_ne_nil closer []) hclosers
    exact ⟨inner, hinner, by simp⟩
  · rintro ⟨inner, hinner, rfl⟩
    have hcloser : ∀ c, (closer :: after).head? = some c → ¬ isQuote c = true := by
      intro c hc
      obtain rfl := Option.some.inj hc
      exact hquote
    rw [hinner.closeBrackets_append (List.cons_ne_nil closer []) hcloser,
      closeBrackets_last hquote hopen hclose]

theorem group_iff (pair : closer? opener = some closer) :
    Group CommentText (opener :: cs) ↔
      ∃ inner, GroupItems CommentText inner ∧ cs = inner ++ [closer] := by
  constructor
  · rintro ⟨o, c, inner, hpair, hinner, heq⟩
    obtain ⟨rfl, rfl⟩ := List.cons.inj heq
    obtain rfl : c = closer := Option.some.inj (hpair.symm.trans pair)
    exact ⟨inner, hinner, rfl⟩
  · rintro ⟨inner, hinner, rfl⟩
    exact ⟨opener, closer, inner, pair, hinner, rfl⟩

/-- The search finds the end of the group that a text begins with. -/
theorem afterBracket_eq_ok_iff_group (pair : closer? opener = some closer) :
    afterBracket opener cs = .ok after ↔
      ∃ span, Group CommentText (opener :: span) ∧ cs = span ++ after := by
  rw [afterBracket_eq_ok_iff pair]
  constructor
  · rintro ⟨inner, hinner, rfl⟩
    exact ⟨inner ++ [closer], (group_iff pair).mpr ⟨inner, hinner, rfl⟩, by simp⟩
  · rintro ⟨span, hgroup, rfl⟩
    obtain ⟨inner, hinner, rfl⟩ := (group_iff pair).mp hgroup
    exact ⟨inner, hinner, by simp⟩

end Ends

/-- The offset behind a closing bracket that the search finds. -/
theorem offset_eq_ok_iff {text : List Char} {start stop : Nat} {opener closer : Char}
    (hstart : text[start]? = some opener) (pair : closer? opener = some closer) :
    (afterBracket opener (text.drop (start + 1))).map (fun after => text.length - after.length)
        = .ok stop ↔
      stop ≤ text.length ∧ Group CommentText ((text.take stop).drop start) := by
  obtain ⟨hlt, hopener⟩ := List.getElem?_eq_some_iff.mp hstart
  have htext : text.drop start = opener :: text.drop (start + 1) := by
    rw [List.drop_eq_getElem_cons hlt, hopener]
  have hlength : text.length = start + 1 + (text.drop (start + 1)).length := by
    rw [List.length_drop]
    omega
  rw [List.drop_take, htext]
  generalize text.drop (start + 1) = cs at hlength
  constructor
  · intro h
    cases hfound : afterBracket opener cs with
    | error reason =>
        rw [hfound] at h
        cases h
    | ok after =>
        rw [hfound] at h
        obtain rfl : text.length - after.length = stop := Except.ok.inj h
        obtain ⟨span, hgroup, rfl⟩ := (afterBracket_eq_ok_iff_group pair).mp hfound
        have hspan : text.length - after.length - start = span.length + 1 := by
          rw [List.length_append] at hlength
          omega
        rw [hspan, List.take_succ_cons, List.take_left]
        exact ⟨Nat.sub_le _ _, hgroup⟩
  · rintro ⟨hle, hgroup⟩
    cases hspan : stop - start with
    | zero =>
        rw [hspan] at hgroup
        obtain ⟨_, _, _, -, -, hnil⟩ := hgroup
        cases hnil
    | succ n =>
        rw [hspan, List.take_succ_cons] at hgroup
        have hfound : afterBracket opener cs = .ok (cs.drop n) :=
          (afterBracket_eq_ok_iff_group pair).mpr
            ⟨cs.take n, hgroup, (List.take_append_drop n cs).symm⟩
        have hstop : text.length - (cs.drop n).length = stop := by
          rw [List.length_drop]
          omega
        rw [hfound, ← hstop]
        rfl

/-- From an opening bracket on, the search answers with an offset if and only if the text up to
there is a group, and one offset at most is like this.  Where there is none the search fails, and
so does the reader of accesses or of a site that begins with the bracket. -/
theorem closing_bracket_iff_group {text : String} {start : Nat} {opener closer : Char}
    (hstart : text.toList[start]? = some opener) (pair : closer? opener = some closer) :
    (∀ stop, (afterBracket opener (text.toList.drop (start + 1))).map
          (fun after => text.toList.length - after.length) = .ok stop ↔
        stop ≤ text.toList.length ∧ Group CommentText ((text.toList.take stop).drop start)) ∧
    (∀ stop stop', stop ≤ text.toList.length → stop' ≤ text.toList.length →
      Group CommentText ((text.toList.take stop).drop start) →
      Group CommentText ((text.toList.take stop').drop start) → stop = stop') ∧
    ((∀ stop ≤ text.toList.length, ¬ Group CommentText ((text.toList.take stop).drop start)) →
      ∃ reason, afterBracket opener (text.toList.drop (start + 1)) = .error reason ∧
        (opener = '[' → afterAccesses (text.toList.drop start) = .error reason) ∧
        (opener = '(' → ∀ {Code : Type} (compile : List Char → Verdict Code),
          siteAt compile text start
            = .error (.refused (.malformed text ((start : Int) - 1) reason)))) := by
  have hoffset := fun stop => @offset_eq_ok_iff text.toList start stop opener closer hstart pair
  refine ⟨hoffset, fun stop stop' hle hle' hgroup hgroup' => ?_, fun hnone => ?_⟩
  · have hfirst := (hoffset stop).mpr ⟨hle, hgroup⟩
    have hsecond := (hoffset stop').mpr ⟨hle', hgroup'⟩
    exact Except.ok.inj (hfirst.symm.trans hsecond)
  · obtain ⟨hlt, hopener⟩ := List.getElem?_eq_some_iff.mp hstart
    have htext : text.toList.drop start = opener :: text.toList.drop (start + 1) := by
      rw [List.drop_eq_getElem_cons hlt, hopener]
    cases hfound : afterBracket opener (text.toList.drop (start + 1)) with
    | ok after =>
        have hstop := (hoffset (text.toList.length - after.length)).mp (by rw [hfound]; rfl)
        exact absurd hstop.2 (hnone _ hstop.1)
    | error reason =>
        refine ⟨reason, rfl, ?_, ?_⟩
        · rintro rfl
          rw [htext, afterAccesses_of_error hfound]
        · rintro rfl Code compile
          rw [siteAt, htext, Site.read_of_error hfound]
          rfl

/-- A group with a call, string literals of both kinds, a bracket in each of them and in a comment,
and more text behind it. -/
theorem closing_bracket_iff_group_of_call :
    let text := "a(f(')', \"\"\"[\"\"\") # ]\n) b"
    (text.toList[1]? = some '(' ∧ closer? '(' = some ')') ∧
      Group CommentText ((text.toList.take 23).drop 1) ∧
      ∀ stop ≤ text.toList.length,
        Group CommentText ((text.toList.take stop).drop 1) → stop = 23 := by
  intro text
  have hstart : text.toList[1]? = some '(' := by decide
  obtain ⟨hoffset, hunique, -⟩ := @closing_bracket_iff_group text 1 '(' ')' hstart rfl
  have hgroup := (hoffset 23).mp (by cbv)
  exact ⟨⟨hstart, rfl⟩, hgroup.2, fun stop hle h => hunique stop 23 hle hgroup.1 h hgroup.2⟩

end BoundSql.Template
