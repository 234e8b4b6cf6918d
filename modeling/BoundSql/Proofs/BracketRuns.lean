import BoundSql.Proofs.Locality
import BoundSql.Proofs.TokenRuns
set_option autoImplicit false

/-!
# Brackets of the template and brackets of the language

The search for the bracket that closes a site goes through the same text as the lexer.  It passes
over string literals and comments as the lexer does, and it keeps account of the same brackets, as
long as line ends are line feeds.  So a part of a source in front of a bracket that the search finds
is a run of tokens, or else no source with that part in front is one of the language.

The search looks at characters and the lexer at tokens, so the two are compared token by token:
behind each token that the lexer takes, the search has come to the same place with the same brackets
open (`closeBrackets_token`), where `closers` translates the lexer's stack into the closing brackets
that the search waits for.  The text literals need the most care, since both have rules of their own
for quotes and backslashes (`closeBrackets_textLiteral`).

`Searched` is the invariant of this comparison, and `Searched.settled` its conclusion.  Everything
that is said of boundaries, of parentheses and of splats begins here.
-/

namespace BoundSql.Template

open BoundSql.Expr

/-! ## What the search passes over -/

section Search

variable {opener : Char} {expected : List Char}

theorem isPlain_iff {c : Char} : isPlain c = true ↔
    isQuote c = false ∧ closer? c = none ∧ isCloser c = false ∧ c ≠ '#' := by
  simp only [isPlain, isQuote, closer?, isCloser]
  grind

/-- The search passes over plain characters. -/
theorem closeBrackets_plain {used : List Char} (h : Plain used) (cs : List Char) :
    closeBrackets opener expected (used ++ cs) = closeBrackets opener expected cs := by
  induction used with
  | nil => rfl
  | cons c used ih =>
      obtain ⟨hquote, hopen, hclose, hcomment⟩ := isPlain_iff.mp (h c List.mem_cons_self)
      rw [List.cons_append,
        closeBrackets_other (by simp [hquote]) hopen (by simp [hclose]) hcomment]
      exact ih fun d hd => h d (List.mem_cons_of_mem c hd)

theorem beginsPair_cons (quote a b : Char) (cs : List Char) :
    beginsPair quote (a :: b :: cs) = true ↔ a = quote ∧ b = quote := by
  simp [beginsPair, headIs]

theorem beginsPair_of_length {quote : Char} {cs : List Char} (h : cs.length < 2) :
    beginsPair quote cs = false := by
  match cs with
  | [] => rfl
  | [a] => simp [beginsPair, headIs]
  | a :: b :: cs => exact absurd h (by simp)

/-- The search and the lexer end a literal in the same places. -/
theorem skipString_cons {quote c : Char} {triple : Bool} (hc : c ≠ '\\') (cs : List Char) :
    skipString quote triple (c :: cs) =
      if c = quote ∧ (triple = true → beginsPair quote cs = true) then
        some (if triple then cs.tail.tail else cs)
      else if c = '\n' ∧ triple = false then none
      else skipString quote triple cs := by
  rw [skipString.eq_def]
  by_cases hquote : c = quote
  · subst hquote
    cases triple with
    | false => simp [hc]
    | true =>
        rcases cs with _ | ⟨a, _ | ⟨b, cs⟩⟩
        · simp [hc, beginsPair_of_length]
        · simp [hc, beginsPair_of_length]
        · simp only [hc, if_false, if_true, true_and, forall_const, beginsPair_cons]
          split <;> simp
  · simp [hc, hquote]

/-- A text literal of the language is a string literal of the search. -/
theorem skipString_of_literalBody {quote : Char} {triple : Bool} {cs body rest : List Char}
    (h : literalBody quote triple cs = some (body, rest)) :
    skipString quote triple cs = some rest := by
  fun_induction literalBody quote triple cs generalizing body with
  | case1 => cases h
  | case2 => cases h
  | case3 d ds ih =>
      obtain ⟨⟨body', rest'⟩, hbody, heq⟩ := Option.map_eq_some_iff.mp h
      obtain ⟨-, rfl⟩ := Prod.mk.inj heq
      rw [skipString, if_pos rfl]
      exact ih hbody
  | case4 c cs hc hend =>
      obtain ⟨-, rfl⟩ := Prod.mk.inj (Option.some.inj h)
      rw [skipString_cons hc, if_pos hend]
  | case5 => cases h
  | case6 c cs hc hend hfeed ih =>
      obtain ⟨⟨body', rest'⟩, hbody, heq⟩ := Option.map_eq_some_iff.mp h
      obtain ⟨-, rfl⟩ := Prod.mk.inj heq
      rw [skipString_cons hc, if_neg hend, if_neg hfeed]
      exact ih hbody

theorem afterString_of_quotedLiteral {quote : Char} {cs body rest : List Char}
    (h : quotedLiteral quote cs = some (body, rest)) : afterString quote cs = some rest := by
  rw [quotedLiteral] at h
  rcases cs with _ | ⟨a, _ | ⟨b, cs⟩⟩
  · rw [beginsPair_of_length (by simp)] at h
    exact skipString_of_literalBody h
  · rw [beginsPair_of_length (by simp)] at h
    exact skipString_of_literalBody h
  · rw [afterString]
    split at h
    next hopen =>
      rw [if_pos ((beginsPair_cons quote a b cs).mp hopen)]
      exact skipString_of_literalBody h
    next hopen =>
      rw [if_neg (mt (beginsPair_cons quote a b cs).mpr hopen)]
      exact skipString_of_literalBody h

/-- The search passes over a text literal. -/
theorem closeBrackets_textLiteral {letters : TextLiteral} {quote : Char} {cs rest : List Char}
    {t : Token} (hquote : isQuote quote = true)
    (h : textLiteral letters quote cs = some (t, rest)) :
    closeBrackets opener expected (quote :: cs) = closeBrackets opener expected rest := by
  obtain ⟨⟨body, rest'⟩, hbody, heq⟩ := Option.map_eq_some_iff.mp h
  obtain ⟨-, rfl⟩ := Prod.mk.inj heq
  exact closeBrackets_string hquote (afterString_of_quotedLiteral hbody)

/-- Symbols other than brackets are plain. -/
theorem plain_of_mem_symbols {s : String} (hs : s ∈ symbols) (ht : (Token.mark s).opens = 0) :
    Plain s.toList := by
  have hall : (symbols.all fun s => (Token.mark s).opens != 0 || s.toList.all isPlain) = true := by
    decide +kernel
  have hplain := List.all_eq_true.mp hall s hs
  rw [ht] at hplain
  exact List.all_eq_true.mp hplain

theorem plain_takeWhile (cs : List Char) : Plain (cs.takeWhile isWordChar) :=
  fun _ hc => isPlain_of_isWordChar (List.all_eq_true.mp List.all_takeWhile _ hc)

theorem closeBrackets_behindWord {word cs rest : List Char} {t : Token}
    (h : behindWord word cs = some (t, rest)) :
    closeBrackets opener expected cs = closeBrackets opener expected rest := by
  have hword : (wordToken word).map (fun t => (t, cs)) = some (t, rest) → cs = rest := by
    intro h
    obtain ⟨t', -, heq⟩ := Option.map_eq_some_iff.mp h
    exact (Prod.mk.inj heq).2
  unfold behindWord at h
  split at h
  · split at h
    next hhead =>
      rw [exists_cons_of_headIs hhead]
      exact closeBrackets_textLiteral rfl h
    · split at h
      next hhead =>
        rw [exists_cons_of_headIs hhead]
        exact closeBrackets_textLiteral rfl h
      · rw [hword h]
  · rw [hword h]

/-- The search passes over all tokens but brackets. -/
theorem closeBrackets_token {cs rest : List Char} {t : Token} (h : token cs = some (t, rest))
    (ht : t.opens = 0) :
    closeBrackets opener expected cs = closeBrackets opener expected rest := by
  cases cs with
  | nil => cases h
  | cons c cs =>
      simp only [token] at h
      split at h
      next hquote => exact closeBrackets_textLiteral (by simpa [isQuote] using hquote) h
      split at h
      · obtain ⟨⟨a, mid⟩, hmid, heq⟩ := Option.map_eq_some_iff.mp h
        obtain ⟨-, rfl⟩ := Prod.mk.inj heq
        obtain ⟨used, hused, hplain⟩ := cuts_numeral.exists_append hmid
        rw [hused]
        exact closeBrackets_plain hplain mid
      split at h
      · rw [← List.takeWhile_append_dropWhile (p := isWordChar) (l := c :: cs)]
        exact (closeBrackets_plain (plain_takeWhile _) _).trans (closeBrackets_behindWord h)
      · obtain ⟨s, hs, heq⟩ := Option.map_eq_some_iff.mp h
        obtain ⟨rfl, rfl⟩ := Prod.mk.inj heq
        obtain ⟨hmem, y, hy⟩ := exists_of_symbol?_eq_some hs
        rw [hy, ← String.length_toList, List.drop_left]
        exact closeBrackets_plain (plain_of_mem_symbols hmem ht) y

/-! ## Brackets one by one -/

/-- The closing brackets that are expected, as the lexer keeps them. -/
def closers (expected : List Char) : List String := expected.map String.singleton

theorem exists_bracket_of_opens_ne_zero {t : Token} (h : t.opens ≠ 0) :
    ∃ c, t = .mark (String.singleton c) ∧ (isCloser c = true ∨ ∃ d, closer? c = some d) := by
  cases t with
  | mark s =>
      simp only [Token.opens] at h
      split at h
      next hs =>
        rcases hs with rfl | rfl | rfl
        · exact ⟨'(', rfl, .inr ⟨')', rfl⟩⟩
        · exact ⟨'[', rfl, .inr ⟨']', rfl⟩⟩
        · exact ⟨'\x7b', rfl, .inr ⟨'\x7d', rfl⟩⟩
      · split at h
        next hs =>
          rcases hs with rfl | rfl | rfl
          · exact ⟨')', rfl, .inl rfl⟩
          · exact ⟨']', rfl, .inl rfl⟩
          · exact ⟨'\x7d', rfl, .inl rfl⟩
        · exact absurd rfl h
  | _ => exact absurd rfl h

theorem trackBrackets_of_opens_eq_zero {t : Token} (h : t.opens = 0) (stack : List String) :
    trackBrackets stack t = some stack := by
  cases t with
  | mark s =>
      have hopen : ¬ (s = "(" ∨ s = "[" ∨ s = "\x7b") := by
        intro hs
        simp [Token.opens, hs] at h
      have hclose : ¬ (s = ")" ∨ s = "]" ∨ s = "\x7d") := by
        intro hs
        simp [Token.opens, hopen, hs] at h
      simp only [trackBrackets, Bool.or_eq_true, decide_eq_true_eq, or_assoc, hopen, hclose,
        if_false]
  | _ => rfl

theorem eq_of_closer?_eq_some {c d : Char} (h : closer? c = some d) :
    (c = '(' ∧ d = ')') ∨ (c = '[' ∧ d = ']') ∨ (c = '\x7b' ∧ d = '\x7d') := by
  unfold closer? at h
  grind

theorem eq_of_isCloser {c : Char} (h : isCloser c = true) : c = ')' ∨ c = ']' ∨ c = '\x7d' := by
  simpa [isCloser, or_assoc] using h

theorem trackBrackets_opener {c d : Char} (h : closer? c = some d) (stack : List String) :
    trackBrackets stack (.mark (String.singleton c)) =
      if nestingLimit ≤ stack.length then none else some (String.singleton d :: stack) := by
  rcases eq_of_closer?_eq_some h with ⟨rfl, rfl⟩ | ⟨rfl, rfl⟩ | ⟨rfl, rfl⟩ <;> rfl

theorem trackBrackets_closer {c : Char} (h : isCloser c = true) (top : String)
    (stack : List String) :
    trackBrackets (top :: stack) (.mark (String.singleton c)) =
      if String.singleton c = top then some stack else none := by
  rcases eq_of_isCloser h with rfl | rfl | rfl <;> rfl

theorem exists_of_trackBrackets_closer {c : Char} (h : isCloser c = true) {stack' : List String}
    (htrack : trackBrackets (closers expected) (.mark (String.singleton c)) = some stack') :
    ∃ outer, expected = c :: outer ∧ stack' = closers outer := by
  cases expected with
  | nil => rcases eq_of_isCloser h with rfl | rfl | rfl <;> cases htrack
  | cons d outer =>
      rw [closers, List.map_cons, trackBrackets_closer h] at htrack
      split at htrack
      next heq =>
        obtain rfl : c = d := by simpa using congrArg String.toList heq
        exact ⟨outer, rfl, (Option.some.inj htrack).symm⟩
      next => cases htrack

/-- The search takes a token as the lexer does: it goes on with the same brackets open, or it ends
with the last one. -/
theorem closeBrackets_of_trackBrackets {cs rest : List Char} {t : Token} {stack' : List String}
    (h : token cs = some (t, rest)) (hspelled : ∀ s, t = .mark s → cs = s.toList ++ rest)
    (htrack : trackBrackets (closers expected) t = some stack') (hne : expected ≠ []) :
    closeBrackets opener expected cs = .ok rest ∨
      ∃ expected', expected' ≠ [] ∧ stack' = closers expected' ∧
        closeBrackets opener expected cs = closeBrackets opener expected' rest := by
  by_cases ht : t.opens = 0
  · rw [trackBrackets_of_opens_eq_zero ht] at htrack
    exact .inr ⟨expected, hne, (Option.some.inj htrack).symm, closeBrackets_token h ht⟩
  · obtain ⟨c, rfl, hcloser | ⟨d, hopener⟩⟩ := exists_bracket_of_opens_ne_zero ht
    · obtain rfl : cs = c :: rest := by simpa using hspelled _ rfl
      have hquote : ¬ isQuote c = true := by
        rcases eq_of_isCloser hcloser with rfl | rfl | rfl <;> decide
      have hopen : closer? c = none := by
        rcases eq_of_isCloser hcloser with rfl | rfl | rfl <;> rfl
      obtain ⟨outer, rfl, rfl⟩ := exists_of_trackBrackets_closer hcloser htrack
      cases outer with
      | nil => exact .inl (closeBrackets_last hquote hopen hcloser)
      | cons e outer =>
          exact .inr ⟨e :: outer, List.cons_ne_nil e outer, rfl,
            closeBrackets_closer hquote hopen hcloser⟩
    · obtain rfl : cs = c :: rest := by simpa using hspelled _ rfl
      have hquote : ¬ isQuote c = true := by
        rcases eq_of_closer?_eq_some hopener with ⟨rfl, -⟩ | ⟨rfl, -⟩ | ⟨rfl, -⟩ <;> decide
      rw [trackBrackets_opener hopener] at htrack
      split at htrack
      · cases htrack
      · exact .inr ⟨d :: expected, List.cons_ne_nil d expected, (Option.some.inj htrack).symm,
          closeBrackets_opener hquote hopener⟩

/-- While the search does not end, it and the lexer keep account of the same brackets. -/
theorem exists_closers {cs rest after : List Char} {t : Token} {stack' : List String}
    (h : token cs = some (t, rest)) (hspelled : ∀ s, t = .mark s → cs = s.toList ++ rest)
    (hclose : closeBrackets opener expected cs = .ok after) (hafter : after.length < rest.length)
    (htrack : trackBrackets (closers expected) t = some stack') (hne : expected ≠ []) :
    ∃ expected', expected' ≠ [] ∧ stack' = closers expected' ∧
      closeBrackets opener expected' rest = .ok after := by
  rcases closeBrackets_of_trackBrackets h hspelled htrack hne with
    hend | ⟨expected', hne', hstack, heq⟩
  · rw [hend] at hclose
    rw [Except.ok.inj hclose] at hafter
    exact absurd hafter (Nat.lt_irrefl _)
  · exact ⟨expected', hne', hstack, heq.symm.trans hclose⟩

end Search

/-! ## Runs up to the bracket -/

/-- Text that ends a part of a source: its bracket closes the outermost one and no other. -/
structure Closes (w : List Char) : Prop where
  outer : Outer w
  ne_nil : w ≠ []
  inLine : '\n' ∉ w
  outermost : ∀ expected, closeBrackets '(' expected w = .ok [] → expected = [')']

theorem eq_of_closeBrackets_close {opener : Char} {expected : List Char}
    (h : closeBrackets opener expected [')'] = .ok []) : expected = [')'] := by
  rw [closeBrackets.eq_def] at h
  match expected with
  | [] => cases h
  | [d] =>
      by_cases hd : d = ')'
      · rw [hd]
      · simp [isQuote, closer?, isCloser, hd] at h
  | d :: e :: outer =>
      by_cases hd : d = ')'
      · simp [isQuote, closer?, isCloser, hd, closeBrackets.eq_def _ _ []] at h
      · simp [isQuote, closer?, isCloser, hd] at h

theorem closes_close : Closes [')'] where
  outer := outer_nil.cons rfl
  ne_nil := List.cons_ne_nil _ _
  inLine := by simp
  outermost _ h := eq_of_closeBrackets_close h

theorem closes_comma_close : Closes [',', ')'] where
  outer := (outer_nil.cons rfl).cons rfl
  ne_nil := List.cons_ne_nil _ _
  inLine := by simp
  outermost expected h := by
    have hplain : Plain [','] := by simp [Plain, isPlain]
    exact eq_of_closeBrackets_close ((closeBrackets_plain hplain [')']).symm.trans h)

theorem exists_of_closeBrackets_comment {opener : Char} {expected cs after : List Char}
    (h : closeBrackets opener expected ('#' :: cs) = .ok after) :
    ∃ rest, afterComment cs = some rest ∧ closeBrackets opener expected rest = .ok after := by
  cases hcs : afterComment cs with
  | none =>
      rw [closeBrackets.eq_def] at h
      dsimp only at h
      rw [if_neg (by decide), show closer? '#' = none from rfl] at h
      dsimp only at h
      rw [if_neg (by decide), if_pos rfl] at h
      split at h
      · cases h
      · rename_i rest hsome
        rw [hcs] at hsome
        cases hsome
  | some rest => exact ⟨rest, rfl, by rwa [closeBrackets_comment hcs] at h⟩

theorem afterComment_eq_none {cs : List Char} (h : '\n' ∉ cs) : afterComment cs = none := by
  induction cs with
  | nil => rfl
  | cons c cs ih =>
      rw [List.mem_cons, not_or] at h
      rw [afterComment, if_neg (Ne.symm h.1), ih h.2]

/-- A comment ends at the first line feed. -/
theorem exists_of_afterComment {cs w rest : List Char} (hw : '\n' ∉ w)
    (h : afterComment (cs ++ w) = some rest) :
    ∃ text y, cs = text ++ '\n' :: y ∧ '\n' ∉ text ∧ rest = y ++ w := by
  induction cs with
  | nil =>
      rw [List.nil_append, afterComment_eq_none hw] at h
      cases h
  | cons c cs ih =>
      rw [List.cons_append, afterComment] at h
      split at h
      next hc =>
        obtain rfl := Option.some.inj h
        exact ⟨[], cs, by rw [hc]; rfl, by simp, rfl⟩
      next hc =>
        obtain ⟨text, y, rfl, htext, hrest⟩ := ih h
        exact ⟨c :: text, y, rfl, by simpa [Ne.symm hc] using htext, hrest⟩

theorem isPlain_of_isBlank {c : Char} (h : Text.isBlank c = true) : isPlain c = true := by
  cases hc : isPlain c with
  | true => rfl
  | false =>
      simp only [isPlain, Bool.not_eq_false', Bool.or_eq_true, beq_iff_eq] at hc
      rcases hc with (((((((rfl | rfl) | rfl) | rfl) | rfl) | rfl) | rfl) | rfl) | rfl <;> cases h

/-- A part of a source that the search goes through, up to the text that closes it, while the
brackets `expected` are open.  A backslash at its end does not join a line of the texts `E` to
it. -/
structure Searched (E : List Char → Prop) (w expected x : List Char) : Prop where
  ne_nil : expected ≠ []
  closed : closeBrackets '(' expected (x ++ w) = .ok []
  joined : x.getLast? = some '\\' → ∀ z, E z → headIs (· == '\n') z = false

section Searches

variable {E : List Char → Prop} {w expected x : List Char}

theorem Searched.closers_ne_nil (h : Searched E w expected x) : closers expected ≠ [] := by
  simpa [closers] using h.ne_nil

/-- What stands behind the front of a part ends as the whole part does. -/
theorem Searched.behind {expected' y : List Char} (used : List Char)
    (h : Searched E w expected (used ++ y)) (hne : expected' ≠ [])
    (hclosed : closeBrackets '(' expected' (y ++ w) = .ok []) :
    Searched E w expected' y := by
  refine ⟨hne, hclosed, fun hlast => h.joined ?_⟩
  have hy : y ≠ [] := by
    rintro rfl
    cases hlast
  rw [getLast?_append_right used hy, hlast]

/-- Behind plain characters the same brackets are open. -/
theorem Searched.behind_plain {y : List Char} (used : List Char)
    (h : Searched E w expected (used ++ y)) (hplain : Plain used) : Searched E w expected y :=
  h.behind used h.ne_nil (by rw [← closeBrackets_plain hplain, ← List.append_assoc]; exact h.closed)

theorem Searched.settled_blank (hE : Behind E) {c : Char} (h : Searched E w expected (c :: x))
    (hc : (c = ' ' || c = '\t' || c = '\x0c') = true)
    (hx : Searched E w expected x → Settled E (closers expected) x) :
    Settled E (closers expected) (c :: x) := by
  have hblank : Text.isBlank c = true := by
    simp only [Bool.or_eq_true, decide_eq_true_eq] at hc
    rcases hc with (rfl | rfl) | rfl <;> rfl
  have hplain : Plain [c] := plain_nil.cons (isPlain_of_isBlank hblank)
  refine Settled.space hE [c] (hx (h.behind_plain [c] hplain))
    (fun z _ _ => ?_) (.inl rfl) h.closers_ne_nil fun _ => ⟨c, rfl, hblank⟩
  rw [List.singleton_append, front, if_pos hc]

theorem Searched.settled_feed (hE : Behind E) (h : Searched E w expected ('\n' :: x))
    (hx : Searched E w expected x → Settled E (closers expected) x) :
    Settled E (closers expected) ('\n' :: x) :=
  Settled.space hE ['\n'] (hx (h.behind_plain ['\n'] (plain_nil.cons rfl)))
    (fun _ _ _ => rfl) (.inr rfl) h.closers_ne_nil fun _ => ⟨'\n', rfl, rfl⟩

/-- A comment that the search passes over ends inside the part. -/
theorem Searched.settled_comment (hE : Behind E) (hw : Closes w)
    (h : Searched E w expected ('#' :: x))
    (hx : ∀ y, y.length ≤ x.length → Searched E w expected y → Settled E (closers expected) y) :
    Settled E (closers expected) ('#' :: x) := by
  obtain ⟨rest, hrest, hclosed⟩ := exists_of_closeBrackets_comment h.closed
  obtain ⟨text, y, rfl, htext, rfl⟩ := exists_of_afterComment hw.inLine hrest
  have hy : Searched E w expected ('\n' :: y) :=
    h.behind ('#' :: text) h.ne_nil ((closeBrackets_plain (plain_nil.cons rfl) _).trans hclosed)
  refine Settled.space hE ('#' :: text) (hx _ (by simp) hy) (fun z _ _ => ?_) (.inl rfl)
    h.closers_ne_nil fun hnil => absurd hnil (List.cons_ne_nil _ _)
  rw [List.cons_append, front, if_neg (by decide), if_pos rfl, List.cons_append,
    dropWhile_comment htext]

/-- A backslash joins the next line to its own, and nothing else stands behind it. -/
theorem Searched.settled_join (hE : Behind E) (h : Searched E w expected ('\\' :: x))
    (hx : ∀ y, y.length ≤ x.length → Searched E w expected y → Settled E (closers expected) y) :
    Settled E (closers expected) ('\\' :: x) := by
  have hfront : ∀ cs, front ('\\' :: cs) =
      if headIs (· == '\n') cs && !cs.tail.isEmpty then some (.space, cs.tail) else none :=
    fun _ => rfl
  cases x with
  | nil =>
      refine settled_of_front_eq_none hE fun z hz => ?_
      rw [List.singleton_append, hfront, h.joined rfl z hz]
      rfl
  | cons d y =>
      by_cases hd : d = '\n'
      · subst hd
        have hy := h.behind_plain ['\\', '\n'] ((plain_nil.cons rfl).cons rfl)
        refine Settled.space hE ['\\', '\n'] (hx y (by simp) hy) (fun z _ hz => ?_)
          (.inl rfl) h.closers_ne_nil fun _ => ⟨'\n', rfl, rfl⟩
        have hrest : (y ++ z).isEmpty = false := by simp [hz]
        rw [List.cons_append, hfront]
        simp [headIs, hrest]
      · refine settled_of_front_eq_none hE fun z hz => ?_
        have hhead : headIs (· == '\n') (d :: y ++ z) = false := by simpa [headIs] using hd
        rw [List.cons_append, hfront, hhead]
        rfl

/-- A token is the same in front of all texts, and the search takes it as the lexer does. -/
theorem Searched.settled_token (hE : Behind E) (hw : Closes w) {c : Char}
    (h : Searched E w expected (c :: x))
    (hfront : ∀ cs, front (c :: cs) = (token (c :: cs)).map fun r => (.token r.1, r.2))
    (hx : ∀ expected' y, y.length ≤ x.length → Searched E w expected' y →
      Settled E (closers expected') y) :
    Settled E (closers expected) (c :: x) := by
  by_cases htoken : ∃ z, E z ∧ token (c :: x ++ z) ≠ none
  · obtain ⟨z, hz, hsome⟩ := htoken
    obtain ⟨⟨t, rest⟩, ht⟩ := Option.ne_none_iff_exists'.mp hsome
    obtain ⟨used, y, hused, -, hspelled, hother⟩ :=
      cutsAt_token (List.cons_ne_nil c x) _ _ _ (hE z hz).1 ht
    have hle : y.length ≤ x.length := by
      have hpos := List.length_pos_iff.mpr hspelled.ne_nil
      have hlength := congrArg List.length hused
      simp only [List.length_cons, List.length_append] at hlength
      omega
    rw [hused] at h hother ⊢
    refine Settled.token hE (fun stack' htrack => ?_) (fun z' hz' => ?_) h.closers_ne_nil hspelled
    · have hspelling : ∀ s, t = .mark s → used ++ y ++ w = s.toList ++ (y ++ w) := by
        intro s hs
        rw [hspelled.symbol s hs, List.append_assoc]
      obtain ⟨expected', hne', rfl, hclosed'⟩ := exists_closers (hother w hw.outer) hspelling
        h.closed (List.length_pos_iff.mpr (List.append_ne_nil_of_right_ne_nil y hw.ne_nil))
        htrack h.ne_nil
      exact hx expected' y hle (h.behind used hne' hclosed')
    · have hother := hother z' hz'
      rw [← hused, List.cons_append] at hother
      rw [← List.append_assoc, ← hused, List.cons_append, hfront, hother]
      rfl
  · refine settled_of_front_eq_none hE fun z hz => ?_
    have hnone : token (c :: x ++ z) = none :=
      Classical.byContradiction fun hsome => htoken ⟨z, hz, hsome⟩
    rw [List.cons_append] at hnone ⊢
    rw [hfront, hnone]
    rfl

/-- A part of a source that the search goes through is a run of tokens, or else it is refused.  By
induction on its length, along the cases for its front. -/
theorem Searched.settled (hE : Behind E) (hw : Closes w) (n : Nat) (hn : x.length ≤ n)
    (h : Searched E w expected x) : Settled E (closers expected) x := by
  induction n generalizing expected x with
  | zero =>
      obtain rfl := List.length_eq_zero_iff.mp (Nat.le_zero.mp hn)
      obtain rfl := hw.outermost expected h.closed
      exact .inl ⟨[], .done⟩
  | succ n ih =>
      cases x with
      | nil =>
          obtain rfl := hw.outermost expected h.closed
          exact .inl ⟨[], .done⟩
      | cons c x =>
          have hx : ∀ expected' y, y.length ≤ x.length → Searched E w expected' y →
              Settled E (closers expected') y :=
            fun expected' y hy => ih (Nat.le_trans hy (Nat.le_of_succ_le_succ hn))
          by_cases hblank : (c = ' ' || c = '\t' || c = '\x0c') = true
          · exact h.settled_blank hE hblank (hx expected x (Nat.le_refl _))
          by_cases hcomment : c = '#'
          · subst hcomment
            exact h.settled_comment hE hw (hx expected)
          by_cases hfeed : c = '\n'
          · subst hfeed
            exact h.settled_feed hE (hx expected x (Nat.le_refl _))
          by_cases hback : c = '\\'
          · subst hback
            exact h.settled_join hE (hx expected)
          refine h.settled_token hE hw (fun cs => ?_) hx
          rw [front, if_neg hblank, if_neg hcomment, if_neg hfeed, if_neg hback]

end Searches

end BoundSql.Template
