import BoundSql.Proofs.Cutting
set_option autoImplicit false

/-!
# What stands behind a site

A site takes up a span of the text, and the readers of sites look no further than that span: the
text behind it can be replaced by any other without a change to what is read.  For a site in
parentheses there is no condition on the other text.  A name with accesses could go on in it, and so
it must not begin with a character that would be taken along (`EndsAlike`).

Each reader is gone through in turn.  It takes a front of the text off, and it takes the same front
off a text that has something else behind it (`afterString_replace`, `closeBrackets_replace`,
`afterAccesses_replace`).  A string literal is the one that looks ahead: behind two quotes a third
one opens a longer literal, so that the character behind a literal has to stay.  Inside of brackets
there always is such a character, and it belongs to the site.

`Site.read_replace` puts the readers together, and `Site.read_replace_end` says the same of a site
at the end of a text.  Whatever is said of templates that are put one behind the other depends on
the two.
-/

namespace BoundSql.Template

/-- A span that ends in front of a shorter rest begins with the first character of the text. -/
theorem exists_span_of_cons_eq {c : Char} {cs span rest : List Char} (h : c :: cs = span ++ rest)
    (short : rest.length ≤ cs.length) : ∃ inner, span = c :: inner ∧ cs = inner ++ rest := by
  rcases List.cons_eq_append_iff.mp h with ⟨rfl, rfl⟩ | hinner
  · simp only [List.length_cons] at short
    omega
  · exact hinner

/-! ## Strings and comments of the expression language -/

/-- How the text behind the opening delimiter of a string literal falls into the literal and the
text behind it.  The flag says whether the delimiters are triple. -/
inductive SkipsString (quote : Char) : Bool → List Char → List Char → Prop where
  /-- a backslash takes the next character along -/
  | escaped {triple : Bool} {c : Char} {cs rest : List Char}
      (tail : SkipsString quote triple cs rest) :
      SkipsString quote triple ('\\' :: c :: cs) rest
  | single {rest : List Char} (plain : quote ≠ '\\') : SkipsString quote false (quote :: rest) rest
  | triple {rest : List Char} (plain : quote ≠ '\\') :
      SkipsString quote true (quote :: quote :: quote :: rest) rest
  /-- a quote without two more behind it ends no literal with triple delimiters -/
  | quote {a b : Char} {cs rest : List Char} (plain : quote ≠ '\\')
      (inside : ¬ (a = quote ∧ b = quote)) (tail : SkipsString quote true (a :: b :: cs) rest) :
      SkipsString quote true (quote :: a :: b :: cs) rest
  | char {triple : Bool} {c : Char} {cs rest : List Char} (plain : c ≠ '\\') (other : c ≠ quote)
      (inLine : ¬ (c = '\n' ∧ triple = false)) (tail : SkipsString quote triple cs rest) :
      SkipsString quote triple (c :: cs) rest

/-- A literal with triple delimiters does not end within one character. -/
theorem skipString_triple_of_length {quote : Char} {cs : List Char} (h : cs.length < 2) :
    skipString quote true cs = none := by
  rcases cs with _ | ⟨c, _ | ⟨d, cs⟩⟩
  · rfl
  · simp [skipString]
  · simp only [List.length_cons] at h
    omega

theorem skipsString_of_skipString {quote : Char} {triple : Bool} {cs rest : List Char}
    (h : skipString quote triple cs = some rest) : SkipsString quote triple cs rest := by
  unfold skipString at h
  split at h
  · cases h
  · rename_i c cs
    split at h
    · rename_i hback
      subst hback
      split at h
      · cases h
      · exact .escaped (skipsString_of_skipString h)
    · rename_i hback
      split at h
      · rename_i hquote
        subst hquote
        cases triple with
        | false =>
            obtain rfl : cs = rest := Option.some.inj h
            exact .single hback
        | true =>
            rw [if_pos rfl] at h
            split at h
            · split at h
              · rename_i hclose
                obtain ⟨rfl, rfl⟩ := hclose
                obtain rfl := Option.some.inj h
                exact .triple hback
              · rename_i hopen
                exact .quote hback hopen (skipsString_of_skipString h)
            · rename_i hshort
              have hlength : cs.length < 2 := by
                rcases cs with _ | ⟨a, _ | ⟨b, cs⟩⟩
                · exact Nat.two_pos
                · exact Nat.one_lt_two
                · exact absurd rfl (hshort a b cs)
              rw [skipString_triple_of_length hlength] at h
              cases h
      · rename_i hquote
        split at h
        · cases h
        · rename_i hline
          exact .char hback hquote hline (skipsString_of_skipString h)
termination_by cs.length

theorem SkipsString.skipString_eq {quote : Char} {triple : Bool} {cs rest : List Char}
    (h : SkipsString quote triple cs rest) : skipString quote triple cs = some rest := by
  induction h with
  | escaped tail ih => rw [skipString, if_pos rfl, ih]
  | single plain => rw [skipString.eq_def]; simp only [plain, if_false, if_true, Bool.false_eq_true]
  | triple plain => rw [skipString.eq_def]; simp only [plain, if_false, if_true, and_self]
  | quote plain inside tail ih =>
      rw [skipString.eq_def]
      simp only [plain, inside, if_false, if_true, ih]
  | char plain other inLine tail ih =>
      rw [skipString.eq_def]
      simp only [plain, other, inLine, if_false, ih]

/-- A string literal is a span that is one in front of any text, and that takes its closing
delimiter along. -/
theorem SkipsString.exists_span {quote : Char} {triple : Bool} {cs rest : List Char}
    (h : SkipsString quote triple cs rest) :
    ∃ span, cs = span ++ rest ∧ (if triple = true then 3 else 1) ≤ span.length ∧
      ∀ other, SkipsString quote triple (span ++ other) other := by
  induction h with
  | @escaped triple c cs rest tail ih =>
      obtain ⟨span, rfl, hlength, hspan⟩ := ih
      refine ⟨'\\' :: c :: span, rfl, ?_, fun other => .escaped (hspan other)⟩
      exact Nat.le_succ_of_le (Nat.le_succ_of_le hlength)
  | single plain => exact ⟨[quote], rfl, Nat.le_refl 1, fun other => .single plain⟩
  | triple plain => exact ⟨[quote, quote, quote], rfl, Nat.le_refl 3, fun other => .triple plain⟩
  | @quote a b cs rest plain inside tail ih =>
      -- The literal is still open behind two more characters, which the span has, too.
      obtain ⟨span, hcs, hlength, hspan⟩ := ih
      rcases span with _ | ⟨a', _ | ⟨b', span⟩⟩
      · exact absurd hlength (Nat.not_succ_le_zero 2)
      · rw [if_pos rfl, List.length_singleton] at hlength
        omega
      · obtain ⟨rfl, htail⟩ := List.cons.inj hcs
        obtain ⟨rfl, rfl⟩ := List.cons.inj htail
        exact ⟨quote :: a :: b :: span, rfl, Nat.le_succ_of_le hlength,
          fun other => .quote plain inside (hspan other)⟩
  | @char triple c cs rest plain other inLine tail ih =>
      obtain ⟨span, rfl, hlength, hspan⟩ := ih
      exact ⟨c :: span, rfl, Nat.le_succ_of_le hlength,
        fun more => .char plain other inLine (hspan more)⟩

/-- A string literal takes its closing delimiter along. -/
theorem skipString_consumes {quote : Char} {triple : Bool} {cs rest : List Char}
    (h : skipString quote triple cs = some rest) :
    rest.length + (if triple = true then 3 else 1) ≤ cs.length := by
  obtain ⟨span, rfl, hlength, -⟩ := (skipsString_of_skipString h).exists_span
  rw [List.length_append]
  omega

/-- The end of a string literal does not depend on the text behind it. -/
theorem skipString_replace {quote : Char} {triple : Bool} {span rest : List Char}
    (h : skipString quote triple (span ++ rest) = some rest) (other : List Char) :
    skipString quote triple (span ++ other) = some other := by
  obtain ⟨span', hspan, -, hreplace⟩ := (skipsString_of_skipString h).exists_span
  obtain rfl : span = span' := List.append_cancel_right hspan
  exact (hreplace other).skipString_eq

theorem afterString_length_lt {quote : Char} {cs rest : List Char}
    (h : afterString quote cs = some rest) : rest.length < cs.length := by
  unfold afterString at h
  split at h
  · split at h
    · have := skipString_consumes h
      simp only [if_true, List.length_cons] at this ⊢
      omega
    · have := skipString_consumes h
      simp only [Bool.false_eq_true, if_false] at this
      omega
  · have := skipString_consumes h
    simp only [Bool.false_eq_true, if_false] at this
    omega

/-- The end of a string literal does not depend on the text behind the character that follows it.
That character counts: behind two quotes a third one opens a longer literal. -/
theorem afterString_replace {quote d : Char} {span rest : List Char}
    (h : afterString quote (span ++ d :: rest) = some (d :: rest)) (other : List Char) :
    afterString quote (span ++ d :: other) = some (d :: other) := by
  rcases span with _ | ⟨a, _ | ⟨b, span⟩⟩
  · -- A literal does not end where it began.
    exact absurd (afterString_length_lt h) (Nat.lt_irrefl _)
  · rw [List.cons_append, List.nil_append, afterString] at h ⊢
    by_cases hopen : a = quote ∧ d = quote
    · rw [if_pos hopen] at h
      have hlen := skipString_consumes h
      simp only [if_true, List.length_cons] at hlen
      omega
    · rw [if_neg hopen] at h ⊢
      have hsingle : skipString quote false ([a] ++ d :: rest) = some (d :: rest) := h
      exact skipString_replace hsingle (d :: other)
  · rw [List.cons_append, List.cons_append, afterString] at h ⊢
    by_cases hopen : a = quote ∧ b = quote
    · rw [if_pos hopen] at h ⊢
      exact skipString_replace h (d :: other)
    · rw [if_neg hopen] at h ⊢
      rw [← List.cons_append, ← List.cons_append] at h ⊢
      exact skipString_replace h (d :: other)

theorem afterComment_replace {cs span rest : List Char} (h : afterComment cs = some rest)
    (hcs : cs = span ++ rest) (other : List Char) : afterComment (span ++ other) = some other := by
  induction cs generalizing span with
  | nil => cases h
  | cons c ds ih =>
      rw [afterComment] at h
      by_cases hline : c = '\n'
      · rw [if_pos hline] at h
        obtain rfl := Option.some.inj h
        obtain rfl : [c] = span := List.append_cancel_right hcs
        rw [List.cons_append, List.nil_append, afterComment, if_pos hline]
      · rw [if_neg hline] at h
        have hlen := (afterComment_suffix h).length_le
        obtain ⟨inner, rfl, hds⟩ := exists_span_of_cons_eq hcs hlen
        rw [List.cons_append, afterComment, if_neg hline]
        exact ih h hds

/-! ## Brackets, one character or literal at a time -/

section Brackets

variable {opener c d : Char} {expected cs after : List Char}

theorem closeBrackets_string (hquote : isQuote c = true) (h : afterString c cs = some after) :
    closeBrackets opener expected (c :: cs) = closeBrackets opener expected after := by
  rw [closeBrackets.eq_def]
  dsimp only
  rw [if_pos hquote]
  split
  · rename_i hnone
    rw [h] at hnone
    cases hnone
  · rename_i after' hsome
    obtain rfl := Option.some.inj (h.symm.trans hsome)
    rfl

theorem closeBrackets_opener (hquote : ¬ isQuote c = true) (h : closer? c = some d) :
    closeBrackets opener expected (c :: cs) = closeBrackets opener (d :: expected) cs := by
  rw [closeBrackets.eq_def]
  dsimp only
  rw [if_neg hquote, h]

theorem closeBrackets_closer {e : Char} {outer : List Char} (hquote : ¬ isQuote d = true)
    (hopen : closer? d = none) (hclose : isCloser d = true) :
    closeBrackets opener (d :: e :: outer) (d :: cs) = closeBrackets opener (e :: outer) cs := by
  rw [closeBrackets.eq_def]
  dsimp only
  rw [if_neg hquote, hopen]
  dsimp only
  rw [if_pos hclose, if_pos rfl]

theorem closeBrackets_last (hquote : ¬ isQuote d = true) (hopen : closer? d = none)
    (hclose : isCloser d = true) : closeBrackets opener [d] (d :: cs) = .ok cs := by
  rw [closeBrackets.eq_def]
  dsimp only
  rw [if_neg hquote, hopen]
  dsimp only
  rw [if_pos hclose, if_pos rfl]

theorem closeBrackets_comment (h : afterComment cs = some after) :
    closeBrackets opener expected ('#' :: cs) = closeBrackets opener expected after := by
  rw [closeBrackets.eq_def]
  dsimp only
  rw [if_neg (by decide), show closer? '#' = none from rfl]
  dsimp only
  rw [if_neg (by decide), if_pos rfl]
  split
  · rename_i hnone
    rw [h] at hnone
    cases hnone
  · rename_i after' hsome
    obtain rfl := Option.some.inj (h.symm.trans hsome)
    rfl

theorem closeBrackets_other (hquote : ¬ isQuote c = true) (hopen : closer? c = none)
    (hclose : ¬ isCloser c = true) (hcomment : c ≠ '#') :
    closeBrackets opener expected (c :: cs) = closeBrackets opener expected cs := by
  rw [closeBrackets.eq_def]
  dsimp only
  rw [if_neg hquote, hopen]
  dsimp only
  rw [if_neg hclose, if_neg hcomment]

end Brackets

/-- The closing bracket does not depend on the text behind it. -/
theorem closeBrackets_replace {opener : Char} {expected cs span rest : List Char}
    (h : closeBrackets opener expected cs = .ok rest) (hcs : cs = span ++ rest)
    (other : List Char) : closeBrackets opener expected (span ++ other) = .ok other := by
  fun_induction closeBrackets opener expected cs generalizing span with
  | case1 => cases h
  | case2 => cases h
  | case3 expected c ds hquote after hafter hlen ih =>
      -- The closing bracket is still to come, so a character of the span follows the literal.
      have hshort := closeBrackets_length_lt h
      obtain ⟨inner, rfl, hds⟩ := exists_span_of_cons_eq hcs (by omega)
      obtain ⟨text, rfl⟩ := afterString_suffix hafter
      obtain ⟨mid, rfl⟩ := closeBrackets_suffix h
      obtain rfl : text ++ mid = inner :=
        List.append_cancel_right ((List.append_assoc text mid rest).trans hds)
      cases mid with
      | nil =>
          simp only [List.nil_append] at hshort
          omega
      | cons d mid =>
          rw [List.cons_append] at hafter
          have hstring := afterString_replace hafter (mid ++ other)
          rw [List.cons_append, List.append_assoc, List.cons_append,
            closeBrackets_string hquote hstring]
          exact ih h rfl
  | case4 expected c ds hquote d hopen ih =>
      have hshort := closeBrackets_length_lt h
      obtain ⟨inner, rfl, hds⟩ := exists_span_of_cons_eq hcs (by omega)
      rw [List.cons_append, closeBrackets_opener hquote hopen]
      exact ih h hds
  | case5 => cases h
  | case6 ds d hquote hopen hclose =>
      obtain rfl := Except.ok.inj h
      obtain rfl : [d] = span := List.append_cancel_right hcs
      exact closeBrackets_last hquote hopen hclose
  | case7 => cases h
  | case8 ds d e outer hquote hopen hclose ih =>
      have hshort := closeBrackets_length_lt h
      obtain ⟨inner, rfl, hds⟩ := exists_span_of_cons_eq hcs (by omega)
      rw [List.cons_append, closeBrackets_closer hquote hopen hclose]
      exact ih h hds
  | case9 => cases h
  | case10 => cases h
  | case11 expected ds after hafter hlen _ _ _ ih =>
      have hshort := closeBrackets_length_lt h
      obtain ⟨inner, rfl, hds⟩ := exists_span_of_cons_eq hcs (by omega)
      obtain ⟨text, rfl⟩ := afterComment_suffix hafter
      obtain ⟨mid, rfl⟩ := closeBrackets_suffix h
      obtain rfl : text ++ mid = inner :=
        List.append_cancel_right ((List.append_assoc text mid rest).trans hds)
      have hcomment := afterComment_replace hafter rfl (mid ++ other)
      rw [List.cons_append, List.append_assoc, closeBrackets_comment hcomment]
      exact ih h rfl
  | case12 expected c ds hquote hopen hclose hcomment ih =>
      have hshort := closeBrackets_length_lt h
      obtain ⟨inner, rfl, hds⟩ := exists_span_of_cons_eq hcs (by omega)
      rw [List.cons_append, closeBrackets_other hquote hopen hclose hcomment]
      exact ih h hds

/-! ## Names with accesses -/

/-- No access begins a text: no subscript, and no dot with a name behind it. -/
structure NoAccess (cs : List Char) : Prop where
  noSubscript : cs.head? ≠ some '['
  noAttribute : ∀ (c : Char) (rest : List Char), cs = '.' :: c :: rest → isNameStart c = false

/-- A name with accesses that ends in front of one text would end in front of another one, too: no
access begins the other text, and a name goes on in it only if one would have gone on before. -/
structure EndsAlike (rest other : List Char) : Prop where
  noAccess : NoAccess other
  noName : other.head?.any isNameChar = true → rest.head?.any isNameChar = true

theorem afterAccesses_of_noAccess {cs : List Char} (h : NoAccess cs) :
    afterAccesses cs = .ok cs := by
  rw [afterAccesses.eq_def]
  split
  · rename_i c rest
    rw [h.noAttribute c rest rfl, if_neg Bool.false_ne_true]
  · exact absurd rfl h.noSubscript
  · rfl

theorem afterAccesses_subscript {cs after : List Char} (h : afterBracket '[' cs = .ok after) :
    afterAccesses ('[' :: cs) = afterAccesses after := by
  rw [afterAccesses]
  split
  · rename_i reason herror
    rw [h] at herror
    cases herror
  · rename_i after' hok
    obtain rfl := Except.ok.inj (h.symm.trans hok)
    rfl

/-- Accesses are read for as long as there are some. -/
theorem noAccess_of_afterAccesses {cs rest : List Char} (h : afterAccesses cs = .ok rest) :
    NoAccess rest := by
  fun_induction afterAccesses cs with
  | case1 c ds hc hlen ih => exact ih h
  | case2 c ds hc =>
      obtain rfl := Except.ok.inj h
      refine ⟨by simp, fun c' rest' heq => ?_⟩
      obtain ⟨rfl, -⟩ := List.cons.inj (List.cons.inj heq).2
      exact eq_false_of_ne_true hc
  | case3 => cases h
  | case4 ds after hafter hlen ih => exact ih h
  | case5 cs hdot hbracket =>
      obtain rfl := Except.ok.inj h
      refine ⟨fun hhead => ?_, fun c' rest' heq => (hdot c' rest' heq).elim⟩
      obtain ⟨tail, htail⟩ := List.head?_eq_some_iff.mp hhead
      exact hbracket tail htail

/-- A name ends at the same place in front of another text. -/
theorem afterName_replace {span accesses rest other : List Char}
    (h : afterName (span ++ rest) = accesses ++ rest) (ends : EndsAlike rest other) :
    afterName (span ++ other) = accesses ++ other := by
  induction span with
  | nil =>
      have hlen := congrArg List.length h
      have hle := afterName_length_le rest
      simp only [List.nil_append, List.length_append] at hlen
      obtain rfl : accesses = [] := List.length_eq_zero_iff.mp (by omega)
      -- The name ended in front of the rest, and so it ends in front of the other text.
      have hrest : ¬ rest.head?.any isNameChar = true := by
        intro hname
        cases rest with
        | nil => cases hname
        | cons d rest =>
            have hd : isNameChar d = true := hname
            rw [List.nil_append, afterName, List.dropWhile_cons_of_pos hd] at h
            have hshort := afterName_length_le rest
            rw [afterName, h] at hshort
            simp only [List.length_cons] at hshort
            omega
      cases other with
      | nil => rfl
      | cons c other =>
          have hc : ¬ isNameChar c = true := fun hname => hrest (ends.noName hname)
          exact List.dropWhile_cons_of_neg hc
  | cons c span ih =>
      rw [List.cons_append, afterName, List.dropWhile_cons] at h ⊢
      split at h
      · rename_i hc
        rw [if_pos hc]
        exact ih h
      · rename_i hc
        rw [if_neg hc]
        obtain rfl : c :: span = accesses := List.append_cancel_right h
        rfl

/-- The end of the accesses does not depend on the text behind them. -/
theorem afterAccesses_replace {cs span rest other : List Char}
    (h : afterAccesses cs = .ok rest) (hcs : cs = span ++ rest) (ends : EndsAlike rest other) :
    afterAccesses (span ++ other) = .ok other := by
  fun_induction afterAccesses cs generalizing span with
  | case1 c ds hc hlen ih =>
      have hle := (afterAccesses_suffix h).length_le
      obtain ⟨inner, rfl, hds⟩ :=
        exists_span_of_cons_eq hcs (by simp only [List.length_cons]; omega)
      obtain ⟨inner, rfl, rfl⟩ := exists_span_of_cons_eq hds (by omega)
      obtain ⟨accesses, haccesses⟩ := afterAccesses_suffix h
      have hname := afterName_replace haccesses.symm ends
      rw [List.cons_append, List.cons_append, afterAccesses, if_pos hc, hname]
      exact ih h haccesses.symm
  | case2 c ds hc =>
      obtain rfl := Except.ok.inj h
      obtain rfl : span = [] := List.append_left_eq_self.mp hcs.symm
      exact afterAccesses_of_noAccess ends.noAccess
  | case3 => cases h
  | case4 ds after hafter hlen ih =>
      have hle := (afterAccesses_suffix h).length_le
      obtain ⟨inner, rfl, hds⟩ := exists_span_of_cons_eq hcs (by omega)
      obtain ⟨text, rfl⟩ := closeBrackets_suffix hafter
      obtain ⟨mid, rfl⟩ := afterAccesses_suffix h
      obtain rfl : text ++ mid = inner :=
        List.append_cancel_right ((List.append_assoc text mid rest).trans hds)
      have hbracket : afterBracket '[' (text ++ (mid ++ other)) = .ok (mid ++ other) :=
        closeBrackets_replace hafter rfl (mid ++ other)
      rw [List.cons_append, List.append_assoc, afterAccesses_subscript hbracket]
      exact ih h rfl
  | case5 cs hdot hbracket =>
      obtain rfl := Except.ok.inj h
      obtain rfl : span = [] := List.append_left_eq_self.mp hcs.symm
      exact afterAccesses_of_noAccess ends.noAccess

/-! ## Sites -/

section Sites

variable {Code : Type} {compile : List Char → Verdict Code} {site : Site Code}

/-- What stands in front of the last character of a span. -/
theorem spanBefore_cons (inner after : List Char) (c : Char) :
    spanBefore (inner ++ after) (c :: after) = inner.dropLast := by
  have hlen : (inner ++ after).length - (c :: after).length = inner.length - 1 := by
    simp only [List.length_append, List.length_cons]
    omega
  rw [spanBefore, hlen, List.take_append_of_le_length (Nat.sub_le _ _), List.dropLast_eq_take]

/-- A site is made if its source is an expression. -/
theorem Site.make_eq_ok_iff {shown source : List Char} {splat : Bool} (hshown : shown ≠ []) :
    Site.make compile shown source splat = .ok site ↔
      ∃ code, compile source = .code code ∧ site = ⟨String.ofList shown, splat, code⟩ := by
  have hempty := List.isEmpty_eq_false_iff.mpr hshown
  simp only [Site.make, hempty, Bool.false_eq_true, if_false]
  cases compile source <;> simp [eq_comm]

/-- A site in parentheses is made of what stands between them. -/
theorem Site.read_parenthesised {inner after : List Char}
    (h : afterBracket '(' (inner ++ after) = .ok after) :
    Site.read compile ('(' :: (inner ++ after))
      = (Site.ofInner compile inner.dropLast).map fun site => (site, after) := by
  rw [Site.read, if_pos rfl, h]
  dsimp only
  rw [spanBefore_cons]
  cases Site.ofInner compile inner.dropLast with
  | error reason => rfl
  | ok site => rfl

/-- A site that is a name with accesses is made of the text in front of what is left. -/
theorem Site.read_named {c : Char} {inner after : List Char} (hparen : c ≠ '(')
    (hname : isNameStart c = true) (h : afterAccesses (afterName (inner ++ after)) = .ok after) :
    Site.read compile (c :: (inner ++ after))
      = (Site.make compile (c :: inner) (c :: inner) false).map fun site => (site, after) := by
  rw [Site.read, if_neg hparen, if_pos hname, h]
  dsimp only
  rw [← List.cons_append, spanBefore_append]
  cases Site.make compile (c :: inner) (c :: inner) false with
  | error reason => rfl
  | ok site => rfl

/-- A site that was read begins with an open parenthesis or with a name. -/
theorem Site.read_cases {c : Char} {cs rest : List Char}
    (h : Site.read compile (c :: cs) = .ok (site, rest)) :
    (c = '(' ∧ afterBracket '(' cs = .ok rest) ∨
      (c ≠ '(' ∧ isNameStart c = true ∧ afterAccesses (afterName cs) = .ok rest) := by
  rw [Site.read] at h
  split at h
  · rename_i hparen
    split at h
    · cases h
    · rename_i after hafter
      split at h
      · cases h
      · obtain ⟨-, rfl⟩ := Prod.mk.inj (Except.ok.inj h)
        exact .inl ⟨hparen, hafter⟩
  · rename_i hparen
    split at h
    · rename_i hname
      split at h
      · cases h
      · rename_i after hafter
        split at h
        · cases h
        · obtain ⟨-, rfl⟩ := Prod.mk.inj (Except.ok.inj h)
          exact .inr ⟨hparen, hname, hafter⟩
    · cases h

theorem map_fst_eq_ok_iff {ε α β : Type} {x : Except ε α} {a : α} {b c : β} :
    x.map (fun y => (y, b)) = .ok (a, c) ↔ x = .ok a ∧ b = c := by
  cases x with
  | error e => simp [Except.map]
  | ok y => simp [Except.map]

/-- A site that is read at an offset ends where its span does. -/
theorem siteAt_eq_ok {text : String} {start : Nat} {span rest : List Char}
    (htext : text.toList.drop start = span ++ rest)
    (reads : Site.read compile (span ++ rest) = .ok (site, rest)) :
    siteAt compile text start = .ok (site, start + span.length) := by
  have hlength := congrArg List.length htext
  have hspan := Site.read_length_lt reads
  rw [List.length_drop, List.length_append] at hlength
  rw [List.length_append] at hspan
  have hstop : text.toList.length - rest.length = start + span.length := by omega
  rw [siteAt, htext, reads]
  dsimp only
  rw [hstop]

/-- What a site is does not depend on the text behind it, if a name with accesses would end there
as well. -/
theorem Site.read_replace {span rest other : List Char}
    (h : Site.read compile (span ++ rest) = .ok (site, rest))
    (ends : span.head? ≠ some '(' → EndsAlike rest other) :
    Site.read compile (span ++ other) = .ok (site, other) := by
  match span with
  | [] => exact absurd (Site.read_length_lt h) (Nat.lt_irrefl _)
  | c :: inner =>
      rw [List.cons_append] at h ⊢
      rcases Site.read_cases h with ⟨rfl, hafter⟩ | ⟨hparen, hname, hafter⟩
      · have hother : afterBracket '(' (inner ++ other) = .ok other :=
          closeBrackets_replace hafter rfl other
        rw [Site.read_parenthesised hafter, map_fst_eq_ok_iff] at h
        rw [Site.read_parenthesised hother, map_fst_eq_ok_iff]
        exact ⟨h.1, rfl⟩
      · have hends := ends fun hhead => hparen (Option.some.inj hhead)
        obtain ⟨accesses, haccesses⟩ := afterAccesses_suffix hafter
        have hother : afterAccesses (afterName (inner ++ other)) = .ok other := by
          rw [afterName_replace haccesses.symm hends]
          exact afterAccesses_replace hafter haccesses.symm hends
        rw [Site.read_named hparen hname hafter, map_fst_eq_ok_iff] at h
        rw [Site.read_named hparen hname hother, map_fst_eq_ok_iff]
        exact ⟨h.1, rfl⟩

/-- A name with accesses is not followed by an access. -/
theorem Site.noAccess_of_read {span rest : List Char}
    (h : Site.read compile (span ++ rest) = .ok (site, rest)) (hparen : span.head? ≠ some '(') :
    NoAccess rest := by
  match span with
  | [] => exact absurd (Site.read_length_lt h) (Nat.lt_irrefl _)
  | c :: inner =>
      rcases Site.read_cases h with ⟨rfl, -⟩ | ⟨-, -, hafter⟩
      · exact absurd rfl hparen
      · exact noAccess_of_afterAccesses hafter

/-- Text that goes on neither with a name nor with an access, so that every name with accesses in
front of it ends there. -/
def EndsNames (cs : List Char) : Prop :=
  ∀ c ∈ cs.head?, c ≠ '[' ∧ c ≠ '.' ∧ isNameStart c = false ∧ isNameChar c = false

theorem endsNames_nil : EndsNames [] := nofun

theorem endsNames_blank (more : List Char) : EndsNames (' ' :: more) := by
  intro c hc
  obtain rfl := Option.some.inj hc
  decide +kernel

/-- A name with accesses that is not followed by an access is not followed by one either if the end
of the text behind it is replaced, by text that ends names or behind a quote. -/
theorem EndsAlike.replace_end {front tail other : List Char} (h : NoAccess (front ++ tail))
    (ends : EndsNames other ∨ '\'' ∈ front) : EndsAlike (front ++ tail) (front ++ other) := by
  match front with
  | [] =>
      have ends : EndsNames other := ends.resolve_right List.not_mem_nil
      cases other with
      | nil => exact ⟨⟨nofun, nofun⟩, nofun⟩
      | cons c other =>
          obtain ⟨hsubscript, hdot, -, hname⟩ := ends c rfl
          refine ⟨⟨fun hhead => hsubscript (Option.some.inj hhead), fun d rest heq => ?_⟩, ?_⟩
          · exact absurd (List.cons.inj heq).1 hdot
          · exact fun hc => absurd (hname.symm.trans hc) Bool.false_ne_true
  | [c] =>
      refine ⟨⟨h.noSubscript, fun d rest heq => ?_⟩, fun hname => hname⟩
      obtain ⟨rfl, rfl⟩ := List.cons.inj heq
      have ends : EndsNames (d :: rest) := ends.resolve_right (by decide)
      exact (ends d rfl).2.2.1
  | c :: d :: front =>
      refine ⟨⟨h.noSubscript, fun e rest heq => ?_⟩, fun hname => hname⟩
      obtain ⟨rfl, hd⟩ := List.cons.inj heq
      obtain ⟨rfl, -⟩ := List.cons.inj hd
      exact h.noAttribute d (front ++ tail) rfl

/-- The end of the text behind a site can be replaced by text that ends names, and by any text
behind a quote, without a change to the site. -/
theorem Site.read_replace_end {span front tail other : List Char}
    (h : Site.read compile (span ++ (front ++ tail)) = .ok (site, front ++ tail))
    (ends : EndsNames other ∨ '\'' ∈ front) :
    Site.read compile (span ++ (front ++ other)) = .ok (site, front ++ other) :=
  Site.read_replace h fun hparen => EndsAlike.replace_end (Site.noAccess_of_read h hparen) ends

end Sites

end BoundSql.Template
