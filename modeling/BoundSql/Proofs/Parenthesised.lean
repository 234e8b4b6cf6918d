import BoundSql.Proofs.Boundaries
set_option autoImplicit false

/-!
# Sites in parentheses and expressions in parentheses

A site in parentheses is read from its trimmed content, in parentheses of its own and with a line
feed behind it.  It is an expression if and only if the text from parenthesis to parenthesis is one,
as long as the two differ in nothing but layout: in blanks of the language, and in line ends that no
comment and no joined line needs.

What may be trimmed is decided by two classes of characters that are not the same: the blanks that
trimming takes away, and the blanks that the lexer passes over.  `LaidOut` names the contents for
which this makes no difference.  `Arrives` says which rests of a text the lexer comes to between two
tokens.  So it can be told whether the end of a content is hidden by a comment or stands behind a
backslash that joins lines; where neither is the case, layout can be put there or taken away
(`lexed_append_layout`).

The line feed behind a content ends a comment at its end, so that a comment there is accepted at a
site.  Contents that are trimmed to nothing, or that lose a character which is no blank of the
language, are where a site and an expression differ.
-/

namespace BoundSql.Expr

/-! ## Layout in a source -/

/-- A character that ends a line. -/
def isLineEnd (c : Char) : Bool := c == '\n' || c == '\r'

/-- A blank of the language: it separates tokens and stands for none. -/
def isLayout (c : Char) : Bool := c == ' ' || c == '\t' || c == '\x0c' || isLineEnd c

/-- Blanks of the language whose line ends are line feeds. -/
def Layout (b : List Char) : Prop := ∀ c ∈ b, isLayout c = true ∧ c ≠ '\r'

section Layouts

variable {stack : List String} {b cs : List Char}

theorem Layout.of_cons {c : Char} (h : Layout (c :: b)) : Layout b :=
  fun d hd => h d (List.mem_cons_of_mem c hd)

theorem exists_front_layout {c : Char} (hc : isLayout c = true) (hreturn : c ≠ '\r')
    (cs : List Char) : ∃ f, front (c :: cs) = some (f, cs) ∧ (f = .space ∨ f = .lineEnd) := by
  simp only [isLayout, isLineEnd, Bool.or_eq_true, beq_iff_eq, hreturn, or_false] at hc
  rcases hc with ((rfl | rfl) | rfl) | rfl
  · exact ⟨.space, rfl, .inl rfl⟩
  · exact ⟨.space, rfl, .inl rfl⟩
  · exact ⟨.space, rfl, .inl rfl⟩
  · exact ⟨.lineEnd, rfl, .inr rfl⟩

theorem Layout.ending (hb : Layout b) : Template.Ending (b ++ [')']) := by
  refine ⟨?_, List.append_ne_nil_of_right_ne_nil b (List.cons_ne_nil _ _)⟩
  induction b with
  | nil => exact outer_nil.cons rfl
  | cons c b ih =>
      have hc := hb c List.mem_cons_self
      refine (ih hb.of_cons).cons ?_
      simp only [isLayout, isLineEnd, Bool.or_eq_true, beq_iff_eq, hc.2, or_false] at hc
      rcases hc.1 with ((rfl | rfl) | rfl) | rfl <;> rfl

theorem lexed_of_front_space {rest : List Char} (h : front cs = some (.space, rest)) :
    lexed stack cs = lexed stack rest := by
  rw [lexed_eq _ (ne_nil_of_front_eq_some h), h]
  simp [Front.track, Front.tokens]

/-- Inside brackets layout counts for nothing. -/
theorem lexed_layout (hb : Layout b) (hstack : stack ≠ []) (cs : List Char) :
    lexed stack (b ++ cs) = lexed stack cs := by
  induction b with
  | nil => rfl
  | cons c b ih =>
      obtain ⟨hc, hreturn⟩ := hb c List.mem_cons_self
      obtain ⟨f, hfront, hf⟩ := exists_front_layout hc hreturn (b ++ cs)
      have hempty := List.isEmpty_eq_false_iff.mpr hstack
      rw [List.cons_append, lexed_eq _ (List.cons_ne_nil _ _), hfront]
      rcases hf with rfl | rfl <;>
        simp [Front.track, Front.tokens, hempty, ih hb.of_cons]

/-- In front of a closing parenthesis layout counts for nothing anywhere. -/
theorem lexed_layout_close (hb : Layout b) (stack : List String) :
    lexed stack (b ++ [')']) = lexed stack [')'] := by
  cases stack with
  | cons top outer => exact lexed_layout hb (List.cons_ne_nil _ _) _
  | nil =>
      induction b with
      | nil => rfl
      | cons c b ih =>
          obtain ⟨hc, hreturn⟩ := hb c List.mem_cons_self
          obtain ⟨f, hfront, hf⟩ := exists_front_layout hc hreturn (b ++ [')'])
          have hnone : lexed [] (b ++ [')']) = none := ih hb.of_cons
          rw [List.cons_append, lexed_eq _ (List.cons_ne_nil _ _), hfront]
          rcases hf with rfl | rfl <;> simp only [Option.bind_some, Front.track, hnone] <;> rfl

end Layouts

/-! ## The front of a part -/

/-- What stands at the front of a part is the same in front of all outer text, but for a comment
without an end and for a backslash that stands last. -/
theorem front_append_cases {x : List Char} (hx : x ≠ []) :
    (∃ f used y, x = used ++ y ∧ used ≠ [] ∧
      ∀ z, Outer z → z ≠ [] → front (x ++ z) = some (f, y ++ z)) ∨
    (∀ z, Outer z → front (x ++ z) = none) ∨
    (∃ text, x = '#' :: text ∧ '\n' ∉ text) ∨ x = ['\\'] := by
  cases x with
  | nil => exact absurd rfl hx
  | cons c x =>
      by_cases hblank : (c = ' ' || c = '\t' || c = '\x0c') = true
      · refine .inl ⟨.space, [c], x, rfl, List.cons_ne_nil _ _, fun z _ _ => ?_⟩
        rw [List.cons_append, front, if_pos hblank]
      by_cases hcomment : c = '#'
      · subst hcomment
        by_cases hmem : '\n' ∈ x
        · obtain ⟨text, y, rfl, htext⟩ := List.eq_append_cons_of_mem hmem
          refine .inl ⟨.space, '#' :: text, '\n' :: y, rfl, List.cons_ne_nil _ _, fun z _ _ => ?_⟩
          rw [List.cons_append, front, if_neg (by decide), if_pos rfl, List.append_assoc,
            List.cons_append, dropWhile_comment htext]
        · exact .inr (.inr (.inl ⟨x, rfl, hmem⟩))
      by_cases hfeed : c = '\n'
      · subst hfeed
        exact .inl ⟨.lineEnd, ['\n'], x, rfl, List.cons_ne_nil _ _, fun z _ _ => rfl⟩
      by_cases hback : c = '\\'
      · subst hback
        rcases x with _ | ⟨d, y⟩
        · exact .inr (.inr (.inr rfl))
        have hfront : ∀ z, front ('\\' :: d :: y ++ z) =
            if headIs (· == '\n') (d :: y ++ z) && !(y ++ z).isEmpty
            then some (.space, y ++ z) else none := fun _ => rfl
        by_cases hd : d = '\n'
        · subst hd
          refine .inl ⟨.space, ['\\', '\n'], y, rfl, List.cons_ne_nil _ _, fun z _ hz => ?_⟩
          rw [hfront]
          simp [headIs, hz]
        · refine .inr (.inl fun z _ => ?_)
          rw [hfront]
          simp [headIs, hd]
      have hfront : ∀ z, front (c :: x ++ z)
          = (token (c :: x ++ z)).map fun r => (.token r.1, r.2) := fun z => by
        rw [List.cons_append, front, if_neg hblank, if_neg hcomment, if_neg hfeed, if_neg hback]
      by_cases htoken : ∃ z, Outer z ∧ token (c :: x ++ z) ≠ none
      · obtain ⟨z, hz, hsome⟩ := htoken
        obtain ⟨⟨t, rest⟩, ht⟩ := Option.ne_none_iff_exists'.mp hsome
        obtain ⟨used, y, hused, -, hspelled, hother⟩ :=
          cutsAt_token (List.cons_ne_nil c x) _ _ _ hz ht
        refine .inl ⟨.token t, used, y, hused, hspelled.ne_nil, fun z' hz' _ => ?_⟩
        rw [hfront, hother z' hz']
        rfl
      · refine .inr (.inl fun z hz => ?_)
        have hnone : token (c :: x ++ z) = none :=
          Classical.byContradiction fun hsome => htoken ⟨z, hz, hsome⟩
        rw [hfront, hnone]
        rfl

/-! ## Where the lexer comes to -/

/-- Going through a text, the lexer comes to its end `z`. -/
inductive Arrives (z : List Char) : List Char → Prop where
  | here : Arrives z z
  | onward {cs rest : List Char} {f : Front} (hfront : front cs = some (f, rest))
      (others : Arrives z rest) : Arrives z cs

section Arriving

variable {b z cs : List Char}

theorem Arrives.behind (h : Arrives z cs) (hb : Layout b) : Arrives z (b ++ cs) := by
  induction b with
  | nil => exact h
  | cons c b ih =>
      obtain ⟨hc, hreturn⟩ := hb c List.mem_cons_self
      obtain ⟨f, hfront, -⟩ := exists_front_layout hc hreturn (b ++ cs)
      exact .onward hfront (ih hb.of_cons)

theorem Arrives.suffix (h : Arrives z cs) : z <:+ cs := by
  induction h with
  | here => exact List.suffix_rfl
  | onward hfront others ih =>
      obtain ⟨used, rfl, -⟩ := exists_used_of_front hfront
      exact ih.trans (List.suffix_append used _)

/-- No comment begins in a line without the sign of comments. -/
theorem not_arrives_comment {text line : List Char} (hline : '#' ∉ line) (htext : '\n' ∉ text) :
    ¬ Arrives ('#' :: text) (cs ++ '\n' :: line) := by
  intro h
  obtain ⟨a, heq⟩ := h.suffix
  rcases List.append_eq_append_iff.mp heq with ⟨y, -, hy⟩ | ⟨y, -, hy⟩
  · cases y with
    | nil => exact absurd (List.cons.inj hy).1 (by decide)
    | cons c y =>
        rw [(List.cons.inj hy).2] at htext
        simp at htext
  · cases y with
    | nil => exact absurd (List.cons.inj hy).1 (by decide)
    | cons c y =>
        rw [(List.cons.inj hy).2] at hline
        simp at hline

end Arriving

/-! ## Layout in front of the closing parenthesis -/

section NewLines

variable {stack : List String} {b x text : List Char}

/-- A comment goes on to the end of its line. -/
theorem lexed_comment (hb : Layout b) (hfeed : '\n' ∈ b) (htext : '\n' ∉ text)
    (stack : List String) : lexed stack ('#' :: text ++ (b ++ [')'])) = lexed stack [')'] := by
  obtain ⟨blanks, b, rfl, hblanks⟩ := List.eq_append_cons_of_mem hfeed
  have hrest : Layout ('\n' :: b) := fun c hc => hb c (List.mem_append_right _ hc)
  have hline : '\n' ∉ text ++ blanks := by simp [htext, hblanks]
  have hfront : front ('#' :: text ++ (blanks ++ '\n' :: b ++ [')']))
      = some (.space, '\n' :: b ++ [')']) := by
    have htail : text ++ (blanks ++ '\n' :: b ++ [')'])
        = (text ++ blanks) ++ '\n' :: (b ++ [')']) := by simp
    rw [List.cons_append, front, if_neg (by decide), if_pos rfl, htail, dropWhile_comment hline]
    rfl
  rw [lexed_of_front_space hfront, lexed_layout_close hrest]

/-- A backslash joins its line to the next one. -/
theorem lexed_join (hb : Layout b) (hhead : headIs (· == '\n') b = true) (stack : List String) :
    lexed stack ('\\' :: (b ++ [')'])) = lexed stack [')'] := by
  cases b with
  | nil => cases hhead
  | cons c b =>
      have hfront : front ('\\' :: (c :: b ++ [')'])) = some (.space, b ++ [')']) := by
        rw [front, if_neg (by decide), if_neg (by decide), if_neg (by decide), if_pos rfl]
        simp_all [headIs]
      rw [lexed_of_front_space hfront, lexed_layout_close hb.of_cons]

/-- The closing parenthesis may as well stand on a line of its own, if it stands in no comment and
no backslash is joined to it. -/
theorem lexed_append_layout (hb : Layout b)
    (hjoin : Arrives ('\\' :: (b ++ [')'])) (x ++ (b ++ [')'])) → headIs (· == '\n') b = true)
    (hcomment : ∀ text, '\n' ∉ text → ¬ Arrives ('#' :: text) (x ++ (b ++ [')'])))
    (stack : List String) : lexed stack (x ++ (b ++ [')'])) = lexed stack (x ++ ['\n', ')']) := by
  have hline : Layout ['\n'] := by simp [Layout, isLayout, isLineEnd]
  have hending : Template.Ending ['\n', ')'] := @Layout.ending ['\n'] hline
  induction hn : x.length using Nat.strongRecOn generalizing x stack with
  | ind n ih =>
      by_cases hx : x = []
      · subst hx
        exact (lexed_layout_close hb stack).trans (lexed_layout_close hline stack).symm
      have hne : ∀ z, x ++ z ≠ [] := fun z => List.append_ne_nil_of_left_ne_nil hx z
      rcases front_append_cases hx with
        ⟨f, used, y, rfl, hused, hfront⟩ | hnone | ⟨text, rfl, htext⟩ | rfl
      · have hlt : y.length < n := by
          have hpos := List.length_pos_iff.mpr hused
          rw [List.length_append] at hn
          omega
        have hstep := hfront _ hb.ending.1 hb.ending.2
        have hrest := fun stack' => ih y.length hlt (fun h => hjoin (.onward hstep h))
          (fun text htext h => hcomment text htext (.onward hstep h)) stack' rfl
        rw [lexed_eq _ (hne _), lexed_eq _ (hne ['\n', ')']), hstep, hfront _ hending.1 hending.2]
        simp only [Option.bind_some, hrest]
      · rw [lexed_eq _ (hne _), lexed_eq _ (hne ['\n', ')']), hnone _ hb.ending.1,
          hnone _ hending.1]
      · -- the comment would hide the parenthesis if no line end followed it
        have hfeed : '\n' ∈ b := by
          by_contra hfeed
          refine hcomment (text ++ (b ++ [')'])) ?_ .here
          simp [htext, hfeed]
        exact (lexed_comment hb hfeed htext stack).trans
          (lexed_comment hline List.mem_cons_self htext stack).symm
      · exact (lexed_join hb (hjoin .here) stack).trans (lexed_join hline rfl stack).symm

end NewLines

/-! ## Line ends of every kind -/

section Rewritten

variable {cs : List Char} {c : Char}

theorem mem_unixLines (h : c ∈ unixLines cs) : c = '\n' ∨ (c ∈ cs ∧ c ≠ '\r') := by
  fun_induction unixLines cs with
  | case1 => cases h
  | case2 cs ih | case3 cs _ ih =>
      rcases List.mem_cons.mp h with rfl | h
      · exact .inl rfl
      · exact (ih h).imp_right fun hc => ⟨by simp [hc.1], hc.2⟩
  | case4 d cs _ hreturn ih =>
      rcases List.mem_cons.mp h with rfl | h
      · exact .inr ⟨List.mem_cons_self, hreturn⟩
      · exact (ih h).imp_right fun hc => ⟨List.mem_cons_of_mem d hc.1, hc.2⟩

theorem layout_unixLines (h : ∀ d ∈ cs, isLayout d = true) : Layout (unixLines cs) := by
  intro c hc
  rcases mem_unixLines hc with rfl | ⟨hmem, hreturn⟩
  · exact ⟨rfl, by decide⟩
  · exact ⟨h c hmem, hreturn⟩

/-- What begins with a line end begins with a line feed when it is rewritten. -/
theorem headIs_unixLines (h : ∃ d, cs.head? = some d ∧ isLineEnd d = true) :
    headIs (· == '\n') (unixLines cs) = true := by
  obtain ⟨d, hd, hend⟩ := h
  cases cs with
  | nil => cases hd
  | cons c cs =>
      obtain rfl := Option.some.inj hd
      rcases Bool.or_eq_true_iff.mp hend with heq | heq
      · rw [eq_of_beq heq, unixLines_cons (by decide)]
        rfl
      · rw [eq_of_beq heq, unixLines_return]
        split
        next hhead =>
          rw [exists_cons_of_headIs hhead, unixLines_cons (by decide)]
          rfl
        next => rfl

end Rewritten

end BoundSql.Expr

namespace BoundSql.Template

open BoundSql.Expr

/-! ## Contents and what stands around them -/

section Contents

variable {room : Room} {lead c trail inner after : List Char}

theorem isBlank_of_head?_trim {cs : List Char} {d : Char} (h : (Text.trim cs).head? = some d) :
    Text.isBlank d = false := by
  obtain ⟨trail, htrim, -⟩ :=
    Text.exists_append_dropRightWhile Text.isBlank (cs.dropWhile Text.isBlank)
  have hhead : (cs.dropWhile Text.isBlank).head? = some d := by
    rw [htrim, List.head?_append]
    exact Option.or_eq_some_iff.mpr (.inl h)
  have hnot := List.head?_dropWhile_not Text.isBlank cs
  rwa [hhead] at hnot

/-- A source in parentheses of its own. -/
theorem compile_inParentheses_iff {cs : List Char} {t : Tree} :
    compile ('(' :: (cs ++ [')'])) = some t ↔
      '\x00' ∉ cs ∧ compileBehind (unixLines cs ++ [')']) = some t :=
  compile_open_iff (fun _ => rfl) (by simp) (by simp)

/-- A content with the characters that the trimming takes off, laid out so that the language sees
what is compiled for it. -/
structure LaidOut (lead c trail : List Char) : Prop where
  /-- only blanks of the language are taken off -/
  layout : ∀ d ∈ lead ++ trail, isLayout d = true
  /-- a backslash behind the last token of the content stands at the end of its line -/
  joined : Arrives ('\\' :: (unixLines trail ++ [')']))
      (unixLines (lead ++ (c ++ trail)) ++ [')']) →
    ∃ d, trail.head? = some d ∧ isLineEnd d = true
  /-- the closing parenthesis stands in no comment -/
  shown : ∀ text, '\n' ∉ text →
    ¬ Arrives ('#' :: text) (unixLines (lead ++ (c ++ trail)) ++ [')'])
  /-- a content without tokens is empty: it holds no comment and no joined lines -/
  filled : tokens ('(' :: (lead ++ (c ++ trail) ++ [')'])) = some (inParentheses []) → c = []

theorem unixLines_around (hfirst : ∀ d, c.head? = some d → Text.isBlank d = false)
    (hlast : ∀ d, c.getLast? = some d → Text.isBlank d = false) (hne : c ≠ []) :
    unixLines (lead ++ (c ++ trail)) = unixLines lead ++ (unixLines c ++ unixLines trail) := by
  have hhead : headIs (· == '\n') (c ++ trail) = false := by
    obtain ⟨a, c', rfl⟩ := List.exists_cons_of_ne_nil hne
    refine beq_eq_false_iff_ne.mpr ?_
    rintro rfl
    cases hfirst '\n' rfl
  rw [unixLines_append fun _ => hhead, unixLines_append fun hreturn => by cases hlast _ hreturn]

theorem LaidOut.compileBehind_eq (h : LaidOut lead c trail)
    (hfirst : ∀ d, c.head? = some d → Text.isBlank d = false)
    (hlast : ∀ d, c.getLast? = some d → Text.isBlank d = false) (hne : c ≠ []) :
    compileBehind (unixLines (lead ++ (c ++ trail)) ++ [')'])
      = compileBehind (unixLines c ++ ['\n', ')']) := by
  have hlead : Layout (unixLines lead) :=
    layout_unixLines fun d hd => h.layout d (List.mem_append_left _ hd)
  have htrail : Layout (unixLines trail) :=
    layout_unixLines fun d hd => h.layout d (List.mem_append_right _ hd)
  have hjoined := h.joined
  have hshown := h.shown
  rw [unixLines_around hfirst hlast hne, List.append_assoc, List.append_assoc] at hjoined hshown ⊢
  rw [compileBehind, lexed_layout hlead (List.cons_ne_nil _ _), lexed_append_layout htrail
    (fun h => headIs_unixLines (hjoined (h.behind hlead)))
    (fun text htext h => hshown text htext (h.behind hlead)), ← compileBehind]

/-- The text from parenthesis to parenthesis means what is compiled for it. -/
theorem LaidOut.compile_eq (h : LaidOut lead c trail)
    (hfirst : ∀ d, c.head? = some d → Text.isBlank d = false)
    (hlast : ∀ d, c.getLast? = some d → Text.isBlank d = false) (hne : c ≠ []) :
    compile ('(' :: (lead ++ (c ++ trail) ++ [')'])) = compile ('(' :: (c ++ ['\n', ')'])) := by
  have hzero : ∀ d ∈ lead ++ trail, d ≠ '\x00' := by
    rintro d hd rfl
    cases h.layout _ hd
  have hmem : '\x00' ∉ lead ++ (c ++ trail) ↔ '\x00' ∉ c := by
    simp only [List.mem_append, not_or] at hzero ⊢
    exact ⟨fun h => h.2.1, fun h => ⟨fun hl => hzero _ (.inl hl) rfl, h,
      fun ht => hzero _ (.inr ht) rfl⟩⟩
  refine Option.ext fun t => ?_
  rw [compile_inParentheses_iff, compile_open_iff (fun hreturn => by cases hlast _ hreturn)
    (by simp) (by simp), h.compileBehind_eq hfirst hlast hne, hmem]

/-- Layout between two parentheses. -/
theorem LaidOut.tokens_eq (h : LaidOut lead [] trail) :
    tokens ('(' :: (lead ++ ([] ++ trail) ++ [')'])) = some (inParentheses []) := by
  have hzero : ¬ (lead ++ ([] ++ trail)).contains '\x00' = true := by
    intro hmem
    cases h.layout _ (List.contains_iff_mem.mp hmem)
  have hlayout : Layout (unixLines (lead ++ ([] ++ trail))) := layout_unixLines h.layout
  rw [tokens_open (fun _ => rfl) (by simp) (by simp), if_neg hzero, lexed_layout_close hlayout]
  rfl

/-- A site in parentheses that is no splat is accepted if and only if there is room for its source,
there is a token in it and the text from parenthesis to parenthesis is an expression; without a
token it is refused as empty. -/
theorem Site.read_parenthesised_iff
    (hbracket : afterBracket '(' (inner ++ ')' :: after) = .ok after)
    (hcontent : Text.trim inner = c) (hsplat : isSplat c = false)
    (hinner : inner = lead ++ (c ++ trail)) (h : LaidOut lead c trail) :
    (∀ site rest, Site.read room.compile ('(' :: (inner ++ ')' :: after)) = .ok (site, rest) ↔
      room.exhausts ('(' :: (c ++ ['\n', ')'])) = none ∧
        tokens ('(' :: (inner ++ [')'])) ≠ some (inParentheses []) ∧
        ∃ t, compile ('(' :: (inner ++ [')'])) = some t ∧
          site = ⟨String.ofList c, false, t⟩ ∧ rest = after) ∧
    (tokens ('(' :: (inner ++ [')'])) = some (inParentheses []) →
      Site.read room.compile ('(' :: (inner ++ ')' :: after)) = .error (.malformed .empty)) := by
  have hread : Site.read room.compile ('(' :: (inner ++ ')' :: after)) =
      (Site.make room.compile c ('(' :: (c ++ ['\n', ')'])) false).map
        fun site => (site, after) := by
    have hspan : inner ++ ')' :: after = inner ++ [')'] ++ after := by simp
    rw [hspan] at hbracket ⊢
    rw [Site.read_parenthesised hbracket, List.dropLast_concat, Site.ofInner, hcontent, hsplat]
    rfl
  have hfirst : ∀ d, c.head? = some d → Text.isBlank d = false :=
    fun d hd => isBlank_of_head?_trim (hcontent ▸ hd)
  have hlast : ∀ d, c.getLast? = some d → Text.isBlank d = false :=
    fun d hd => isBlank_of_getLast?_trim (hcontent ▸ hd)
  rw [hread, hinner]
  by_cases hne : c = []
  · subst hne
    have hempty : (Site.make room.compile [] ('(' :: ([] ++ ['\n', ')'])) false).map
        (fun site => (site, after)) = .error (.malformed .empty) := rfl
    rw [hempty, h.tokens_eq]
    simp
  · have hfilled := mt h.filled hne
    refine ⟨fun site rest => ?_, fun htokens => absurd htokens hfilled⟩
    rw [map_fst_eq_ok_iff, Site.make_room_eq_ok_iff hne, h.compile_eq hfirst hlast hne]
    constructor
    · rintro ⟨⟨hroom, t, ht, rfl⟩, rfl⟩
      exact ⟨hroom, hfilled, t, ht, rfl, rfl⟩
    · rintro ⟨hroom, -, t, ht, rfl, rfl⟩
      exact ⟨⟨hroom, t, ht, rfl⟩, rfl⟩

/-- A tuple over two lines, with a parenthesis in the comment between them and blanks around it. -/
theorem Site.read_parenthesised_iff_of_tuple :
    Site.read Room.standard.compile ('(' :: (" x, # )\n y ".toList ++ ')' :: " b".toList)) =
        .ok (⟨"x, # )\n y", false, .tuple [.name "x", .name "y"]⟩, " b".toList) ∧
      compile "( x, # )\n y )".toList = some (.tuple [.name "x", .name "y"]) := by
  obtain ⟨hcompile, htokens, hbracket, htrim⟩ :
      compile "( x, # )\n y )".toList = some (.tuple [.name "x", .name "y"]) ∧
      tokens "( x, # )\n y )".toList
        = some (inParentheses [.name "x", .mark ",", .name "y"]) ∧
      afterBracket '(' (" x, # )\n y ".toList ++ ')' :: " b".toList) = .ok " b".toList ∧
      Text.trim " x, # )\n y ".toList = "x, # )\n y".toList := by
    refine ⟨?_, ?_, ?_, ?_⟩ <;> cbv
  have hfilled : tokens "( x, # )\n y )".toList ≠ some (inParentheses []) := by
    rw [htokens]
    simp [inParentheses]
  have hlaid : LaidOut " ".toList "x, # )\n y".toList " ".toList := by
    exact ⟨by simp [isLayout], fun hjoin => absurd hjoin.suffix (by decide),
      fun text htext => @not_arrives_comment " x, # )".toList text " y )".toList (by decide) htext,
      fun hnone => absurd hnone hfilled⟩
  have hiff := @Site.read_parenthesised_iff .standard _ _ _ _ _ hbracket htrim (by decide) rfl hlaid
  have hsite := (hiff.1
    ⟨"x, # )\n y", false, .tuple [.name "x", .name "y"]⟩ " b".toList).mpr
  exact ⟨hsite ⟨by cbv, hfilled, _, hcompile, rfl, rfl⟩, hcompile⟩

/-- Where the conditions do not hold.  Comments alone are read as the empty tuple; a blank that the
language refuses is taken off; a backslash is joined to the line feed that is put behind it; and
where a carriage return ends a comment, the line feed saves a comment that hides the parenthesis. -/
theorem Site.read_parenthesised_unlike_expression :
    (Site.read Room.standard.compile "(# c\n)".toList = .ok (⟨"# c", false, .tuple []⟩, []) ∧
      tokens "(# c\n)".toList = some (inParentheses [])) ∧
    (Site.read Room.standard.compile "(\u00a0x)".toList = .ok (⟨"x", false, .name "x"⟩, []) ∧
      compile "(\u00a0x)".toList = none) ∧
    (Site.read Room.standard.compile "(x \\)".toList = .ok (⟨"x \\", false, .name "x"⟩, []) ∧
      compile "(x \\)".toList = none) ∧
    (∃ t, Site.read Room.standard.compile "(x, # a\r\"\"\"\n\"\"\"# b\"\"\")".toList
        = .ok (⟨"x, # a\r\"\"\"\n\"\"\"# b\"\"\"", false, t⟩, [])) ∧
      compile "(x, # a\r\"\"\"\n\"\"\"# b\"\"\")".toList = none := by
  refine ⟨⟨?_, ?_⟩, ⟨?_, ?_⟩, ⟨?_, ?_⟩,
    ⟨.tuple [.name "x", .const (.str [.char (Char.ofNat 10)])], ?_⟩, ?_⟩ <;> cbv

end Contents

end BoundSql.Template
