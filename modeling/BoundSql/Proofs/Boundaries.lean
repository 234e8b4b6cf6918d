import BoundSql.Proofs.Groups
import BoundSql.Proofs.Splats
set_option autoImplicit false

/-!
# Boundaries of sites

The source of a site in parentheses is closed at its end: the lexer closes the parenthesis that the
source begins with at its last character and not before, so that nothing behind the site becomes a
part of the expression, and nothing of the expression is left behind.  A caller who puts a value
into a text relies on this, since the text behind a site is SQL again.

The end of a site is found by a search for brackets, which knows nothing of tokens, and the source
is then read by a lexer, which knows nothing of the search.  `ClosedAtEnd` says what they should
agree about.  A run of the lexer through a source stays inside its first bracket
(`Run.staysInside`), and the items that the search passes over are such a run, or no source begins
with them (`GroupItems.exists_run`).

The search and the lexer part in one place only.  A carriage return ends a comment of the language,
and the search reads on to the line feed; `UnbrokenComment` names the comments for which this makes
no difference, and what happens at the others is shown on a text of that kind.
-/

namespace BoundSql.Expr

/-! ## Sources that are closed at their end -/

/-- With the brackets `stack` open in front of a text, the lexer comes to its end `z` with one
parenthesis open, and behind everything it takes on the way some bracket is open. -/
inductive StaysInside (z : List Char) : List String → List Char → Prop where
  | arrived : StaysInside z [")"] z
  | onward {stack stack' : List String} {cs rest : List Char} {f : Front}
      (hfront : front cs = some (f, rest)) (htrack : f.track stack = some stack')
      (inside : stack' ≠ []) (others : StaysInside z stack' rest) : StaysInside z stack cs

/-- A source begins with a parenthesis, and its last character closes it. -/
def ClosedAtEnd (source : List Char) : Prop :=
  ∃ cs, unixLines source = '(' :: cs ∧ StaysInside [')'] [")"] cs

/-- There is only one way to go. -/
theorem StaysInside.next {z cs rest : List Char} {stack stack' : List String} {f : Front}
    (h : StaysInside z stack cs) (hne : cs ≠ z) (hfront : front cs = some (f, rest))
    (htrack : f.track stack = some stack') : stack' ≠ [] ∧ StaysInside z stack' rest := by
  cases h with
  | arrived => exact absurd rfl hne
  | onward hfront' htrack' inside others =>
      obtain ⟨rfl, rfl⟩ := Prod.mk.inj (Option.some.inj (hfront.symm.trans hfront'))
      obtain rfl := Option.some.inj (htrack.symm.trans htrack')
      exact ⟨inside, others⟩

section Runs

variable {stack : List String} {x z source : List Char} {ts : List Token}

theorem Run.stack_ne_nil (h : Run stack x ts) : stack ≠ [] := by
  cases h with
  | done => exact List.cons_ne_nil _ _
  | space _ _ hstack _ _ => exact hstack
  | token _ hstack _ _ _ => exact hstack

/-- Along a run some bracket is open. -/
theorem Run.staysInside (h : Run stack x ts) (hz : Outer z) (hne : z ≠ []) :
    StaysInside z stack (x ++ z) := by
  induction h with
  | done => exact .arrived
  | @space stack used y f ts hfront hf hstack hused others ih =>
      have htrack : f.track stack = some stack := by
        rcases hf with rfl | rfl <;> rfl
      rw [List.append_assoc]
      exact .onward (hfront z hz hne) htrack hstack ih
  | token hfront hstack hspelled htrack others ih =>
      rw [List.append_assoc]
      exact .onward (hfront z hz) htrack others.stack_ne_nil ih

/-- A part between parentheses that is a run of tokens makes a source that is closed at its end. -/
theorem Run.closedAtEnd (hsource : unixLines source = '(' :: (x ++ [')'])) (h : Run [")"] x ts) :
    ClosedAtEnd source :=
  ⟨x ++ [')'], hsource, h.staysInside (outer_nil.cons rfl) (List.cons_ne_nil _ _)⟩

/-- The tokens of such a source. -/
theorem Run.tokens_eq (hsource : unixLines source = '(' :: (x ++ [')']))
    (hzero : '\x00' ∉ source) (h : Run [")"] x ts) :
    tokens source = some (inParentheses ts) := by
  have hlexed : lexed [] (unixLines source) = some (inParentheses ts) := by
    rw [hsource, lexed_open, h.lexed_append (outer_nil.cons rfl) (List.cons_ne_nil _ _)]
    rfl
  rw [tokens, if_neg (by simpa using hzero)]
  exact hlexed

end Runs

/-! ## Line ends -/

section Lines

variable {cs ds w : List Char}

theorem unixLines_cons {c : Char} (hc : c ≠ '\r') (cs : List Char) :
    unixLines (c :: cs) = c :: unixLines cs :=
  unixLines.eq_4 c cs (fun _ h => absurd h hc) hc

/-- A carriage return is a line end of its own, or it is a part of the one behind it. -/
theorem unixLines_return (cs : List Char) :
    unixLines ('\r' :: cs) =
      if headIs (· == '\n') cs = true then unixLines cs else '\n' :: unixLines cs := by
  cases cs with
  | nil => rfl
  | cons c cs =>
      by_cases hc : c = '\n'
      · subst hc
        have hhead : headIs (· == '\n') ('\n' :: cs) = true := rfl
        rw [if_pos hhead, unixLines, unixLines_cons (by decide)]
      · have hhead : ¬ headIs (· == '\n') (c :: cs) = true := by simpa [headIs] using hc
        rw [if_neg hhead, unixLines.eq_3 _ fun rest heq => hc (List.cons.inj heq).1]

theorem unixLines_append_of_not_mem (h : '\r' ∉ cs) (ds : List Char) :
    unixLines (cs ++ ds) = cs ++ unixLines ds := by
  have hlast : cs.getLast? ≠ some '\r' := fun hlast => h (List.mem_of_getLast? hlast)
  rw [unixLines_append fun heq => absurd heq hlast, unixLines_of_not_mem h]

theorem unixLines_append_cons {c : Char} (hfeed : c ≠ '\n') (hreturn : c ≠ '\r')
    (cs ds : List Char) : unixLines (cs ++ c :: ds) = unixLines cs ++ c :: unixLines ds := by
  rw [unixLines_append fun _ => by simpa [headIs] using hfeed, unixLines_cons hreturn]

/-- What a text begins with is the same for text without line ends. -/
theorem prefix_unixLines (hw : ∀ c ∈ w, c ≠ '\r' ∧ c ≠ '\n') :
    w <+: unixLines cs ↔ w <+: cs := by
  induction w generalizing cs with
  | nil => simp
  | cons a w ih =>
      obtain ⟨hreturn, hfeed⟩ := hw a List.mem_cons_self
      have ih := fun cs => @ih cs fun c hc => hw c (List.mem_cons_of_mem a hc)
      cases cs with
      | nil => rfl
      | cons c cs =>
          by_cases hc : c = '\r'
          · subst hc
            have hlines : ∃ ds, unixLines ('\r' :: cs) = '\n' :: ds := by
              rw [unixLines_return]
              split
              next hhead =>
                rw [exists_cons_of_headIs hhead, unixLines_cons (by decide)]
                exact ⟨_, rfl⟩
              next => exact ⟨_, rfl⟩
            obtain ⟨ds, hds⟩ := hlines
            rw [hds, List.cons_prefix_cons, List.cons_prefix_cons]
            exact iff_of_false (fun h => hfeed h.1) (fun h => hreturn h.1)
          · rw [unixLines_cons hc, List.cons_prefix_cons, List.cons_prefix_cons, ih]

end Lines

end BoundSql.Expr

namespace BoundSql.Template

open BoundSql.Expr

/-! ## Rows that are cut short -/

section Cuts

variable {Comment : List Char → Prop} {cs x tail front rest : List Char}

theorem exists_eq_append_cons {e : Char} (h : front ++ e :: rest = x ++ tail) (he : e ∉ tail) :
    ∃ y, x = front ++ e :: y ∧ rest = y ++ tail := by
  rcases List.append_eq_append_iff.mp h with ⟨y, rfl, hy⟩ | ⟨y, rfl, rfl⟩
  · cases y with
    | nil =>
        rw [List.nil_append] at hy
        exact absurd (hy ▸ List.mem_cons_self) he
    | cons d y =>
        obtain ⟨rfl, rfl⟩ := List.cons.inj hy
        exact ⟨y, rfl, rfl⟩
  · simp at he

theorem GroupItems.of_cons {c : Char} (hc : isPlain c = true) (h : GroupItems Comment (c :: cs)) :
    GroupItems Comment cs := by
  obtain ⟨hquote, hopen, -, hcomment⟩ := isPlain_iff.mp hc
  generalize hrow : c :: cs = row at h
  cases h with
  | nil => cases hrow
  | group pair _ _ =>
      rw [(List.cons.inj hrow).1, pair] at hopen
      cases hopen
  | @string quote triple _ _ quoted _ _ _ =>
      obtain ⟨more, hmore⟩ := exists_delimiter_eq quote triple
      rw [hmore, List.cons_append] at hrow
      rw [(List.cons.inj hrow).1, quoted] at hquote
      cases hquote
  | comment _ _ => exact absurd (List.cons.inj hrow).1 hcomment
  | char _ others =>
      obtain ⟨-, rfl⟩ := List.cons.inj hrow
      exact others

/-- Plain characters in front of a row can be left out. -/
theorem GroupItems.of_append_left (hfront : Plain front) (h : GroupItems Comment (front ++ cs)) :
    GroupItems Comment cs := by
  induction front with
  | nil => exact h
  | cons c front ih =>
      exact ih (fun d hd => hfront d (List.mem_cons_of_mem c hd))
        (h.of_cons (hfront c List.mem_cons_self))

/-- Without the plain characters at its end a row is one still, or the last comment in it loses
its end. -/
theorem GroupItems.of_append_right (h : GroupItems Comment (x ++ tail)) (htail : Plain tail) :
    GroupItems Comment x ∨ ∃ a text text' rest, x = a ++ '#' :: text ∧ GroupItems Comment a ∧
      tail = text' ++ '\n' :: rest ∧ Comment (text ++ text') := by
  have hplain : ∀ {c}, isPlain c = false → c ∉ tail := by
    intro c hc hmem
    rw [htail c hmem] at hc
    cases hc
  generalize hcs : x ++ tail = cs at h
  induction h generalizing x with
  | nil =>
      obtain ⟨rfl, -⟩ := List.append_eq_nil_iff.mp hcs
      exact .inl .nil
  | @group opener closer inner rest pair inside others ihinside ihothers =>
      rcases x with _ | ⟨o, x⟩
      · exact .inl .nil
      · obtain ⟨rfl, hx⟩ := List.cons.inj hcs
        have hcloser : isPlain closer = false := by
          rcases eq_of_closer?_eq_some pair with ⟨-, rfl⟩ | ⟨-, rfl⟩ | ⟨-, rfl⟩ <;> rfl
        obtain ⟨y, rfl, rfl⟩ := exists_eq_append_cons hx.symm (hplain hcloser)
        rcases ihothers rfl with hy | ⟨a, text, text', rest, rfl, ha, htext⟩
        · exact .inl (.group pair inside hy)
        · exact .inr ⟨_, text, text', rest, by simp, .group pair inside ha, htext⟩
  | @string quote triple body rest quoted opening text others ih =>
      rcases x with _ | ⟨q, x⟩
      · exact .inl .nil
      · have hquote : isPlain quote = false := by
          rcases Bool.or_eq_true_iff.mp quoted with h | h <;> rw [eq_of_beq h] <;> rfl
        -- the last quote of the closing delimiter stands in front of the plain characters
        have hlast : ∃ more, delimiter quote triple = more ++ [quote] := by
          cases triple
          · exact ⟨[], rfl⟩
          · exact ⟨[quote, quote], rfl⟩
        obtain ⟨more, hmore⟩ := hlast
        have hsplit : delimiter quote triple ++ (body ++ more) ++ quote :: rest
            = q :: x ++ tail := by
          rw [hcs, hmore]
          simp
        obtain ⟨y, hy, rfl⟩ := exists_eq_append_cons hsplit (hplain hquote)
        have hspan : q :: x
            = delimiter quote triple ++ (body ++ (delimiter quote triple ++ y)) := by
          rw [hy, hmore]
          simp
        have hhead : y = [] → tail.head? ≠ some quote := by
          rintro - hhead
          exact hplain hquote (List.mem_of_head? hhead)
        rw [opening_append_iff hhead] at opening
        rw [hspan]
        rcases ih rfl with hy | ⟨a, text', text'', rest, rfl, ha, htext⟩
        · exact .inl (.string quoted opening text hy)
        · have hhash : a = [] → ('#' :: text').head? ≠ some quote := by
            rintro - hhead
            rw [← Option.some.inj hhead] at quoted
            cases quoted
          rw [opening_append_iff hhash] at opening
          exact .inr ⟨_, text', text'', rest, by simp, .string quoted opening text ha, htext⟩
  | @comment text rest line others ih =>
      rcases x with _ | ⟨o, x⟩
      · exact .inl .nil
      · obtain ⟨rfl, hx⟩ := List.cons.inj hcs
        rcases List.append_eq_append_iff.mp hx with ⟨text', rfl, rfl⟩ | ⟨y, rfl, hy⟩
        · exact .inr ⟨[], x, text', rest, rfl, .nil, rfl, line⟩
        · cases y with
          | nil =>
              exact .inr ⟨[], text, [], rest, by simp, .nil, hy.symm, by rwa [List.append_nil]⟩
          | cons d y =>
              obtain ⟨rfl, rfl⟩ := List.cons.inj hy
              rcases ih rfl with hy | ⟨a, text', text'', rest, rfl, ha, htext⟩
              · exact .inl (.comment line hy)
              · exact .inr ⟨_, text', text'', rest, by simp, .comment line ha, htext⟩
  | @char c rest plain others ih =>
      rcases x with _ | ⟨o, x⟩
      · exact .inl .nil
      · obtain ⟨rfl, rfl⟩ := List.cons.inj hcs
        rcases ih rfl with hx | ⟨a, text, text', rest, rfl, ha, htext⟩
        · exact .inl (.char plain hx)
        · exact .inr ⟨_, text, text', rest, rfl, .char plain ha, htext⟩

end Cuts

/-! ## Rows with their line ends rewritten -/

section Rewritten

variable {quote : Char} {triple : Bool} {cs body text : List Char}

/-- A carriage return in the text of a comment is a part of the line end behind it. -/
def UnbrokenComment (text : List Char) : Prop := '\n' ∉ text ∧ '\r' ∉ text.dropLast

theorem UnbrokenComment.exists_unixLines_eq (h : UnbrokenComment text) (rest : List Char) :
    ∃ text', CommentText text' ∧
      unixLines (text ++ '\n' :: rest) = text' ++ '\n' :: unixLines rest := by
  obtain ⟨hfeed, hreturn⟩ := h
  rcases List.eq_nil_or_concat text with rfl | ⟨text', c, rfl⟩
  · exact ⟨[], hfeed, unixLines_cons (by decide) rest⟩
  · rw [List.concat_eq_append] at hfeed hreturn ⊢
    rw [List.dropLast_concat] at hreturn
    by_cases hc : c = '\r'
    · subst hc
      refine ⟨text', fun hmem => hfeed (List.mem_append_left _ hmem), ?_⟩
      rw [List.append_assoc, unixLines_append_of_not_mem hreturn]
      rfl
    · have hno : '\r' ∉ text' ++ [c] := by simp [hreturn, Ne.symm hc]
      refine ⟨text' ++ [c], hfeed, ?_⟩
      rw [unixLines_append_of_not_mem hno, unixLines_cons (by decide)]

theorem not_mem_of_isQuote (hquote : isQuote quote = true) : quote ≠ '\r' ∧ quote ≠ '\n' := by
  constructor
  · rintro rfl
    cases hquote
  · rintro rfl
    cases hquote

theorem unixLines_append_delimiter (hquote : isQuote quote = true) (cs rest : List Char) :
    unixLines (cs ++ (delimiter quote triple ++ rest))
      = unixLines cs ++ (delimiter quote triple ++ unixLines rest) := by
  obtain ⟨hreturn, hfeed⟩ := not_mem_of_isQuote hquote
  have hno : '\r' ∉ delimiter quote triple := by
    cases triple <;> simp [delimiter, Ne.symm hreturn]
  have hhead : headIs (· == '\n') (delimiter quote triple ++ rest) = false := by
    cases triple <;> simp [delimiter, headIs, hfeed]
  rw [unixLines_append fun _ => hhead, unixLines_append_of_not_mem hno]

theorem prefix_delimiter_unixLines (hquote : isQuote quote = true) :
    delimiter quote triple <+: unixLines cs ↔ delimiter quote triple <+: cs := by
  refine prefix_unixLines fun c hc => ?_
  obtain rfl : c = quote := by
    cases triple <;> simpa [delimiter] using hc
  exact not_mem_of_isQuote hquote

theorem LiteralText.of_cons {c : Char} (h : LiteralText quote triple (c :: cs)) (hc : c ≠ '\\') :
    LiteralText quote triple cs ∧ (c = '\n' → triple = true) := by
  cases h with
  | escaped => exact absurd rfl hc
  | char _ _ inLine others => exact ⟨others, inLine⟩

/-- Only a carriage return in a literal with single delimiters ends the literal too early. -/
theorem LiteralText.unixLines_or_none (h : LiteralText quote triple body)
    (hquote : isQuote quote = true) :
    LiteralText quote triple (unixLines body) ∨
      triple = false ∧ ∀ rest, skipString quote false (unixLines body ++ rest) = none := by
  have hfeed := (not_mem_of_isQuote hquote).2
  induction h with
  | nil => exact .inl .nil
  | @escaped c cs others ih =>
      by_cases hjoined : c = '\r' ∧ headIs (· == '\n') cs = true
      · obtain ⟨rfl, hhead⟩ := hjoined
        rw [unixLines_cons (by decide), unixLines_return, if_pos hhead]
        rw [exists_cons_of_headIs hhead] at others ih ⊢
        -- a line end behind the backslash and the carriage return: the delimiters are triple
        obtain rfl : triple = true := (others.of_cons (by decide)).2 rfl
        rw [unixLines_cons (by decide)] at ih ⊢
        have hcs := ih.resolve_right fun hright => Bool.noConfusion hright.1
        exact .inl (.escaped (hcs.of_cons (by decide)).1)
      · -- the character that the backslash takes along may be rewritten to another one
        have hlines : ∃ d, unixLines ('\\' :: c :: cs) = '\\' :: d :: unixLines cs := by
          rw [unixLines_cons (by decide)]
          by_cases hc : c = '\r'
          · rw [hc, unixLines_return, if_neg fun hhead => hjoined ⟨hc, hhead⟩]
            exact ⟨_, rfl⟩
          · rw [unixLines_cons hc]
            exact ⟨_, rfl⟩
        obtain ⟨d, hd⟩ := hlines
        rw [hd]
        refine ih.imp (fun hcs => .escaped hcs) (And.imp_right fun hnone rest => ?_)
        rw [List.cons_append, List.cons_append, skipString, if_pos rfl, hnone]
  | @char c cs hback inside inLine others ih =>
      by_cases hc : c = '\r'
      · subst hc
        rw [unixLines_return]
        split
        next => exact ih
        next =>
          cases triple with
          | true =>
              have hcs := ih.resolve_right fun hright => Bool.noConfusion hright.1
              refine .inl (.char (by decide) (fun hpre => ?_) (fun _ => rfl) hcs)
              exact hfeed (List.cons_prefix_cons.mp hpre).1
          | false =>
              refine .inr ⟨rfl, fun rest => ?_⟩
              rw [List.cons_append, skipString_cons (by decide), if_neg fun heq => hfeed heq.1.symm,
                if_pos ⟨rfl, rfl⟩]
      · rw [unixLines_cons hc]
        rcases ih with hcs | ⟨rfl, hnone⟩
        · have hends : unixLines (c :: (cs ++ delimiter quote triple))
              = c :: (unixLines cs ++ delimiter quote triple) := by
            have hlines := @unixLines_append_delimiter quote triple hquote cs []
            rw [show unixLines [] = [] from rfl, List.append_nil] at hlines
            rw [unixLines_cons hc, hlines]
          rw [← prefix_delimiter_unixLines hquote, hends] at inside
          exact .inl (.char hback inside inLine hcs)
        · have hother : c ≠ quote := by
            rintro rfl
            exact inside (List.prefix_append [c] _)
          refine .inr ⟨rfl, fun rest => ?_⟩
          rw [List.cons_append, skipString_cons hback, if_neg fun heq => hother heq.1,
            if_neg fun heq => Bool.noConfusion (inLine heq.1), hnone]

theorem closeBrackets_unterminated {opener : Char} {expected : List Char}
    (hquote : isQuote quote = true) (h : afterString quote cs = none) :
    closeBrackets opener expected (quote :: cs) = .error .unterminatedString := by
  rw [closeBrackets.eq_def]
  dsimp only
  rw [if_pos hquote]
  split
  next => rfl
  next hsome =>
    rw [h] at hsome
    cases hsome

/-- A text that the search refuses for a string literal in it, whatever stands behind. -/
def Unterminated (cs : List Char) : Prop :=
  ∀ opener expected z, expected ≠ [] → (∀ c, z.head? = some c → ¬ isQuote c = true) →
    closeBrackets opener expected (cs ++ z) = .error .unterminatedString

/-- A row of items is one still when its line ends are rewritten, or the search refuses it. -/
theorem GroupItems.unixLines_or_unterminated (h : GroupItems UnbrokenComment cs) :
    GroupItems CommentText (unixLines cs) ∨ Unterminated (unixLines cs) := by
  induction h with
  | nil => exact .inl .nil
  | @group o c inner rest pair inside others ihinside ihothers =>
      have hlines : unixLines (o :: (inner ++ c :: rest))
          = o :: (unixLines inner ++ c :: unixLines rest) := by
        rcases eq_of_closer?_eq_some pair with ⟨rfl, rfl⟩ | ⟨rfl, rfl⟩ | ⟨rfl, rfl⟩ <;>
          rw [unixLines_cons (by decide), unixLines_append_cons (by decide) (by decide)]
      obtain ⟨hquote, hopen, hclose⟩ := closer_facts pair
      have hcloser : ∀ z e, (c :: z).head? = some e → ¬ isQuote e = true := by
        intro z e he
        rwa [← Option.some.inj he]
      have hopener : ∀ opener expected cs, closeBrackets opener expected (o :: cs)
          = closeBrackets opener (c :: expected) cs :=
        fun _ _ _ => closeBrackets_opener (not_isQuote_of_closer? pair) pair
      rw [hlines]
      rcases ihinside with hinner | hinner
      · refine ihothers.imp (fun hrest => .group pair hinner hrest) fun hrest => ?_
        intro opener expected z hne hz
        obtain ⟨e, outer, rfl⟩ := List.exists_cons_of_ne_nil hne
        rw [List.cons_append, List.append_assoc, List.cons_append, hopener,
          hinner.closeBrackets_append (List.cons_ne_nil _ _) (hcloser _),
          closeBrackets_closer hquote hopen hclose]
        exact hrest opener (e :: outer) z hne hz
      · refine .inr fun opener expected z hne hz => ?_
        rw [List.cons_append, List.append_assoc, List.cons_append, hopener]
        exact hinner opener (c :: expected) _ (List.cons_ne_nil _ _) (hcloser _)
  | @string quote triple body rest quoted opening text others ih =>
      have hlines : unixLines (delimiter quote triple ++ (body ++ (delimiter quote triple ++ rest)))
          = delimiter quote triple ++
            (unixLines body ++ (delimiter quote triple ++ unixLines rest)) := by
        have hfront := @unixLines_append_delimiter quote triple quoted []
          (body ++ (delimiter quote triple ++ rest))
        have hbehind := @unixLines_append_delimiter quote triple quoted body rest
        exact hfront.trans (congrArg (delimiter quote triple ++ ·) hbehind)
      have hopening : triple = true ↔ [quote, quote, quote] <+: delimiter quote triple ++
          (unixLines body ++ (delimiter quote triple ++ unixLines rest)) := by
        rw [← hlines]
        exact opening.trans (@prefix_delimiter_unixLines quote true _ quoted).symm
      have hopening' := fun z (hz : ∀ c, z.head? = some c → ¬ isQuote c = true) =>
        hopening.trans (opening_append_iff (z := z) fun _ hhead => hz quote hhead quoted).symm
      rw [hlines]
      rcases text.unixLines_or_none quoted with hbody | ⟨rfl, hnone⟩
      · refine ih.imp (fun hrest => .string quoted hopening hbody hrest) fun hrest => ?_
        intro opener expected z hne hz
        rw [List.append_assoc, List.append_assoc, List.append_assoc,
          closeBrackets_literal quoted hbody (hopening' z hz)]
        exact hrest opener expected z hne hz
      · refine .inr fun opener expected z hne hz => ?_
        have hsingle := mt (hopening' z hz).mpr Bool.false_ne_true
        rw [List.append_assoc, List.append_assoc, List.append_assoc]
        exact closeBrackets_unterminated quoted
          ((afterString_of_single hsingle).trans (hnone _))
  | @comment text rest line others ih =>
      obtain ⟨text', htext', hlines⟩ := line.exists_unixLines_eq rest
      rw [unixLines_cons (by decide), hlines]
      refine ih.imp (fun hrest => .comment htext' hrest) fun hrest => ?_
      intro opener expected z hne hz
      have hafter : afterComment (text' ++ '\n' :: unixLines rest ++ z)
          = some (unixLines rest ++ z) :=
        afterComment_eq_some_iff.mpr ⟨text', by simp, htext'⟩
      rw [List.cons_append, closeBrackets_comment hafter]
      exact hrest opener expected z hne hz
  | @char c rest plain others ih =>
      have hplain : ∀ d, isPlain d = true → Unterminated (unixLines rest) →
          Unterminated (d :: unixLines rest) := by
        intro d hd hrest opener expected z hne hz
        exact (closeBrackets_plain (plain_nil.cons hd) _).trans (hrest opener expected z hne hz)
      by_cases hc : c = '\r'
      · subst hc
        rw [unixLines_return]
        split
        · exact ih
        · exact ih.imp (fun hrest => .char rfl hrest) (hplain _ rfl)
      · rw [unixLines_cons hc]
        exact ih.imp (fun hrest => .char plain hrest) (hplain _ plain)

end Rewritten

/-! ## The search goes where the lexer goes -/

section Fronts

variable {opener : Char} {expected cs rest : List Char} {stack' : List String} {f : Front}

theorem closeBrackets_front_comment (hrest : rest = cs.dropWhile (· != '\n')) :
    rest = [] ∨ closeBrackets opener expected ('#' :: cs) = closeBrackets opener expected rest := by
  subst hrest
  by_cases hmem : '\n' ∈ cs
  · obtain ⟨text, y, rfl, htext⟩ := List.eq_append_cons_of_mem hmem
    have hafter : afterComment (text ++ '\n' :: y) = some y :=
      afterComment_eq_some_iff.mpr ⟨text, rfl, htext⟩
    have hfeed : Plain ['\n'] := plain_nil.cons rfl
    rw [dropWhile_comment htext, closeBrackets_comment hafter]
    exact .inr (closeBrackets_plain hfeed y).symm
  · refine .inl (List.dropWhile_eq_nil_iff.mpr fun c hc => bne_iff_ne.mpr ?_)
    rintro rfl
    exact hmem hc

/-- The search takes the front of a text as the lexer does: it goes on with the same brackets, or it
ends with the last one.  Nothing is left behind a comment without an end. -/
theorem closeBrackets_front (hne : expected ≠ []) (hfront : front cs = some (f, rest))
    (htrack : f.track (closers expected) = some stack') :
    (rest = [] ∧ stack' = closers expected) ∨ closeBrackets opener expected cs = .ok rest ∨
      ∃ expected', expected' ≠ [] ∧ stack' = closers expected' ∧
        closeBrackets opener expected cs = closeBrackets opener expected' rest := by
  rcases exists_of_front hfront with ⟨hspace, hpassed⟩ | ⟨t, rfl, ht⟩
  · have hstack : stack' = closers expected := by
      rcases hspace with rfl | rfl <;> exact (Option.some.inj htrack).symm
    rcases hpassed with ⟨used, hused, -, rfl⟩ | ⟨ds, rfl, hrest⟩
    · exact .inr (.inr ⟨expected, hne, hstack, closeBrackets_plain hused rest⟩)
    · rcases closeBrackets_front_comment hrest with hnil | heq
      · exact .inl ⟨hnil, hstack⟩
      · exact .inr (.inr ⟨expected, hne, hstack, heq⟩)
  · have hspelled : ∀ s, t = .mark s → cs = s.toList ++ rest := by
      rintro s rfl
      have happend : token (cs ++ []) = some (.mark s, rest) := by rwa [List.append_nil]
      obtain ⟨used, y, hused, hrest, hspelled, -⟩ :=
        cutsAt_token (ne_nil_of_front_eq_some hfront) [] _ _ outer_nil happend
      rw [hused, hrest, List.append_nil, hspelled.symbol s rfl]
    exact .inr (closeBrackets_of_trackBrackets ht hspelled htrack hne)

/-- The search finds an end in whatever the lexer reads to its end. -/
theorem exists_of_lexed {ts : List Token} (hne : expected ≠ [])
    (h : lexed (closers expected) cs = some ts) :
    ∃ after, closeBrackets opener expected cs = .ok after := by
  have hnil : ∀ {expected ts}, expected ≠ [] → lexed (closers expected) [] ≠ some ts := by
    rintro expected ts hne h
    obtain ⟨e, outer, rfl⟩ := List.exists_cons_of_ne_nil hne
    cases h
  induction hn : cs.length using Nat.strongRecOn generalizing expected cs ts with
  | ind n ih =>
      by_cases hcs : cs = []
      · subst hcs
        exact absurd h (hnil hne)
      · rw [lexed_eq _ hcs] at h
        obtain ⟨⟨f, rest⟩, hfront, h⟩ := Option.bind_eq_some_iff.mp h
        obtain ⟨stack', htrack, h⟩ := Option.bind_eq_some_iff.mp h
        obtain ⟨us, hus, -⟩ := Option.map_eq_some_iff.mp h
        have hlt := front_length_lt hfront
        rcases @closeBrackets_front opener _ _ _ _ _ hne hfront htrack with
          ⟨rfl, rfl⟩ | hok | ⟨expected', hne', rfl, heq⟩
        · exact absurd hus (hnil hne)
        · exact ⟨rest, hok⟩
        · rw [heq]
          exact ih rest.length (by omega) hne' hus rfl

end Fronts

/-! ## Rows in a source -/

section Sources

variable {x tail w : List Char} {ts : List Token}

theorem closeBrackets_plain_close (hw : Plain w) :
    closeBrackets '(' [')'] (w ++ [')']) = .ok [] :=
  (closeBrackets_plain hw [')']).trans (closeBrackets_last (by decide) rfl rfl)

/-- Where the last comment of a row loses its end, no line end is left in it. -/
theorem not_mem_of_unbrokenComment {text text' rest : List Char}
    (h : UnbrokenComment (text ++ text'))
    (hreturn : text.getLast? = some '\r' → headIs (· == '\n') (text' ++ '\n' :: rest) = false) :
    '\n' ∉ text ∧ '\r' ∉ text := by
  refine ⟨fun hmem => h.1 (List.mem_append_left _ hmem), fun hmem => ?_⟩
  by_cases htext' : text' = []
  · subst htext'
    obtain ⟨t, c, rfl⟩ := (List.eq_nil_or_concat text).resolve_left (List.ne_nil_of_mem hmem)
    have hdrop := h.2
    rw [List.concat_eq_append, List.append_nil, List.dropLast_concat] at hdrop
    rw [List.concat_eq_append] at hmem hreturn
    obtain rfl : '\r' = c := by simpa [hdrop] using hmem
    cases hreturn (List.getLast?_concat ..)
  · exact h.2 (by rw [List.dropLast_append_of_ne_nil htext']; exact List.mem_append_left _ hmem)

/-- A row of items, without the plain characters at its end and with others in their place: if the
lexer reads it to the parenthesis behind it, so does the search. -/
theorem GroupItems.closed_of_lexed (hrow : GroupItems UnbrokenComment (x ++ tail))
    (htail : Plain tail) (hreturn : x.getLast? = some '\r' → headIs (· == '\n') tail = false)
    (hw : Plain w) (h : lexed [")"] (unixLines x ++ (w ++ [')'])) = some ts) :
    closeBrackets '(' [')'] (unixLines x ++ (w ++ [')'])) = .ok [] := by
  have hne : [')'] ≠ [] := List.cons_ne_nil _ _
  obtain ⟨after, hafter⟩ := @exists_of_lexed '(' [')'] _ _ hne h
  have hquote : ∀ c, (w ++ [')']).head? = some c → ¬ isQuote c = true := by
    intro c hc
    cases w with
    | nil =>
        rw [← Option.some.inj hc]
        decide
    | cons d w =>
        rw [← Option.some.inj hc, (isPlain_iff.mp (hw d List.mem_cons_self)).1]
        decide
  rcases hrow.of_append_right htail with hx | ⟨a, text, text', rest, rfl, ha, rfl, htext⟩
  · rcases hx.unixLines_or_unterminated with hx | hx
    · rw [hx.closeBrackets_append hne hquote, closeBrackets_plain_close hw]
    · rw [hx '(' [')'] _ hne hquote] at hafter
      cases hafter
  · -- the comment at the end goes on to a line feed, and there is one among the characters `w`
    have hlast : text.getLast? = some '\r' →
        headIs (· == '\n') (text' ++ '\n' :: rest) = false := fun hlast => hreturn <| by
      rw [getLast?_append_right a (List.cons_ne_nil _ _)]
      exact getLast?_cons_of_getLast?_eq_some hlast
    obtain ⟨hfeed, hreturn⟩ := not_mem_of_unbrokenComment htext hlast
    have hhash : ∀ z c, ('#' :: z : List Char).head? = some c → ¬ isQuote c = true := by
      intro z c hc
      rw [← Option.some.inj hc]
      decide
    rw [unixLines_append_cons (by decide) (by decide), unixLines_of_not_mem hreturn,
      List.append_assoc, List.cons_append] at hafter ⊢
    rcases ha.unixLines_or_unterminated with ha | ha
    · rw [ha.closeBrackets_append hne (hhash _)] at hafter ⊢
      obtain ⟨y, hy, -⟩ := exists_of_closeBrackets_comment hafter
      have hmem : '\n' ∈ w := by
        refine Classical.byContradiction fun hno => ?_
        rw [afterComment_eq_none (by simp [hfeed, hno])] at hy
        cases hy
      obtain ⟨v, y, rfl, hv⟩ := List.eq_append_cons_of_mem hmem
      have hrest : afterComment (text ++ (v ++ '\n' :: y ++ [')'])) = some (y ++ [')']) :=
        afterComment_eq_some_iff.mpr ⟨text ++ v, by simp, by simp [CommentText, hfeed, hv]⟩
      rw [closeBrackets_comment hrest]
      exact closeBrackets_plain_close fun c hc => hw c (by simp [hc])
    · rw [ha '(' [')'] _ hne (hhash _)] at hafter
      cases hafter

/-- Then there is a run of tokens up to that parenthesis. -/
theorem GroupItems.exists_run (hrow : GroupItems UnbrokenComment (x ++ tail))
    (htail : Plain tail) (hreturn : x.getLast? = some '\r' → headIs (· == '\n') tail = false)
    (hw : Plain w) (h : lexed [")"] (unixLines x ++ (w ++ [')'])) = some ts) :
    ∃ us, Run [")"] (unixLines x ++ w) us := by
  have hbehind : Behind (· = [')']) := by
    rintro z rfl
    exact ⟨outer_nil.cons rfl, List.cons_ne_nil _ _⟩
  have hclosed := hrow.closed_of_lexed htail hreturn hw h
  rw [← List.append_assoc] at h hclosed
  have hsearched : Searched (· = [')']) [')'] [')'] (unixLines x ++ w) := by
    refine ⟨List.cons_ne_nil _ _, hclosed, ?_⟩
    rintro - z rfl
    rfl
  refine (hsearched.settled hbehind closes_close _ (Nat.le_refl _)).resolve_right fun hrefused => ?_
  cases h.symm.trans (hrefused [')'] rfl)

end Sources

/-! ## Sites -/

section Sites

variable {room : Room} {inner after : List Char} {site : Site Tree}

/-- The source that is compiled for the text between the parentheses of a site. -/
def sourceBetween (inner : List Char) : List Char :=
  if isSplat (Text.trim inner) then
    '(' :: (Text.dropRightWhile (· == ',') (Text.trim inner) ++ [',', ')'])
  else '(' :: (Text.trim inner ++ ['\n', ')'])

theorem Site.ofInner_eq_make {Code : Type} (compile : List Char → Verdict Code)
    (inner : List Char) :
    Site.ofInner compile inner =
      Site.make compile (Text.trim inner) (sourceBetween inner) (isSplat (Text.trim inner)) := by
  rw [Site.ofInner, sourceBetween]
  split
  next h => rw [h]
  next h => rw [eq_false_of_ne_true h]

/-- Only blanks are taken off a text. -/
theorem exists_append_trim_append (cs : List Char) :
    ∃ lead trail, cs = lead ++ (Text.trim cs ++ trail) ∧
      (∀ c ∈ lead, Text.isBlank c = true) ∧ ∀ c ∈ trail, Text.isBlank c = true := by
  obtain ⟨trail, htrim, htrail⟩ :=
    Text.exists_append_dropRightWhile Text.isBlank (cs.dropWhile Text.isBlank)
  refine ⟨cs.takeWhile Text.isBlank, trail, ?_, ?_, htrail⟩
  · rw [Text.trim, ← htrim, List.takeWhile_append_dropWhile]
  · exact fun c hc => List.all_eq_true.mp List.all_takeWhile c hc

/-- What the source of a site leaves out of the text between the parentheses, and what it has in its
place, is plain. -/
theorem exists_sourceBetween_eq (inner : List Char) :
    ∃ lead x tail w, inner = lead ++ (x ++ tail) ∧
      sourceBetween inner = '(' :: (x ++ (w ++ [')'])) ∧
      Plain lead ∧ Plain tail ∧ Plain w ∧
      (x.getLast? = some '\r' →
        headIs (· == '\n') tail = false ∧ headIs (· == '\n') (w ++ [')']) = false) ∧
      '\r' ∉ w ++ [')'] ∧ '\x00' ∉ w ++ [')'] := by
  obtain ⟨lead, trail, hinner, hlead, htrail⟩ := exists_append_trim_append inner
  have hplain : ∀ {cs}, (∀ c ∈ cs, Text.isBlank c = true) → Plain cs :=
    fun h c hc => isPlain_of_isBlank (h c hc)
  have hlast : (Text.trim inner).getLast? ≠ some '\r' := by
    intro hlast
    cases isBlank_of_getLast?_trim hlast
  rw [sourceBetween]
  split
  · obtain ⟨commas, hcommas, hcomma⟩ :=
      Text.exists_append_dropRightWhile (· == ',') (Text.trim inner)
    have hplainCommas : Plain commas := fun c hc => by rw [eq_of_beq (hcomma c hc)]; rfl
    refine ⟨lead, _, commas ++ trail, [','], ?_, rfl, hplain hlead, hplainCommas.append
      (hplain htrail), plain_nil.cons rfl, fun hreturn => ⟨?_, rfl⟩, by simp, by simp⟩
    · rw [← List.append_assoc (Text.dropRightWhile _ _), ← hcommas]
      exact hinner
    · -- without a comma the content itself would end with a carriage return
      cases commas with
      | nil =>
          rw [List.append_nil] at hcommas
          exact absurd (hcommas ▸ hreturn) hlast
      | cons c commas => rw [eq_of_beq (hcomma c List.mem_cons_self)]; rfl
  · exact ⟨lead, _, trail, ['\n'], hinner, rfl, hplain hlead, hplain htrail, plain_nil.cons rfl,
      fun hreturn => absurd hreturn hlast, by simp, by simp⟩

/-- A site in parentheses is read from a source that is closed at its end, if no comment in it holds
a carriage return: its tokens are those of one pair of parentheses with the content between them. -/
theorem Site.read_closed_at_end
    (hread : Site.read room.compile ('(' :: (inner ++ ')' :: after)) = .ok (site, after))
    (hcomments : GroupItems UnbrokenComment inner) :
    compile (sourceBetween inner) = some site.code ∧ ClosedAtEnd (sourceBetween inner) ∧
      ∃ ts, tokens (sourceBetween inner) = some (inParentheses ts) ∧
        Enclosed (inParentheses ts) := by
  have hbracket : afterBracket '(' (inner ++ [')'] ++ after) = .ok after :=
    (afterBracket_eq_ok_iff rfl).mpr ⟨inner, hcomments.imp fun _ h => h.1, by simp⟩
  have hspan : inner ++ ')' :: after = inner ++ [')'] ++ after := by simp
  rw [hspan, Site.read_parenthesised hbracket, map_fst_eq_ok_iff, List.dropLast_concat,
    Site.ofInner_eq_make] at hread
  have hcode : compile (sourceBetween inner) = some site.code := by
    have hmake := hread.1
    rw [Site.make] at hmake
    split at hmake
    · cases hmake
    · split at hmake
      next code hcode =>
        rw [(Room.compile_eq_code_iff.mp hcode).2, ← Except.ok.inj hmake]
      next => cases hmake
      next => cases hmake
  obtain ⟨lead, x, tail, w, hinner, hsource, hlead, htail, hw, hreturn, hno, hzero⟩ :=
    exists_sourceBetween_eq inner
  obtain ⟨us, hus, -⟩ := Option.bind_eq_some_iff.mp hcode
  have htokens := tokens_open (c := x) (fun hlast => (hreturn hlast).2) hno hzero
  rw [← hsource, hus] at htokens
  split at htokens
  · cases htokens
  next hx =>
    obtain ⟨ts, hts, -⟩ := Option.map_eq_some_iff.mp htokens.symm
    rw [hinner] at hcomments
    obtain ⟨ts, hrun⟩ := (hcomments.of_append_left hlead).exists_run htail
      (fun hlast => (hreturn hlast).1) hw hts
    have hlines : unixLines (sourceBetween inner) = '(' :: (unixLines x ++ w ++ [')']) := by
      rw [hsource, unixLines_cons (by decide), unixLines_append fun hlast => (hreturn hlast).2,
        unixLines_of_not_mem hno, List.append_assoc]
    have hmem : '\x00' ∉ sourceBetween inner := by
      rw [hsource]
      simp_all
    exact ⟨hcode, hrun.closedAtEnd hlines, ts, hrun.tokens_eq hlines hmem, hrun.enclosed⟩

/-- A comment with a parenthesis in it, in front of a line end of two characters. -/
theorem Site.read_closed_at_end_of_comment :
    (Site.read Room.standard.compile ('(' :: ("x, # )\r\n y".toList ++ ')' :: " b".toList)) =
        .ok (⟨"x, # )\r\n y", false, .tuple [.name "x", .name "y"]⟩, " b".toList) ∧
      GroupItems UnbrokenComment "x, # )\r\n y".toList) ∧
    ClosedAtEnd (sourceBetween "x, # )\r\n y".toList) := by
  have hread : Site.read Room.standard.compile
      ('(' :: ("x, # )\r\n y".toList ++ ')' :: " b".toList)) =
      .ok (⟨"x, # )\r\n y", false, .tuple [.name "x", .name "y"]⟩, " b".toList) := by cbv
  have hinner : "x, # )\r\n y".toList
      = 'x' :: ',' :: ' ' :: '#' :: (" )\r".toList ++ ['\n', ' ', 'y']) := by decide
  have hline : UnbrokenComment " )\r".toList := ⟨by decide, by decide⟩
  have hcomments : GroupItems UnbrokenComment "x, # )\r\n y".toList := by
    rw [hinner]
    exact .char rfl (.char rfl (.char rfl (.comment hline (.char rfl (.char rfl .nil)))))
  exact ⟨⟨hread, hcomments⟩, (Site.read_closed_at_end hread hcomments).2.1⟩

/-- A carriage return in a comment of the content: the lexer closes the parenthesis right behind
it, and the site goes on to the next one. -/
theorem Site.read_not_closed_at_end :
    Site.read Room.standard.compile "(x # a\r) + (y\n) b".toList =
        .ok (⟨"x # a\r) + (y", false, .binary .add (.name "x") (.name "y")⟩, " b".toList) ∧
      sourceBetween "x # a\r) + (y\n".toList = "(x # a\r) + (y\n)".toList ∧
      ¬ ClosedAtEnd "(x # a\r) + (y\n)".toList := by
  refine ⟨by cbv, by cbv, ?_⟩
  rintro ⟨cs, hcs, hinside⟩
  obtain rfl : "x # a\n) + (y\n)".toList = cs := List.cons.inj hcs |>.2
  have hname : front "x # a\n) + (y\n)".toList
      = some (.token (.name "x"), " # a\n) + (y\n)".toList) := by cbv
  have hblank : front " # a\n) + (y\n)".toList = some (.space, "# a\n) + (y\n)".toList) := rfl
  have hcomment : front "# a\n) + (y\n)".toList = some (.space, "\n) + (y\n)".toList) := rfl
  have hfeed : front "\n) + (y\n)".toList = some (.lineEnd, ") + (y\n)".toList) := rfl
  have hclose : front ") + (y\n)".toList = some (.token (.mark ")"), " + (y\n)".toList) := rfl
  obtain ⟨-, hinside⟩ := hinside.next (by decide) hname rfl
  obtain ⟨-, hinside⟩ := hinside.next (by decide) hblank rfl
  obtain ⟨-, hinside⟩ := hinside.next (by decide) hcomment rfl
  obtain ⟨-, hinside⟩ := hinside.next (by decide) hfeed rfl
  exact (hinside.next (by decide) hclose rfl).1 rfl

end Sites

end BoundSql.Template
