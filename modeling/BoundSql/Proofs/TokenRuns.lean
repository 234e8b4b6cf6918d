import BoundSql.Proofs.Commas
import BoundSql.Proofs.Lexemes
import BoundSql.Text.Blank
set_option autoImplicit false

/-!
# Sources inside brackets

How a part of a source is cut into tokens while brackets are open, whatever closes them behind it.
A `Run` goes through the part front by front, and it determines the tokens in front of all outer
text (`Run.lexed_append`).  The brackets in it never close more than they should (`Run.nesting`,
`Run.enclosed`), and its last token ends where the part ends (`Run.last`).

The lexer counts its steps down from the length of the source, which is enough to get through
(`tokensWith_eq_lexed`).  Here it is taken without that bound, as the function `lexed` of a stack of
open brackets and a text, with one equation for each kind of front (`lexed_eq`).

Not every part of a source is a run.  A part may end inside of a comment or of a text literal that
its source closes later, or no source at all may begin with it; `Settled` says of a part that it is
a run, or that no source begins with it that goes on with a text of a given kind.  Where the lexer
fails it has cut off some tokens before that, and these are the same ones (`tokensAhead_of_tokens`).
-/

namespace BoundSql.Expr

/-! ## The front of a text -/

theorem exists_cons_of_headIs {c : Char} {cs : List Char} (h : headIs (· == c) cs = true) :
    cs = c :: cs.tail := by
  cases cs with
  | nil => cases h
  | cons d cs => rw [eq_of_beq h, List.tail_cons]

theorem dropWhile_comment {text : List Char} (h : '\n' ∉ text) (cs : List Char) :
    (text ++ '\n' :: cs).dropWhile (· != '\n') = '\n' :: cs := by
  have hpos : ∀ c ∈ text, (c != '\n') = true := by
    intro c hc
    refine bne_iff_ne.mpr ?_
    rintro rfl
    exact h hc
  rw [List.dropWhile_append_of_pos hpos]
  rfl

theorem exists_used_of_token {cs rest : List Char} {t : Token} (h : token cs = some (t, rest)) :
    ∃ used, cs = used ++ rest ∧ used ≠ [] := by
  cases cs with
  | nil => cases h
  | cons c cs =>
      have happend : token (c :: cs ++ []) = some (t, rest) := by rwa [List.append_nil]
      obtain ⟨used, y, hused, hrest, hspelled, -⟩ :=
        cutsAt_token (List.cons_ne_nil c cs) _ _ _ outer_nil happend
      exact ⟨used, by rw [hused, hrest, List.append_nil], hspelled.ne_nil⟩

/-- What the lexer takes from a text is plain, a comment or a token. -/
theorem exists_of_front {cs rest : List Char} {f : Front} (h : front cs = some (f, rest)) :
    ((f = .space ∨ f = .lineEnd) ∧ ((∃ used, Plain used ∧ used ≠ [] ∧ cs = used ++ rest) ∨
      ∃ ds, cs = '#' :: ds ∧ rest = ds.dropWhile (· != '\n'))) ∨
    ∃ t, f = .token t ∧ token cs = some (t, rest) := by
  cases cs with
  | nil => cases h
  | cons c cs =>
      have hsingle : isPlain c = true → Plain [c] := plain_nil.cons
      rw [front] at h
      split at h
      next hblank =>
        obtain ⟨rfl, rfl⟩ := Prod.mk.inj (Option.some.inj h)
        have hplain : isPlain c = true := by
          simp only [Bool.or_eq_true, decide_eq_true_eq] at hblank
          rcases hblank with (rfl | rfl) | rfl <;> rfl
        exact .inl ⟨.inl rfl, .inl ⟨[c], hsingle hplain, List.cons_ne_nil _ _, rfl⟩⟩
      split at h
      next hcomment =>
        obtain ⟨rfl, rfl⟩ := Prod.mk.inj (Option.some.inj h)
        exact .inl ⟨.inl rfl, .inr ⟨cs, by rw [hcomment], rfl⟩⟩
      split at h
      next hfeed =>
        obtain ⟨rfl, rfl⟩ := Prod.mk.inj (Option.some.inj h)
        subst hfeed
        exact .inl ⟨.inr rfl, .inl ⟨['\n'], hsingle rfl, List.cons_ne_nil _ _, rfl⟩⟩
      split at h
      next hback =>
        split at h
        next hjoin =>
          obtain ⟨rfl, rfl⟩ := Prod.mk.inj (Option.some.inj h)
          have hhead := exists_cons_of_headIs (Bool.and_eq_true_iff.mp hjoin).1
          subst hback
          refine .inl ⟨.inl rfl, .inl ⟨['\\', '\n'], (plain_nil.cons rfl).cons rfl,
            List.cons_ne_nil _ _, ?_⟩⟩
          exact congrArg ('\\' :: ·) hhead
        next => cases h
      next =>
        obtain ⟨⟨t, rest'⟩, ht, heq⟩ := Option.map_eq_some_iff.mp h
        obtain ⟨rfl, rfl⟩ := Prod.mk.inj heq
        exact .inr ⟨t, rfl, ht⟩

/-- What the lexer leaves stands at the end of the text, behind what it takes. -/
theorem exists_used_of_front {cs rest : List Char} {f : Front} (h : front cs = some (f, rest)) :
    ∃ used, cs = used ++ rest ∧ used ≠ [] := by
  rcases exists_of_front h with ⟨-, ⟨used, -, hne, hcs⟩ | ⟨ds, rfl, rfl⟩⟩ | ⟨t, -, ht⟩
  · exact ⟨used, hcs, hne⟩
  · refine ⟨'#' :: ds.takeWhile (· != '\n'), ?_, List.cons_ne_nil _ _⟩
    rw [List.cons_append, List.takeWhile_append_dropWhile]
  · exact exists_used_of_token ht

theorem front_length_lt {cs rest : List Char} {f : Front} (h : front cs = some (f, rest)) :
    rest.length < cs.length := by
  obtain ⟨used, rfl, hne⟩ := exists_used_of_front h
  have hpos := List.length_pos_iff.mpr hne
  rw [List.length_append]
  omega

/-! ## Lexing without a bound -/

/-- The tokens of a text inside open brackets. -/
def lexed (stack : List String) (cs : List Char) : Option (List Token) :=
  tokensWith (cs.length + 1) stack [] cs

theorem tokensWith_nil (n : Nat) (stack : List String) (done : List Token) :
    tokensWith (n + 1) stack done [] = if stack.isEmpty then some done.reverse else none := rfl

theorem tokensWith_succ (n : Nat) (stack : List String) (done : List Token) {cs : List Char}
    (hne : cs ≠ []) :
    tokensWith (n + 1) stack done cs = (front cs).bind fun r =>
      (r.1.track stack).bind fun stack' => tokensWith n stack' (r.1.tokens stack ++ done) r.2 := by
  rw [tokensWith, if_neg (by simpa using hne)]
  rfl

theorem Front.reverse_tokens (f : Front) (stack : List String) :
    (f.tokens stack).reverse = f.tokens stack := by
  cases f with
  | space => rfl
  | lineEnd => cases stack <;> rfl
  | token t => rfl

/-- The tokens that are done stay in front. -/
theorem tokensWith_done (n : Nat) (stack : List String) (done : List Token) (cs : List Char) :
    tokensWith n stack done cs = (tokensWith n stack [] cs).map (done.reverse ++ ·) := by
  induction n generalizing stack done cs with
  | zero => rfl
  | succ n ih =>
      by_cases hne : cs = []
      · subst hne
        cases stack <;> simp [tokensWith_nil]
      · rw [tokensWith_succ n stack done hne, tokensWith_succ n stack [] hne]
        cases front cs with
        | none => rfl
        | some r =>
            simp only [Option.bind_some]
            cases r.1.track stack with
            | none => rfl
            | some stack' =>
                simp only [Option.bind_some, List.append_nil]
                rw [ih stack' (r.1.tokens stack ++ done), ih stack' (r.1.tokens stack),
                  Option.map_map, List.reverse_append]
                congr 1
                funext ts
                simp

/-- As many steps as there are characters are never too few. -/
theorem tokensWith_succ_eq {n : Nat} {cs : List Char} (hn : cs.length < n) (stack : List String)
    (done : List Token) : tokensWith (n + 1) stack done cs = tokensWith n stack done cs := by
  induction n generalizing stack done cs with
  | zero => omega
  | succ n ih =>
      by_cases hne : cs = []
      · subst hne
        rfl
      · rw [tokensWith_succ (n + 1) stack done hne, tokensWith_succ n stack done hne]
        cases h : front cs with
        | none => rfl
        | some r =>
            simp only [Option.bind_some]
            have hlt := front_length_lt (h : front cs = some (r.1, r.2))
            cases r.1.track stack with
            | none => rfl
            | some stack' => exact ih (by omega) stack' _

theorem tokensWith_eq_lexed {n : Nat} {cs : List Char} (hn : cs.length < n) (stack : List String) :
    tokensWith n stack [] cs = lexed stack cs := by
  induction n with
  | zero => omega
  | succ n ih =>
      by_cases hlt : cs.length < n
      · rw [tokensWith_succ_eq hlt, ih hlt]
      · rw [lexed, show n = cs.length by omega]

/-- Lexing goes on behind the front of a text. -/
theorem lexed_eq (stack : List String) {cs : List Char} (hne : cs ≠ []) :
    lexed stack cs = (front cs).bind fun r => (r.1.track stack).bind fun stack' =>
      (lexed stack' r.2).map (r.1.tokens stack ++ ·) := by
  rw [lexed, tokensWith_succ _ stack [] hne]
  cases h : front cs with
  | none => rfl
  | some r =>
      simp only [Option.bind_some]
      have hlt := front_length_lt (h : front cs = some (r.1, r.2))
      cases r.1.track stack with
      | none => rfl
      | some stack' =>
          simp only [Option.bind_some]
          rw [tokensWith_done, tokensWith_eq_lexed hlt, List.append_nil, Front.reverse_tokens]

/-! ## The tokens ahead of a failure -/

theorem tokensInFront_of_tokensWith {n : Nat} {stack : List String} {done ts : List Token}
    {cs : List Char} (h : tokensWith n stack done cs = some ts) :
    ts = done.reverse ++ tokensInFront n stack cs := by
  induction n generalizing stack done cs with
  | zero => contradiction
  | succ n ih =>
      by_cases hne : cs = []
      · subst hne
        rw [tokensWith_nil] at h
        obtain ⟨-, h⟩ := Option.ite_none_right_eq_some.mp h
        rw [← Option.some.inj h, tokensInFront, front, List.append_nil]
      · rw [tokensWith_succ n stack done hne] at h
        obtain ⟨r, hfront, h⟩ := Option.bind_eq_some_iff.mp h
        obtain ⟨stack', htrack, h⟩ := Option.bind_eq_some_iff.mp h
        rw [ih h, tokensInFront, hfront]
        simp only [htrack]
        rw [List.reverse_append, Front.reverse_tokens, List.append_assoc]

/-- Where nothing is refused, all tokens stand ahead. -/
theorem tokensAhead_of_tokens {source : List Char} {ts : List Token}
    (h : tokens source = some ts) : tokensAhead source = ts := by
  rw [tokens] at h
  obtain ⟨hzero, h⟩ := Option.ite_none_left_eq_some.mp h
  rw [tokensAhead, if_neg hzero]
  exact (tokensInFront_of_tokensWith h).symm

/-! ## Runs -/

/-- How a part of a source is cut into tokens inside open brackets, in front of all outer text.
At its end only the outermost bracket is open. -/
inductive Run : List String → List Char → List Token → Prop where
  | done : Run [")"] [] []
  | space {stack : List String} {used y : List Char} {f : Front} {ts : List Token}
      (hfront : ∀ z, Outer z → z ≠ [] → front (used ++ (y ++ z)) = some (f, y ++ z))
      (hf : f = .space ∨ f = .lineEnd) (hstack : stack ≠ [])
      (hused : y = [] → ∃ c, used.getLast? = some c ∧ Text.isBlank c = true)
      (others : Run stack y ts) : Run stack (used ++ y) ts
  | token {stack stack' : List String} {used y : List Char} {t : Token} {ts : List Token}
      (hfront : ∀ z, Outer z → front (used ++ (y ++ z)) = some (.token t, y ++ z))
      (hstack : stack ≠ []) (hspelled : SpelledAs t used)
      (htrack : trackBrackets stack t = some stack') (others : Run stack' y ts) :
      Run stack (used ++ y) (t :: ts)

theorem ne_nil_of_front_eq_some {cs : List Char} {r : Front × List Char}
    (h : front cs = some r) : cs ≠ [] := by
  rintro rfl
  cases h

section Runs

variable {stack : List String} {x : List Char} {ts : List Token}

/-- The tokens of a run stand in front of those of the outer text. -/
theorem Run.lexed_append (h : Run stack x ts) {z : List Char} (hz : Outer z) (hne : z ≠ []) :
    lexed stack (x ++ z) = (lexed [")"] z).map (ts ++ ·) := by
  induction h with
  | done => simp
  | space hfront hf hstack hused others ih =>
      have hfront := hfront z hz hne
      rw [List.append_assoc, lexed_eq _ (ne_nil_of_front_eq_some hfront), hfront]
      have hempty := List.isEmpty_eq_false_iff.mpr hstack
      rcases hf with rfl | rfl <;>
        simp [Front.track, Front.tokens, hempty, ih]
  | token hfront hstack hspelled htrack others ih =>
      have hfront := hfront z hz
      rw [List.append_assoc, lexed_eq _ (ne_nil_of_front_eq_some hfront), hfront]
      simp only [Option.bind_some, Front.track, htrack, Front.tokens, ih, Option.map_map]
      rfl

/-- The number of open brackets behind a token. -/
theorem length_of_trackBrackets {stack stack' : List String} {t : Token}
    (h : trackBrackets stack t = some stack') :
    (stack'.length : Int) = stack.length + t.opens := by
  cases t with
  | mark s =>
      simp only [trackBrackets, Bool.or_eq_true, decide_eq_true_eq] at h
      split at h
      next hopen =>
        have hopens : (Token.mark s).opens = 1 := by simp [Token.opens, ← or_assoc, hopen]
        split at h
        · cases h
        · obtain rfl := Option.some.inj h
          rw [hopens]
          rfl
      next hopen =>
        split at h
        next hclose =>
          have hopens : (Token.mark s).opens = -1 := by
            simp only [Token.opens, ← or_assoc, hopen, hclose, if_false, if_true]
          split at h
          next t outer =>
            split at h
            · obtain rfl := Option.some.inj h
              rw [hopens, List.length_cons]
              omega
            · cases h
          next => cases h
        next hclose =>
          have hopens : (Token.mark s).opens = 0 := by
            simp only [Token.opens, ← or_assoc, hopen, hclose, if_false]
          obtain rfl := Option.some.inj h
          rw [hopens, Int.add_zero]
  | _ =>
      obtain rfl := Option.some.inj h
      exact (Int.add_zero _).symm

/-- Behind every part of a run a bracket is open, and at its end there is one. -/
theorem Run.nesting (h : Run stack x ts) :
    (stack.length : Int) + Expr.nesting ts = 1 ∧
      ∀ us, us <+: ts → 0 < (stack.length : Int) + Expr.nesting us := by
  induction h with
  | done =>
      refine ⟨rfl, fun us hus => ?_⟩
      rw [List.prefix_nil.mp hus]
      decide
  | space hfront hf hstack hused others ih => exact ih
  | token hfront hstack hspelled htrack others ih =>
      have hlength := length_of_trackBrackets htrack
      refine ⟨?_, fun us hus => ?_⟩
      · rw [nesting_cons, ← Int.add_assoc, ← hlength]
        exact ih.1
      · rcases us with _ | ⟨u, us⟩
        · have hpos := List.length_pos_iff.mpr hstack
          simpa using hpos
        · obtain ⟨rfl, hothers⟩ := List.cons_prefix_cons.mp hus
          rw [nesting_cons, ← Int.add_assoc, ← hlength]
          exact ih.2 us hothers

/-- Within the outermost bracket the tokens of a run are enclosed. -/
theorem Run.enclosed (h : Run [")"] x ts) : Enclosed (inParentheses ts) := by
  obtain ⟨hsum, hinside⟩ := h.nesting
  have hopen : Token.opens (.mark "(") = 1 := rfl
  refine ⟨?_, fun us hpre hne hall => ?_⟩
  · rw [inParentheses, nesting_cons, nesting_append, hopen, ← Int.add_assoc]
    exact congrArg (· + Expr.nesting [.mark ")"]) hsum
  · rcases us with _ | ⟨u, us⟩
    · exact absurd rfl hne
    · obtain ⟨rfl, hother⟩ := List.cons_prefix_cons.mp hpre
      have hother := (List.prefix_concat_iff.mp hother).resolve_left fun h => hall (by rw [h])
      rw [nesting_cons, hopen]
      exact hinside us hother

/-- There are no tokens in an empty part. -/
theorem Run.eq_nil (h : Run stack x ts) (hx : x = []) : ts = [] := by
  induction h with
  | done => rfl
  | space hfront hf hstack hused others ih => exact ih (List.append_eq_nil_iff.mp hx).2
  | token hfront hstack hspelled htrack others ih =>
      exact absurd (List.append_eq_nil_iff.mp hx).1 hspelled.ne_nil

theorem getLast?_append_right (xs : List Char) {ys : List Char} (h : ys ≠ []) :
    (xs ++ ys).getLast? = ys.getLast? := by
  obtain ⟨y, hy⟩ := Option.ne_none_iff_exists'.mp (mt List.getLast?_eq_none_iff.mp h)
  rw [List.getLast?_append, hy, Option.some_or]

/-- A run over a part that ends with no blank ends with a token, and a comma is spelled as one. -/
theorem Run.last (h : Run stack x ts)
    (hlast : ∀ c, x.getLast? = some c → Text.isBlank c = false) :
    (ts = [] → x = []) ∧ (ts.getLast? = some (.mark ",") → x.getLast? = some ',') := by
  induction h with
  | done => exact ⟨fun _ => rfl, by simp⟩
  | @space _ used y _ ts hfront hf hstack hused others ih =>
      by_cases hy : y = []
      · obtain ⟨c, hc, hblank⟩ := hused hy
        rw [hy, List.append_nil] at hlast
        rw [hlast c hc] at hblank
        cases hblank
      · rw [getLast?_append_right used hy] at hlast ⊢
        exact ⟨fun hts => absurd ((ih hlast).1 hts) hy, (ih hlast).2⟩
  | @token _ _ used y t ts hfront hstack hspelled htrack others ih =>
      refine ⟨fun h => absurd h (List.cons_ne_nil t ts), fun hcomma => ?_⟩
      by_cases hy : y = []
      · subst hy
        obtain rfl := others.eq_nil rfl
        obtain rfl : t = .mark "," := by simpa using hcomma
        rw [List.append_nil, hspelled.symbol "," rfl]
        rfl
      · rw [getLast?_append_right used hy] at hlast ⊢
        have hts : ts ≠ [] := fun hts => hy ((ih hlast).1 hts)
        refine (ih hlast).2 ?_
        rwa [List.getLast?_cons_of_ne_nil hts] at hcomma

end Runs

/-! ## Parts that are no run -/

section Settled

variable {E : List Char → Prop} {stack stack' : List String} {x y : List Char}

/-- A part of a source is a run of tokens, or it is refused in front of all texts of a kind. -/
def Settled (E : List Char → Prop) (stack : List String) (x : List Char) : Prop :=
  (∃ ts, Run stack x ts) ∨ ∀ z, E z → lexed stack (x ++ z) = none

/-- Texts of a kind that can stand behind a part of a source. -/
def Behind (E : List Char → Prop) : Prop := ∀ z, E z → Outer z ∧ z ≠ []

theorem settled_of_front_eq_none (hE : Behind E) (h : ∀ z, E z → front (x ++ z) = none) :
    Settled E stack x := by
  refine .inr fun z hz => ?_
  rw [lexed_eq stack (List.append_ne_nil_of_right_ne_nil x (hE z hz).2), h z hz]
  rfl

theorem Settled.space (hE : Behind E) (used : List Char) (h : Settled E stack y) {f : Front}
    (hfront : ∀ z, Outer z → z ≠ [] → front (used ++ (y ++ z)) = some (f, y ++ z))
    (hf : f = .space ∨ f = .lineEnd) (hstack : stack ≠ [])
    (hused : y = [] → ∃ c, used.getLast? = some c ∧ Text.isBlank c = true) :
    Settled E stack (used ++ y) := by
  rcases h with ⟨ts, hrun⟩ | hrefused
  · exact .inl ⟨ts, .space hfront hf hstack hused hrun⟩
  · refine .inr fun z hz => ?_
    have hfront := hfront z (hE z hz).1 (hE z hz).2
    rw [List.append_assoc, lexed_eq stack (ne_nil_of_front_eq_some hfront), hfront]
    rcases hf with rfl | rfl <;> simp [Front.track, hrefused z hz]

theorem Settled.token (hE : Behind E) {used : List Char} {t : Token}
    (h : ∀ stack', trackBrackets stack t = some stack' → Settled E stack' y)
    (hfront : ∀ z, Outer z → front (used ++ (y ++ z)) = some (.token t, y ++ z))
    (hstack : stack ≠ []) (hspelled : SpelledAs t used) : Settled E stack (used ++ y) := by
  have hlexed : ∀ z, E z → lexed stack (used ++ y ++ z) =
      (trackBrackets stack t).bind fun stack' => (lexed stack' (y ++ z)).map (t :: ·) := by
    intro z hz
    have hfront := hfront z (hE z hz).1
    rw [List.append_assoc, lexed_eq stack (ne_nil_of_front_eq_some hfront), hfront]
    rfl
  cases htrack : trackBrackets stack t with
  | none =>
      refine .inr fun z hz => ?_
      rw [hlexed z hz, htrack]
      rfl
  | some stack' =>
      rcases h stack' htrack with ⟨ts, hrun⟩ | hrefused
      · exact .inl ⟨t :: ts, .token hfront hstack hspelled htrack hrun⟩
      · refine .inr fun z hz => ?_
        rw [hlexed z hz, htrack, Option.bind_some, hrefused z hz]
        rfl

end Settled

/-! ## Sources in parentheses -/

theorem getLast?_cons_of_getLast?_eq_some {c d : Char} {cs : List Char}
    (h : cs.getLast? = some d) : (c :: cs).getLast? = some d := by
  rw [List.getLast?_cons, h]
  rfl

/-- Line ends are rewritten on both sides of a place that is not inside one. -/
theorem unixLines_append {cs ds : List Char}
    (h : cs.getLast? = some '\r' → headIs (· == '\n') ds = false) :
    unixLines (cs ++ ds) = unixLines cs ++ unixLines ds := by
  fun_induction unixLines cs with
  | case1 => rfl
  | case2 cs ih =>
      have hcs := ih fun hlast => h (getLast?_cons_of_getLast?_eq_some
        (getLast?_cons_of_getLast?_eq_some hlast))
      simp only [List.cons_append, unixLines, hcs]
  | case3 cs hne ih =>
      have hcs := ih fun hlast => h (getLast?_cons_of_getLast?_eq_some hlast)
      have hhead : ∀ rest, cs ++ ds ≠ '\n' :: rest := by
        rintro rest heq
        cases cs with
        | nil =>
            have hno := h rfl
            rw [List.nil_append] at heq
            rw [heq] at hno
            cases hno
        | cons c cs => exact hne cs (by rw [(List.cons.inj heq).1])
      rw [List.cons_append, unixLines.eq_3 _ hhead, hcs]
      rfl
  | case4 c cs hne hne' ih =>
      have hcs := ih fun hlast => h (getLast?_cons_of_getLast?_eq_some hlast)
      rw [List.cons_append, unixLines.eq_4 c _ (fun _ hc => absurd hc hne') hne', hcs]
      rfl

theorem unixLines_of_not_mem {cs : List Char} (h : '\r' ∉ cs) : unixLines cs = cs := by
  fun_induction unixLines cs <;> simp_all

theorem front_open (cs : List Char) : front ('(' :: cs) = some (.token (.mark "("), cs) := by
  rfl

/-- A source in an opening parenthesis. -/
theorem lexed_open (cs : List Char) :
    lexed [] ('(' :: cs) = (lexed [")"] cs).map (.mark "(" :: ·) := by
  rw [lexed_eq [] (List.cons_ne_nil _ _), front_open]
  rfl

/-- The tokens of a source that begins with a parenthesis and ends with outer text. -/
theorem tokens_open {c z : List Char}
    (hc : c.getLast? = some '\r' → headIs (· == '\n') z = false) (hz : '\r' ∉ z)
    (hzero : '\x00' ∉ z) :
    tokens ('(' :: (c ++ z)) =
      if c.contains '\x00' then none
      else (lexed [")"] (unixLines c ++ z)).map (.mark "(" :: ·) := by
  have hcontains : ('(' :: (c ++ z)).contains '\x00' = c.contains '\x00' := by
    simp [hzero]
  have hlines : unixLines ('(' :: (c ++ z)) = '(' :: (unixLines c ++ z) := by
    rw [unixLines.eq_4 _ _ (by simp) (by simp), unixLines_append hc, unixLines_of_not_mem hz]
  rw [tokens, hcontains]
  split
  · rfl
  · rw [hlines]
    exact lexed_open _

end BoundSql.Expr
