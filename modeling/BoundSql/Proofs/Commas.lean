import BoundSql.Expr.Compile
import BoundSql.Proofs.Phrases
set_option autoImplicit false

/-!
# A comma in front of the closing parenthesis

A row of tokens between an opening parenthesis and the one that closes it is read as what stands
between the two.  If that begins with a star, the row is a tuple or nothing; one comma behind its
items makes no difference to a tuple that is read, and two commas are never read.

A splat is read with a comma of its own put behind its content, so what the reader of tuples makes
of that comma decides which splats are accepted.  The reader is a recursive descent, and its
behaviour in front of a comma is known for all of its parts (`TakePhrases`): each of them stops in
front of a comma as in front of a closing parenthesis.  What is left is the loop over the items of a
tuple, which is shown to come to the same items with a comma and without
(`TakePhrases.repeats_comma`).

The results are carried through the whole reader, through the bound on its depth
(`levelBound_comma`) and through the check of scopes, so that they speak of rows of tokens that are
accepted as expressions (`compileTokens_comma`, `compileTokens_two_commas`).
-/

namespace BoundSql.Expr

open Reading

/-! ## Between two parentheses -/

/-- Tokens that begin with a bracket which their last token closes: every proper part from the
beginning on leaves a bracket open. -/
structure Enclosed (ts : List Token) : Prop where
  nesting : nesting ts = 0
  inside : ∀ us, us <+: ts → us ≠ [] → us ≠ ts → 0 < Expr.nesting us

/-- A phrase at the beginning of such a row is all of it. -/
theorem Enclosed.eq_nil_of_phrase {us vs : List Token} (h : Enclosed (us ++ vs))
    (hus : Phrase us) : vs = [] := by
  refine Classical.byContradiction fun hvs => ?_
  have hpos := h.inside us (List.prefix_append us vs) hus.ne_nil (by simp [hvs])
  rw [hus.span.nesting] at hpos
  exact absurd hpos (Int.lt_irrefl 0)

/-- A row in parentheses. -/
abbrev inParentheses (ts : List Token) : List Token := .mark "(" :: (ts ++ [.mark ")"])

/-- A comma in front of the last parenthesis is enclosed as well. -/
theorem Enclosed.comma {ts : List Token} (h : Enclosed (inParentheses ts)) :
    Enclosed (inParentheses (ts ++ [.mark ","])) := by
  have hopen : Expr.nesting (.mark "(" :: ts) = 1 := by
    have hsum := h.nesting
    have hclose : Token.opens (.mark ")") = -1 := rfl
    simp only [inParentheses, nesting_cons, nesting_append, nesting_nil] at hsum ⊢
    omega
  have hcomma : Expr.nesting (.mark "(" :: ts ++ [.mark ","]) = 1 := by
    rw [nesting_append, hopen]
    rfl
  have hrow : inParentheses (ts ++ [.mark ","])
      = .mark "(" :: ts ++ [.mark ","] ++ [.mark ")"] := by simp
  refine ⟨?_, fun us hpre hne hall => ?_⟩
  · rw [hrow, nesting_append, hcomma]
    rfl
  · -- such a part ends behind the comma, or in front of it as before
    rw [hrow] at hpre hall
    have hfront := (List.prefix_concat_iff.mp hpre).resolve_left hall
    rcases List.prefix_concat_iff.mp hfront with rfl | hfront
    · rw [hcomma]
      exact Int.one_pos
    · refine h.inside us (hfront.trans (List.prefix_append _ [Token.mark ")"])) hne ?_
      rintro rfl
      exact absurd hfront.length_le (by simp)

theorem exists_of_begins_isMark {symbol : String} {ts : List Token}
    (h : begins (·.isMark symbol) ts = true) : ∃ us, ts = .mark symbol :: us := by
  cases ts with
  | nil => cases h
  | cons t us => exact ⟨us, by rw [Token.eq_mark_of_isMark h]⟩

section Layers

variable {β : Type} {s : Sight} {ts : List Token} {m : Reading β} {a : β}

/-- A reader that takes a phrase takes an enclosed row as a whole, so that nothing is left for the
readers behind it. -/
theorem Enclosed.bind_iff (hts : Enclosed ts) (hm : Takes s (fun _ => Phrase) m)
    {f : β → Reading β} (hf : ∀ b, f b [] = some (b, [])) :
    (m >>= f) ts = some (a, []) ↔ m ts = some (a, []) := by
  rw [Reading.bind_eq_some_iff]
  constructor
  · rintro ⟨b, mid, hb, hf'⟩
    obtain ⟨used, rfl, hused, -⟩ := hm ts b mid hb
    obtain rfl := hts.eq_nil_of_phrase hused
    rw [hf b] at hf'
    rw [hb, hf']
  · exact fun h => ⟨a, [], h, hf a⟩

theorem Enclosed.rest_eq_nil (hts : Enclosed ts) (hm : Takes s (fun _ => Phrase) m)
    {f : β → Reading β} (hf : ∀ b, f b [] = some (b, [])) {rest : List Token}
    (h : (m >>= f) ts = some (a, rest)) : rest = [] := by
  obtain ⟨b, mid, hb, hf'⟩ := Reading.bind_eq_some_iff.mp h
  obtain ⟨used, rfl, hused, -⟩ := hm ts b mid hb
  obtain rfl := hts.eq_nil_of_phrase hused
  rw [hf b] at hf'
  exact (Prod.mk.inj (Option.some.inj hf')).2.symm

/-- A question that the first token does not answer is passed over. -/
theorem Accepts.else_eq {p : Token → Bool} {question : Reading Bool} (hq : Accepts p question)
    {x y : Reading β} (hno : begins p ts = false) :
    (question >>= fun yes => if yes = true then x else y) ts = y ts := by
  change (question ts >>= fun r => (if r.1 = true then x else y) r.2) = y ts
  rw [hq.no ts hno]
  rfl

end Layers

namespace Readers

variable {r : Readers} (hr : r.TakePhrases) {ts : List Token}

include hr

/-- From the operators down to the atom there is nothing but the parentheses. -/
theorem TakePhrases.expressionHere_inParentheses (hts : Enclosed (.mark "(" :: ts)) {t : Tree} :
    r.expressionHere (.mark "(" :: ts) = some (t, []) ↔ r.parenthesized ts = some (t, []) := by
  have hlambda : r.expressionHere (.mark "(" :: ts) = some (t, [])
      ↔ r.disjunctionHere (.mark "(" :: ts) = some (t, []) := by
    rw [Readers.expressionHere, (accepts_acceptKeyword "lambda").else_eq rfl]
    exact hts.bind_iff hr.disjunctionHere fun _ => rfl
  have hinversion : r.inversionHere (.mark "(" :: ts) = r.comparisonHere (.mark "(" :: ts) :=
    (accepts_acceptKeyword "not").else_eq rfl
  have hfactor : r.factorHere (.mark "(" :: ts) = r.powerHere (.mark "(" :: ts) := by
    rw [Readers.factorHere, (accepts_accept "-").else_eq rfl, (accepts_accept "+").else_eq rfl,
      (accepts_accept "~").else_eq rfl]
  have hpower : r.powerHere (.mark "(" :: ts) = (do
      let base ← r.primaryHere
      if ← accept "**" then return Tree.binary .pow base (← r.factor) else pure base)
        (.mark "(" :: ts) :=
    Reading.bind_congr_left ((accepts_acceptKeyword "await").else_eq rfl) _
  calc r.expressionHere (.mark "(" :: ts) = some (t, [])
      ↔ r.disjunctionHere (.mark "(" :: ts) = some (t, []) := hlambda
    _ ↔ r.conjunctionHere (.mark "(" :: ts) = some (t, []) :=
        hts.bind_iff hr.conjunctionHere fun _ => rfl
    _ ↔ r.inversionHere (.mark "(" :: ts) = some (t, []) :=
        hts.bind_iff hr.inversionHere fun _ => rfl
    _ ↔ r.comparisonHere (.mark "(" :: ts) = some (t, []) := by rw [hinversion]
    _ ↔ r.bitOrHere (.mark "(" :: ts) = some (t, []) := hts.bind_iff hr.bitOrHere fun _ => rfl
    _ ↔ r.bitXorHere (.mark "(" :: ts) = some (t, []) := hts.bind_iff hr.bitXorHere fun _ => rfl
    _ ↔ r.bitAndHere (.mark "(" :: ts) = some (t, []) := hts.bind_iff hr.bitAndHere fun _ => rfl
    _ ↔ r.shiftHere (.mark "(" :: ts) = some (t, []) := hts.bind_iff hr.shiftHere fun _ => rfl
    _ ↔ r.sumHere (.mark "(" :: ts) = some (t, []) := hts.bind_iff hr.sumHere fun _ => rfl
    _ ↔ r.termHere (.mark "(" :: ts) = some (t, []) := hts.bind_iff hr.termHere fun _ => rfl
    _ ↔ r.factorHere (.mark "(" :: ts) = some (t, []) := hts.bind_iff hr.factorHere fun _ => rfl
    _ ↔ r.powerHere (.mark "(" :: ts) = some (t, []) := by rw [hfactor]
    _ ↔ r.primaryHere (.mark "(" :: ts) = some (t, []) := by
        rw [hpower]
        exact hts.bind_iff hr.primaryHere fun _ => rfl
    _ ↔ r.atom (.mark "(" :: ts) = some (t, []) := hts.bind_iff hr.atom fun _ => rfl
    _ ↔ r.parenthesized ts = some (t, []) := Iff.rfl

theorem TakePhrases.whole_inParentheses (hts : Enclosed (.mark "(" :: ts)) {t : Tree}
    {rest : List Token} :
    r.whole (.mark "(" :: ts) = some (t, rest) ↔
      rest = [] ∧ r.parenthesized ts = some (t, []) := by
  rw [← hr.expressionHere_inParentheses hts, Readers.whole]
  constructor
  · intro h
    obtain rfl := hts.rest_eq_nil hr.expressionHere (fun _ => rfl) h
    exact ⟨rfl, (hts.bind_iff hr.expressionHere fun _ => rfl).mp h⟩
  · rintro ⟨rfl, h⟩
    exact (hts.bind_iff hr.expressionHere fun _ => rfl).mpr h

/-! ## Starred items -/

omit hr in
/-- Behind a star there is a tuple or nothing. -/
theorem parenthesized_star_iff {us rest : List Token} {t : Tree} :
    r.parenthesized (.mark "*" :: us) = some (t, rest) ↔
      ∃ first mid items, r.bitOr us = some (first, mid) ∧ begins (·.isMark ",") mid = true ∧
        r.itemsUntil ")" mid = some (items, rest) ∧ t = .tuple (.star first :: items) := by
  have hstar : r.starNamed (.mark "*" :: us) = (r.bitOr >>= fun x => pure (.star x)) us := rfl
  rw [Readers.parenthesized, (accepts_accept ")").else_eq rfl,
    (accepts_acceptKeyword "yield").else_eq rfl, Reading.bind_eq_some_iff]
  constructor
  · rintro ⟨starred, mid, hstarred, h⟩
    rw [hstar] at hstarred
    obtain ⟨first, mid', hfirst, hpure⟩ := Reading.bind_eq_some_iff.mp hstarred
    obtain ⟨rfl, rfl⟩ := Prod.mk.inj (Option.some.inj hpure)
    rw [(looks_atMark ",").bind_eq] at h
    cases hcomma : begins (·.isMark ",") mid' with
    | true =>
        rw [hcomma] at h
        obtain ⟨items, rest', hitems, hpure⟩ := Reading.bind_eq_some_iff.mp h
        obtain ⟨rfl, rfl⟩ := Prod.mk.inj (Option.some.inj hpure)
        exact ⟨first, mid', items, hfirst, hcomma, hitems, rfl⟩
    | false =>
        -- a starred element has no clauses and does not stand alone
        rw [hcomma] at h
        have h := (looks_atClause.bind_eq _ mid').symm.trans h
        split at h
        · cases h
        · obtain ⟨_, _, -, hrefuse⟩ := Reading.bind_eq_some_iff.mp h
          cases hrefuse
  · rintro ⟨first, mid, items, hfirst, hcomma, hitems, rfl⟩
    refine ⟨.star first, mid, ?_, ?_⟩
    · rw [hstar]
      exact Reading.bind_eq_some_iff.mpr ⟨first, mid, hfirst, rfl⟩
    · rw [(looks_atMark ",").bind_eq, hcomma]
      exact Reading.bind_eq_some_iff.mpr ⟨items, rest, hitems, rfl⟩

omit hr in
/-- No expression begins with the mark that multiplies in place. -/
theorem parenthesized_starEquals (us : List Token) (depth : Nat) :
    (ofDepth depth).parenthesized (.mark "*=" :: us) = none := by
  cases depth with
  | zero => rfl
  | succ depth => rfl

/-! ## Items up to the parenthesis -/

/-- An item behind a comma, unless the comma is the last one. -/
def itemBehindComma (r : Readers) : Reading (Option Tree) := do
  if ← accept "," then
    if ← atMark ")" then pure none else return some (← r.starNamed)
  else pure none

omit hr in
theorem itemBehindComma_eq_some_iff {us rest : List Token} {o : Option Tree} :
    r.itemBehindComma us = some (o, rest) ↔
      (o = none ∧ us = rest ∧ begins (·.isMark ",") us = false) ∨
      (o = none ∧ us = .mark "," :: rest ∧ begins (·.isMark ")") rest = true) ∨
      ∃ item vs, o = some item ∧ us = .mark "," :: vs ∧ begins (·.isMark ")") vs = false ∧
        r.starNamed vs = some (item, rest) := by
  cases hcomma : begins (·.isMark ",") us with
  | false =>
      rw [itemBehindComma, (accepts_accept ",").else_eq hcomma]
      constructor
      · intro h
        obtain ⟨rfl, rfl⟩ := Prod.mk.inj (Option.some.inj h)
        exact .inl ⟨rfl, rfl, rfl⟩
      · rintro (⟨rfl, rfl, -⟩ | ⟨-, rfl, -⟩ | ⟨_, _, -, rfl, -⟩)
        · rfl
        · cases hcomma
        · cases hcomma
  | true =>
      obtain ⟨vs, rfl⟩ := exists_of_begins_isMark hcomma
      have hstep : r.itemBehindComma (.mark "," :: vs)
          = (if begins (·.isMark ")") vs = true then pure none
              else r.starNamed >>= fun item => pure (some item) : Reading (Option Tree)) vs :=
        (looks_atMark ")").bind_eq (fun yes => if yes = true then pure none
          else r.starNamed >>= fun item => pure (some item)) vs
      rw [hstep]
      cases hclose : begins (·.isMark ")") vs with
      | true =>
          constructor
          · intro h
            obtain ⟨rfl, rfl⟩ := Prod.mk.inj (Option.some.inj h)
            exact .inr (.inl ⟨rfl, rfl, hclose⟩)
          · rintro (⟨-, -, h⟩ | ⟨rfl, h, -⟩ | ⟨item, us, -, h, hno, -⟩)
            · cases h
            · rw [(List.cons.inj h).2]
              rfl
            · rw [← (List.cons.inj h).2, hclose] at hno
              cases hno
      | false =>
          constructor
          · intro h
            obtain ⟨item, mid, hitem, hpure⟩ := Reading.bind_eq_some_iff.mp h
            obtain ⟨rfl, rfl⟩ := Prod.mk.inj (Option.some.inj hpure)
            exact .inr (.inr ⟨item, vs, rfl, rfl, hclose, hitem⟩)
          · rintro (⟨-, -, h⟩ | ⟨-, h, hyes⟩ | ⟨item, us, rfl, h, -, hitem⟩)
            · cases h
            · rw [← (List.cons.inj h).2, hclose] at hyes
              cases hyes
            · obtain ⟨-, rfl⟩ := List.cons.inj h
              exact Reading.bind_eq_some_iff.mpr ⟨item, rest, hitem, rfl⟩

theorem TakePhrases.itemBehindComma_length_lt {us rest : List Token} {item : Tree}
    (h : r.itemBehindComma us = some (some item, rest)) : rest.length < us.length := by
  rcases itemBehindComma_eq_some_iff.mp h with ⟨h, -⟩ | ⟨h, -⟩ | ⟨_, vs, -, rfl, -, hitem⟩
  · cases h
  · cases h
  · exact Nat.lt_succ_of_le (hr.starNamed.length_le hitem)

theorem TakePhrases.repeats_iff {us rest : List Token} {items : List Tree} :
    Repeats r.itemBehindComma us items rest ↔
      repeated r.itemBehindComma us = some (items, rest) :=
  (repeated_eq_some_iff fun _ _ _ h => hr.itemBehindComma_length_lt h).symm

theorem TakePhrases.takes_itemsBehindCommas :
    Takes .token (fun _ => Items) (repeated r.itemBehindComma) :=
  takes_items (looks_atMark ")") hr.starNamed

theorem TakePhrases.itemsUntil_iff {us rest : List Token} {items : List Tree} :
    r.itemsUntil ")" us = some (items, rest) ↔
      Repeats r.itemBehindComma us items (.mark ")" :: rest) := by
  rw [hr.repeats_iff]
  change (repeated r.itemBehindComma >>= fun items => expect ")" >>= fun _ => pure items) us
    = some (items, rest) ↔ _
  rw [Reading.bind_eq_some_iff]
  constructor
  · rintro ⟨items', mid, hitems, h⟩
    obtain ⟨_, mid', hexpect, hpure⟩ := Reading.bind_eq_some_iff.mp h
    obtain ⟨rfl, rfl⟩ := Prod.mk.inj (Option.some.inj hpure)
    obtain ⟨used, rfl, rfl, -⟩ := takes_expect ")" mid _ _ hexpect
    exact hitems
  · exact fun h => ⟨items, _, h, rfl⟩

/-! ## One comma more -/

omit hr in
/-- In front of a comma a row looks as it does in front of a parenthesis. -/
theorem agree_comma (ts : List Token) :
    Sight.stops.Agree (ts ++ [.mark ")"]) (ts ++ [.mark ",", .mark ")"]) := by
  by_cases hts : ts = []
  · rw [hts]
    exact .inr ⟨.inr rfl, .inl rfl⟩
  · exact Sight.agree_of_ne_nil _ hts _ _

/-- The items that are read in front of a parenthesis are read in front of a comma as well, unless
there is a comma already. -/
theorem TakePhrases.repeats_comma {us vs : List Token} {items : List Tree}
    (h : Repeats r.itemBehindComma us items [.mark ")"]) (hus : us = vs ++ [.mark ")"])
    (hbare : Bare vs) :
    Repeats r.itemBehindComma (vs ++ [.mark ",", .mark ")"]) items [.mark ")"] := by
  generalize hend : [Token.mark ")"] = rest at h
  induction h generalizing vs with
  | done last =>
      subst hend
      rcases itemBehindComma_eq_some_iff.mp last with ⟨-, rfl, -⟩ | ⟨-, rfl, -⟩ | ⟨_, _, h, -⟩
      · obtain rfl : vs = [] := List.append_left_eq_self.mp hus.symm
        exact .done rfl
      · obtain rfl : vs = [Token.mark ","] := ((List.append_left_inj [Token.mark ")"]).mp hus).symm
        exact absurd rfl hbare
      · cases h
  | @more _ mid _ item items first others ih =>
      subst hend
      rcases itemBehindComma_eq_some_iff.mp first with ⟨h, -⟩ | ⟨h, -⟩ | ⟨_, ws, h, rfl, hno, hitem⟩
      · cases h
      · cases h
      · obtain rfl := Option.some.inj h
        obtain ⟨back, rfl, -⟩ := hr.takes_itemsBehindCommas mid _ _ (hr.repeats_iff.mp others)
        obtain ⟨front, rfl, hfront, hother⟩ := hr.starNamed ws _ _ hitem
        obtain rfl : vs = .mark "," :: front ++ back := by
          refine List.append_cancel_right (hus.symm.trans ?_)
          simp
        refine .more ?_ (ih rfl ?_ rfl)
        · refine itemBehindComma_eq_some_iff.mpr (.inr (.inr
            ⟨item, front ++ (back ++ _), rfl, by simp, ?_, hother _ (agree_comma back)⟩))
          rw [← hno]
          exact (begins_append_eq (.inr hfront.ne_nil) (agree_comma back)).symm
        · exact hbare.of_append

/-- A tuple that is read without a comma behind its items is read with one. -/
theorem TakePhrases.parenthesized_comma {ts : List Token} {t : Tree}
    (hbare : Bare (.mark "*" :: ts))
    (h : r.parenthesized (.mark "*" :: ts ++ [.mark ")"]) = some (t, [])) :
    r.parenthesized (.mark "*" :: ts ++ [.mark ","] ++ [.mark ")"]) = some (t, []) := by
  obtain ⟨first, mid, items, hfirst, hcomma, hitems, rfl⟩ := parenthesized_star_iff.mp h
  have hrepeats := hr.itemsUntil_iff.mp hitems
  obtain ⟨back, rfl, -⟩ := hr.takes_itemsBehindCommas mid _ _ (hr.repeats_iff.mp hrepeats)
  obtain ⟨front, heq, hfront, hother⟩ := hr.bitOr _ _ _ hfirst
  obtain rfl : ts = front ++ back := by
    refine List.append_cancel_right (heq.trans ?_)
    rw [List.append_assoc]
  have hback : Bare back := Bare.of_append (show Bare (.mark "*" :: front ++ back) from hbare)
  have hrow : front ++ back ++ [.mark ","] ++ [.mark ")"]
      = front ++ (back ++ [Token.mark ",", .mark ")"]) := by simp
  rw [List.cons_append, List.cons_append, hrow]
  refine parenthesized_star_iff.mpr ⟨first, _, items, hother _ (agree_comma back), ?_,
    hr.itemsUntil_iff.mpr (hr.repeats_comma hrepeats rfl hback), rfl⟩
  cases back with
  | nil => rfl
  | cons t back => exact hcomma

/-- Two commas behind the items are never read. -/
theorem TakePhrases.parenthesized_two_commas (ts : List Token) (t : Tree) :
    r.parenthesized (.mark "*" :: ts ++ [.mark ",", .mark ",", .mark ")"]) ≠ some (t, []) := by
  intro h
  obtain ⟨first, mid, items, hfirst, -, hitems, -⟩ := parenthesized_star_iff.mp h
  obtain ⟨back, rfl, hback, -⟩ := hr.takes_itemsBehindCommas mid _ _
    (hr.repeats_iff.mp (hr.itemsUntil_iff.mp hitems))
  obtain ⟨front, heq, hfront, -⟩ := hr.bitOr _ _ _ hfirst
  have heq : ts ++ [.mark ","] ++ [.mark ","] = front ++ back := by
    refine (List.append_left_inj [Token.mark ")"]).mp ?_
    simpa using heq
  obtain ⟨us, hus, rfl | rfl⟩ := hback.comma
  · exact not_bare_comma _ (heq ▸ hfront.span.bare.append hus)
  · have heq : ts ++ [.mark ","] = front ++ us := by
      refine (List.append_left_inj [Token.mark ","]).mp ?_
      simpa using heq
    exact not_bare_comma ts (heq ▸ hfront.span.bare.append hus)

end Readers

/-! ## Whole rows -/

/-- A comma adds nothing to the depth that a row is read with. -/
theorem levelBound_comma (ts us : List Token) :
    levelBound (ts ++ .mark "," :: us) = levelBound (ts ++ us) := by
  induction ts with
  | nil => exact Nat.zero_add _
  | cons t ts ih => rw [List.cons_append, List.cons_append, levelBound, levelBound, ih]

theorem readTokens_eq_some_iff {ts : List Token} {t : Tree} :
    readTokens ts = some t ↔
      ∃ rest, (Readers.ofDepth (levelBound ts)).whole ts = some (t, rest) := by
  change ((Readers.ofDepth (levelBound ts)).whole ts >>= fun r => some r.1) = some t ↔ _
  cases (Readers.ofDepth (levelBound ts)).whole ts with
  | none => simp
  | some r =>
      obtain ⟨t', rest⟩ := r
      simp

/-- A row in parentheses is read as what stands between them. -/
theorem readTokens_inParentheses {ts : List Token} (hts : Enclosed (inParentheses ts)) {t : Tree} :
    readTokens (inParentheses ts) = some t ↔
      (Readers.ofDepth (levelBound (inParentheses ts))).parenthesized (ts ++ [.mark ")"])
        = some (t, []) := by
  have hr := Readers.takePhrases_ofDepth (levelBound (inParentheses ts))
  rw [readTokens_eq_some_iff]
  constructor
  · rintro ⟨rest, h⟩
    exact ((hr.whole_inParentheses hts).mp h).2
  · exact fun h => ⟨[], (hr.whole_inParentheses hts).mpr ⟨rfl, h⟩⟩

theorem compileTokens_eq_some_iff {ts : List Token} {t : Tree} :
    compileTokens ts = some t ↔
      readTokens ts = some t ∧ t.scopesInOrder (levelBound ts) = true := by
  rw [compileTokens]
  cases readTokens ts with
  | none => simp
  | some t' => by_cases h : t'.scopesInOrder (levelBound ts) = true <;> simp [h] <;> grind

section Starred

variable {ts : List Token} {t : Tree}

/-- A row in parentheses that begins with a star is a tuple. -/
theorem exists_tuple_of_compileTokens (hts : Enclosed (inParentheses (.mark "*" :: ts)))
    (h : compileTokens (inParentheses (.mark "*" :: ts)) = some t) :
    ∃ first items, t = .tuple (.star first :: items) := by
  have hread := (readTokens_inParentheses hts).mp (compileTokens_eq_some_iff.mp h).1
  obtain ⟨first, -, items, -, -, -, rfl⟩ := Readers.parenthesized_star_iff.mp hread
  exact ⟨first, items, rfl⟩

/-- A tuple that begins with a star may have a comma behind its items. -/
theorem compileTokens_comma (hts : Enclosed (inParentheses (.mark "*" :: ts)))
    (hbare : Bare (.mark "*" :: ts))
    (h : compileTokens (inParentheses (.mark "*" :: ts)) = some t) :
    compileTokens (inParentheses (.mark "*" :: ts ++ [.mark ","])) = some t := by
  have hlevels : levelBound (inParentheses (.mark "*" :: ts ++ [.mark ","]))
      = levelBound (inParentheses (.mark "*" :: ts)) := by
    simpa [inParentheses] using levelBound_comma (.mark "(" :: .mark "*" :: ts) [.mark ")"]
  have hr := Readers.takePhrases_ofDepth (levelBound (inParentheses (.mark "*" :: ts)))
  obtain ⟨hread, hscopes⟩ := compileTokens_eq_some_iff.mp h
  refine compileTokens_eq_some_iff.mpr ⟨(readTokens_inParentheses hts.comma).mpr ?_, ?_⟩
  · rw [hlevels]
    exact hr.parenthesized_comma hbare ((readTokens_inParentheses hts).mp hread)
  · rw [hlevels]
    exact hscopes

/-- It has no two commas there. -/
theorem compileTokens_two_commas (hts : Enclosed (inParentheses (.mark "*" :: ts ++ [.mark ","]))) :
    compileTokens (inParentheses (.mark "*" :: ts ++ [.mark ","] ++ [.mark ","])) = none := by
  have hr := Readers.takePhrases_ofDepth
    (levelBound (inParentheses (.mark "*" :: ts ++ [.mark ","] ++ [.mark ","])))
  refine Option.eq_none_iff_forall_ne_some.mpr fun t h => ?_
  have hread := (readTokens_inParentheses hts.comma).mp (compileTokens_eq_some_iff.mp h).1
  exact hr.parenthesized_two_commas ts t (by simpa using hread)

/-- Nothing begins with the mark that multiplies in place. -/
theorem compileTokens_starEquals (hts : Enclosed (inParentheses (.mark "*=" :: ts))) :
    compileTokens (inParentheses (.mark "*=" :: ts)) = none := by
  refine Option.eq_none_iff_forall_ne_some.mpr fun t h => ?_
  have hread := (readTokens_inParentheses hts).mp (compileTokens_eq_some_iff.mp h).1
  rw [List.cons_append, Readers.parenthesized_starEquals] at hread
  cases hread

end Starred

end BoundSql.Expr
