import BoundSql.Proofs.Taking
set_option autoImplicit false

/-!
# Expressions as phrases

Every reader of an expression takes a phrase: some tokens that close the brackets they open and do
not end with a comma.  It stops in front of a comma, a closing parenthesis and the end alike, and
would read the same in front of any other of these.  The readers of one level have this from the
readers of the next level, so that it holds at every depth.

There is one lemma for each reader, in the order of the grammar, and each of them is put together
from the lemmas of the readers that are used in it; the laws for that are those of `Takes`.
`TakePhrases` is the hypothesis about the readers one level further in, and `takePhrases_ofDepth`
the induction that removes it.

Why this is worth having: a splat and an expression in parentheses are read with other tokens behind
them than the same text has elsewhere.  That nothing is read differently for that is a statement
about all expressions, and cannot be had from looking at some.
-/

namespace BoundSql.Expr

open Reading

/-! ## Tokens in front of a phrase -/

theorem Phrase.cons {t : Token} {ts : List Token} (ht : t.opens = 0) (hts : Phrase ts) :
    Phrase (t :: ts) :=
  Phrase.behind (show nesting [t] = 0 by simp [ht]) hts

theorem Span.closing_cons {t : Token} {ts : List Token} (ht : t.opens = 0) (hts : Closing ts) :
    Closing (t :: ts) :=
  Span.closing_behind (show Expr.nesting [t] = 0 by simp [ht]) hts

theorem Token.opens_of_isMark {symbol : String} {t : Token} (h : t.isMark symbol = true) :
    t.opens = (Token.mark symbol).opens := by
  rw [Token.eq_mark_of_isMark h]

theorem Token.opens_of_isKeyword {word : String} {t : Token} (h : t.isKeyword word = true) :
    t.opens = 0 := by
  rw [Token.eq_keyword_of_isKeyword h]
  rfl

theorem closing_singleton {t : Token} (ht : t.opens = -1) : Closing [t] := by
  refine ⟨by simp [ht], ?_⟩
  have hne : t ≠ .mark "," := by
    rintro rfl
    exact absurd ht (by decide)
  simpa [Bare] using hne

section Sequences

variable {α β : Type} {s s' : Sight} {P : α → List Token → Prop} {m : Reading α}
  {f : α → Reading β}

/-- Up to and with a closing bracket, behind whatever closes the brackets that it opens. -/
theorem Takes.thenClosing (hm : Takes s' P m) (hP : ∀ a used, P a used → nesting used = 0)
    (hf : ∀ a, Takes s (fun _ => Closing) (f a)) : Takes s (fun _ => Closing) (m >>= f) :=
  hm.toToken.before (R := fun _ _ => Closing) (fun a _ _ => hf a)
    (fun _ _ _ h => h.ne_nil (by decide))
    fun a _ used _ hused hused' => hused'.closing_behind (hP a used hused)

theorem Takes.phraseThenClosing (hm : Takes s' (fun _ => Phrase) m)
    (hf : ∀ a, Takes s (fun _ => Closing) (f a)) : Takes s (fun _ => Closing) (m >>= f) :=
  hm.thenClosing (fun _ _ h => h.span.nesting) hf

/-- A phrase behind whatever closes the brackets that it opens. -/
theorem Takes.thenPhrase (hm : Takes s' P m) (hP : ∀ a used, P a used → nesting used = 0)
    (hf : ∀ a, Takes s (fun _ => Phrase) (f a)) : Takes s (fun _ => Phrase) (m >>= f) :=
  hm.toToken.before (R := fun _ _ => Phrase) (fun a _ _ => hf a) (fun _ _ _ h => h.ne_nil)
    fun a _ used _ hused hused' => hused'.behind (hP a used hused)

/-- Readers that close what they open, one behind the other. -/
theorem Takes.closed (hm : Takes .token P m) (hP : ∀ a used, P a used → nesting used = 0)
    (hf : ∀ a, Takes .token (fun _ used => nesting used = 0) (f a)) :
    Takes .token (fun _ used => nesting used = 0) (m >>= f) :=
  hm.bind (R := fun _ _ used => nesting used = 0) (fun a _ _ => hf a)
    fun a _ used used' hused hused' => by rw [nesting_append, hP a used hused, hused']; rfl

theorem takes_closing {close : String} (hclose : (Token.mark close).opens = -1) (a : α) :
    Takes s (fun _ => Closing) (expect close >>= fun _ => pure a) := by
  refine Takes.ofNothing ((takes_expect close).map fun _ used hused => ?_)
  rw [hused]
  exact closing_singleton hclose

/-- A token that is taken if it is there, in front of a phrase. -/
theorem Accepts.opens_eq_zero {p : Token → Bool} {yes : Bool} {used : List Token}
    (hp : ∀ t, p t = true → t.opens = 0)
    (h : if yes then ∃ t, p t = true ∧ used = [t] else used = []) : nesting used = 0 := by
  cases yes with
  | true =>
      obtain ⟨t, ht, rfl⟩ := h
      simp [hp t ht]
  | false =>
      obtain rfl : used = [] := h
      rfl

end Sequences

/-- Reserved words are neither commas nor parentheses. -/
theorem sees_keyword (word : String) : Sight.stops.Sees (·.isKeyword word) := sees_stops rfl rfl

/-! ## Names in front of symbols -/

/-- The name in front of a symbol at the beginning of a row. -/
def nameBefore (symbol : String) : List Token → Option String
  | .name id :: ts => if begins (·.isMark symbol) ts then some id else none
  | _ => none

theorem atNameAndMark_eq (symbol : String) (ts : List Token) :
    atNameAndMark symbol ts = some (nameBefore symbol ts, ts) := by
  rcases ts with _ | ⟨t, ts⟩
  · rfl
  · cases t with
    | name id =>
        rcases ts with _ | ⟨t, ts⟩
        · rfl
        · cases t <;> rfl
    | _ => rfl

theorem exists_of_nameBefore_eq_some {symbol id : String} {ts : List Token}
    (h : nameBefore symbol ts = some id) :
    ∃ rest, ts = .name id :: .mark symbol :: rest := by
  rcases ts with _ | ⟨t, ts⟩
  · cases h
  · cases t with
    | name id' =>
        rw [nameBefore] at h
        split at h
        next hbegins =>
          obtain rfl := Option.some.inj h
          rcases ts with _ | ⟨t, ts⟩
          · cases hbegins
          · exact ⟨ts, by rw [Token.eq_mark_of_isMark hbegins]⟩
        next => cases h
    | _ => cases h

/-- Behind one token the next one has to be seen, behind two nothing more. -/
theorem nameBefore_append_eq {s : Sight} {symbol : String} {used rest rest' : List Token}
    (hs : (s.Sees (·.isMark symbol) ∧ used ≠ []) ∨ 2 ≤ used.length) (h : s.Agree rest rest') :
    nameBefore symbol (used ++ rest) = nameBefore symbol (used ++ rest') := by
  rcases used with _ | ⟨t, used⟩
  · rcases hs with ⟨-, hne⟩ | hlen
    · exact absurd rfl hne
    · cases hlen
  · have hsees : s.Sees (·.isMark symbol) ∨ used ≠ [] := by
      refine hs.imp And.left fun hlen hnil => ?_
      rw [hnil] at hlen
      exact absurd hlen (by simp)
    cases t with
    | name id => simp only [List.cons_append, nameBefore, begins_append_eq hsees h]
    | _ => rfl

section Names

variable {α : Type} {s : Sight} {P : α → List Token → Prop} {symbol : String}
  {f : Option String → Reading α}

theorem atNameAndMark_bind_eq (ts : List Token) :
    (atNameAndMark symbol >>= f) ts = f (nameBefore symbol ts) ts := by
  change (atNameAndMark symbol ts >>= fun r => f r.1 r.2) = _
  rw [atNameAndMark_eq]
  rfl

/-- A name in front of a symbol is looked for by a reader that takes tokens in any case. -/
theorem takes_lookingForName (hf : ∀ o, Takes s P (f o))
    (hs : ∀ a used, P a used → (s.Sees (·.isMark symbol) ∧ used ≠ []) ∨ 2 ≤ used.length) :
    Takes s P (atNameAndMark symbol >>= f) := by
  intro ts a rest h
  rw [atNameAndMark_bind_eq] at h
  obtain ⟨used, rfl, hP, hrest⟩ := hf _ ts a rest h
  refine ⟨used, rfl, hP, fun rest' hagree => ?_⟩
  rw [atNameAndMark_bind_eq, ← nameBefore_append_eq (hs a used hP) hagree]
  exact hrest rest' hagree

/-- A name and the symbol behind it are taken, or something else is read. -/
theorem takes_nameAndMark {x : String → Reading α}
    (hsome : ∀ id, f (some id) = advance >>= fun _ => advance >>= fun _ => x id)
    (hx : ∀ id, Takes s (fun a used => P a (.name id :: .mark symbol :: used)) (x id))
    (hnone : Takes s P (f none)) (hs : s.Sees (·.isMark symbol))
    (hne : ∀ a used, P a used → used ≠ []) : Takes s P (atNameAndMark symbol >>= f) := by
  intro ts a rest h
  rw [atNameAndMark_bind_eq] at h
  cases hbefore : nameBefore symbol ts with
  | none =>
      rw [hbefore] at h
      obtain ⟨used, rfl, hP, hrest⟩ := hnone ts a rest h
      refine ⟨used, rfl, hP, fun rest' hagree => ?_⟩
      rw [atNameAndMark_bind_eq, ← nameBefore_append_eq (.inl ⟨hs, hne a used hP⟩) hagree,
        hbefore]
      exact hrest rest' hagree
  | some id =>
      obtain ⟨ts, rfl⟩ := exists_of_nameBefore_eq_some hbefore
      rw [hbefore, hsome] at h
      obtain ⟨used, rfl, hP, hrest⟩ := hx id ts a rest h
      refine ⟨.name id :: .mark symbol :: used, rfl, hP, fun rest' hagree => ?_⟩
      have hbefore' : nameBefore symbol (.name id :: .mark symbol :: used ++ rest') = some id := by
        simp [nameBefore, Token.isMark]
      rw [atNameAndMark_bind_eq, hbefore', hsome]
      exact hrest rest' hagree

end Names

/-! ## Items with commas between them -/

/-- The items behind the first one: perhaps there is a comma at their end, but no two. -/
structure Items (ts : List Token) : Prop where
  nesting : nesting ts = 0
  comma : ∃ us, Bare us ∧ (ts = us ∨ ts = us ++ [.mark ","])

theorem items_nil : Items [] := ⟨rfl, [], bare_nil, .inl rfl⟩

theorem items_comma : Items [.mark ","] := ⟨rfl, [], bare_nil, .inr rfl⟩

theorem Items.behind {ts us : List Token} (hus : Items us) (hts : Phrase ts) :
    Items (ts ++ us) := by
  obtain ⟨hnesting, us', hbare, hcomma⟩ := hus
  refine ⟨by rw [nesting_append, hts.span.nesting, hnesting]; rfl, ts ++ us',
    hts.span.bare.append hbare, ?_⟩
  rw [List.append_assoc]
  exact hcomma.imp (congrArg (ts ++ ·)) (congrArg (ts ++ ·))

/-- Items are read up to an end that may stand behind a comma. -/
theorem takes_items {α : Type} {s : Sight} {item : Reading α} {atEnd : Reading Bool}
    {p : Token → Bool} (hend : Looks p atEnd) (hitem : Takes s (fun _ => Phrase) item) :
    Takes .token (fun _ => Items) (repeated (do
      if ← accept "," then
        if ← atEnd then pure none else return some (← item)
      else pure none)) := by
  let P : Option α → List Token → Prop := fun o used =>
    (o = none ∧ (used = [] ∨ used = [.mark ","])) ∨ Phrase used
  have hstep : Takes .token P (do
      if ← accept "," then
        if ← atEnd then pure none else return some (← item)
      else pure none) := by
    refine (accepts_accept ",").takes_ite (fun t ht => ?_) (takes_pure (.inl ⟨rfl, .inl rfl⟩))
      (.inl (sees_token _))
    obtain rfl := Token.eq_mark_of_isMark ht
    refine hend.takes_ite (takes_pure (.inl ⟨rfl, .inr rfl⟩)) ?_ (.inl (sees_token _))
    exact hitem.toToken.map fun _ used hused => .inr (hused.cons rfl)
  refine hstep.repeated ?_ ?_ ?_
  · rintro a used (⟨h, -⟩ | h)
    · cases h
    · exact h.ne_nil
  · rintro used (⟨-, rfl | rfl⟩ | h)
    · exact items_nil
    · exact items_comma
    · exact ⟨h.span.nesting, used, h.span.bare, .inl rfl⟩
  · rintro a as used used' (⟨h, -⟩ | h) hitems
    · cases h
    · exact hitems.behind h

/-- Items up to and with the bracket that closes them. -/
theorem takes_itemsClosed {α : Type} {items : Reading (List α)} {close : String}
    (hclose : (Token.mark close).opens = -1) (h : Takes .token (fun _ => Items) items) :
    Takes .nothing (fun _ => Closing) (do
      let as ← items
      expect close
      pure as) :=
  h.thenClosing (fun _ _ h => h.nesting) fun as => takes_closing hclose as

/-! ## Phrases one behind the other -/

/-- What a step takes that answers with a phrase, or takes nothing. -/
def PhraseOrNothing {α : Type} (o : Option α) (used : List Token) : Prop :=
  (o = none ∧ used = []) ∨ Phrase used

theorem takes_repeatedPhrases {α : Type} {s : Sight} {step : Reading (Option α)}
    (h : Takes s PhraseOrNothing step) : Takes s (fun _ => Span 0) (repeated step) := by
  refine h.repeated ?_ ?_ ?_
  · rintro a used (⟨h, -⟩ | h)
    · cases h
    · exact h.ne_nil
  · rintro used (⟨-, rfl⟩ | h)
    · exact ⟨rfl, bare_nil⟩
    · exact h.span
  · rintro a as used used' (⟨h, -⟩ | h) hspan
    · cases h
    · exact h.span.append hspan

/-- Phrases, each behind a token that is asked for. -/
theorem takes_repeatedBehind {α : Type} {p : Token → Bool} {question : Reading Bool}
    {operand : Reading α} (hq : Accepts p question) (hp : ∀ t, p t = true → t.opens = 0)
    (hs : Sight.stops.Sees p) (ho : Takes .stops (fun _ => Phrase) operand) :
    Takes .stops (fun _ => Span 0) (repeated (do
      if ← question then return some (← operand) else pure none)) := by
  refine takes_repeatedPhrases (hq.takes_ite (fun t ht => ?_) (takes_pure (.inl ⟨rfl, rfl⟩))
    (.inl hs))
  exact ho.map fun _ used hused => .inr (hused.cons (hp t ht))

namespace Readers

/-- The readers of nested parts take phrases. -/
structure TakePhrases (r : Readers) : Prop where
  expression : Takes .stops (fun _ => Phrase) r.expression
  disjunction : Takes .stops (fun _ => Phrase) r.disjunction
  inversion : Takes .stops (fun _ => Phrase) r.inversion
  bitOr : Takes .stops (fun _ => Phrase) r.bitOr
  factor : Takes .stops (fun _ => Phrase) r.factor
  primary : Takes .stops (fun _ => Phrase) r.primary

variable {r : Readers} (hr : r.TakePhrases)

include hr

/-! ## Items and targets -/

theorem TakePhrases.named : Takes .stops (fun _ => Phrase) r.named := by
  refine takes_nameAndMark (fun _ => rfl) (fun id => ?_) hr.expression (sees_stops rfl rfl)
    fun _ _ h => h.ne_nil
  exact hr.expression.map fun _ used hused => (hused.cons rfl).cons rfl

theorem TakePhrases.starNamed : Takes .stops (fun _ => Phrase) r.starNamed := by
  refine (accepts_accept "*").takes_ite (fun t ht => ?_) hr.named (.inl (sees_stops rfl rfl))
  exact hr.bitOr.map fun _ used hused => hused.cons (Token.opens_of_isMark ht)

theorem TakePhrases.itemsUntil {close : String} (hclose : (Token.mark close).opens = -1) :
    Takes .nothing (fun _ => Closing) (r.itemsUntil close) :=
  takes_itemsClosed hclose (takes_items (looks_atMark close) hr.starNamed)

theorem TakePhrases.target : Takes .stops (fun _ => Phrase) r.target := by
  refine ((accepts_accept "*").takes (sees_token _)).thenPhrase (fun yes used h => ?_)
    fun starred => ?_
  · exact Accepts.opens_eq_zero (fun _ => Token.opens_of_isMark) h
  refine hr.primary.bind (R := fun _ _ used => used = []) (fun t _ _ => ?_) ?_
  · split
    · exact takes_pure rfl
    · exact takes_refuse
  · rintro t b used used' hused rfl
    rwa [List.append_nil]

theorem TakePhrases.targets : Takes .token (fun _ used => nesting used = 0) r.targets := by
  refine hr.target.toToken.bind (R := fun _ _ used => nesting used = 0) (fun first _ _ => ?_) ?_
  · refine (looks_atMark ",").takes_ite ?_ ?_ (.inl (sees_token _))
    · refine (takes_items (looks_atKeyword "in") hr.target).bind
        (R := fun _ _ used => used = []) (fun rest _ _ => ?_) ?_
      · dsimp only
        split
        · exact takes_pure rfl
        · exact takes_refuse
      · rintro rest t used used' hused rfl
        rw [List.append_nil]
        exact hused.nesting
    · split
      · exact takes_refuse
      · exact takes_pure rfl
  · intro first t used used' hused hused'
    rw [nesting_append, hused.span.nesting, hused']
    rfl

/-! ## Comprehensions -/

theorem TakePhrases.clause : Takes .stops (fun _ => Phrase) r.clause := by
  have hconditions : Takes .stops (fun _ => Span 0) (repeated (do
      if ← acceptKeyword "if" then return some (← r.disjunction) else pure none)) :=
    takes_repeatedBehind (accepts_acceptKeyword "if") (fun _ => Token.opens_of_isKeyword)
      (sees_keyword "if") hr.disjunction
  refine ((accepts_acceptKeyword "async").takes (sees_token _)).thenPhrase (fun yes used h => ?_)
    fun isAsync => ?_
  · exact Accepts.opens_eq_zero (fun _ => Token.opens_of_isKeyword) h
  refine (takes_expectKeyword "for").thenPhrase (by rintro _ _ rfl; rfl) fun _ => ?_
  refine hr.targets.thenPhrase (fun _ _ h => h) fun target => ?_
  refine (takes_expectKeyword "in").thenPhrase (by rintro _ _ rfl; rfl) fun _ => ?_
  refine hr.disjunction.bind (R := fun _ _ => Span 0) (fun iterable _ _ => ?_)
    fun _ _ used used' hused hused' => hused.append_span hused'
  exact hconditions.map fun _ _ h => h

theorem TakePhrases.clauses : Takes .stops (fun _ => Span 0) r.clauses := by
  refine takes_repeatedPhrases (looks_atClause.takes_ite ?_ (takes_pure (.inl ⟨rfl, rfl⟩))
    (.inl (sees_stops rfl rfl)))
  exact hr.clause.map fun _ _ h => .inr h

theorem TakePhrases.comprehension (kind : ComprehensionKind) (element : Tree) {close : String}
    (hclose : (Token.mark close).opens = -1) :
    Takes .nothing (fun _ => Closing) (r.comprehension kind element close) := by
  unfold Readers.comprehension
  split
  · exact takes_refuse
  · exact hr.clauses.thenClosing (fun _ _ h => h.nesting) fun clauses => takes_closing hclose _

/-! ## Displays -/

theorem TakePhrases.yielded : Takes .token (fun _ used => nesting used = 0) r.yielded := by
  have hitem : Takes .stops (fun _ => Phrase) (do
      if ← accept "*" then return .star (← r.bitOr) else r.expression) := by
    refine (accepts_accept "*").takes_ite (fun t ht => ?_) hr.expression
      (.inl (sees_stops rfl rfl))
    exact hr.bitOr.map fun _ used hused => hused.cons (Token.opens_of_isMark ht)
  refine (accepts_acceptKeyword "from").takes_ite (fun t ht => ?_) ?_ (.inl (sees_token _))
  · refine hr.expression.toToken.map fun _ used hused => ?_
    rw [nesting_cons, Token.opens_of_isKeyword ht, hused.span.nesting]
    rfl
  refine (looks_atMark ")").takes_ite (takes_pure rfl) ?_ (.inl (sees_token _))
  refine hitem.toToken.bind (R := fun _ _ used => nesting used = 0) (fun first _ _ => ?_) ?_
  · refine (looks_atMark ",").takes_ite ?_ (takes_pure rfl) (.inl (sees_token _))
    exact (takes_items (looks_atMark ")") hitem).map fun _ _ h => h.nesting
  · intro _ _ used used' hused hused'
    rw [nesting_append, hused.span.nesting, hused']
    rfl

theorem TakePhrases.parenthesized : Takes .nothing (fun _ => Closing) r.parenthesized := by
  have hne : ∀ (a : Tree) (used : List Token), Closing used → used ≠ [] :=
    fun _ _ h => h.ne_nil (by decide)
  refine (accepts_accept ")").takes_ite (fun t ht => takes_pure ?_) ?_ (.inr hne)
  · exact closing_singleton (Token.opens_of_isMark ht)
  refine (accepts_acceptKeyword "yield").takes_ite (fun t ht => ?_) ?_ (.inr hne)
  · refine Takes.imp (P := fun _ => Closing) ?_
      fun _ used hused => hused.closing_cons (Token.opens_of_isKeyword ht)
    exact hr.yielded.thenClosing (fun _ _ h => h) fun t => takes_closing rfl t
  refine hr.starNamed.phraseThenClosing fun first => ?_
  refine (looks_atMark ",").takes_ite ?_ ?_ (.inr hne)
  · exact (hr.itemsUntil rfl).map fun _ _ h => h
  refine looks_atClause.takes_ite (hr.comprehension .generator first rfl) ?_ (.inr hne)
  refine (takes_expect ")").bind (R := fun _ _ used => used = []) (fun _ _ _ => ?_) ?_
  · split
    · exact takes_refuse
    · exact takes_pure rfl
  · rintro _ _ used used' rfl rfl
    exact closing_singleton rfl

theorem TakePhrases.bracketed : Takes .nothing (fun _ => Closing) r.bracketed := by
  have hne : ∀ (a : Tree) (used : List Token), Closing used → used ≠ [] :=
    fun _ _ h => h.ne_nil (by decide)
  refine (accepts_accept "]").takes_ite (fun t ht => takes_pure ?_) ?_ (.inr hne)
  · exact closing_singleton (Token.opens_of_isMark ht)
  refine hr.starNamed.phraseThenClosing fun first => ?_
  refine looks_atClause.takes_ite (hr.comprehension .list first rfl) ?_ (.inr hne)
  exact (hr.itemsUntil rfl).map fun _ _ h => h

theorem TakePhrases.dictEntry : Takes .stops (fun _ => Phrase) r.dictEntry := by
  refine (accepts_accept "**").takes_ite (fun t ht => ?_) ?_ (.inl (sees_stops rfl rfl))
  · exact hr.bitOr.map fun _ used hused => hused.cons (Token.opens_of_isMark ht)
  refine hr.expression.thenPhrase (fun _ _ h => h.span.nesting) fun key => ?_
  refine (takes_expect ":").thenPhrase (by rintro _ _ rfl; rfl) fun _ => ?_
  exact hr.expression.map fun _ _ h => h

theorem TakePhrases.entriesUntil : Takes .nothing (fun _ => Closing) r.entriesUntil :=
  takes_itemsClosed rfl (takes_items (looks_atMark "\x7d") hr.dictEntry)

theorem TakePhrases.braced : Takes .nothing (fun _ => Closing) r.braced := by
  have hne : ∀ (a : Tree) (used : List Token), Closing used → used ≠ [] :=
    fun _ _ h => h.ne_nil (by decide)
  have hentries : ∀ e, Takes .nothing (fun _ => Closing)
      (r.entriesUntil >>= fun es => pure (Tree.dict (e :: es))) :=
    fun e => hr.entriesUntil.map fun _ _ h => h
  refine (accepts_accept "\x7d").takes_ite (fun t ht => takes_pure ?_) ?_ (.inr hne)
  · exact closing_singleton (Token.opens_of_isMark ht)
  refine (looks_atMark "**").takes_ite ?_ ?_ (.inr hne)
  · exact hr.dictEntry.phraseThenClosing hentries
  refine Takes.imp (P := fun _ used => Closing used ∧ 2 ≤ used.length) ?_ fun _ _ h => h.1
  refine takes_lookingForName (fun o => ?_) fun _ _ h => .inr h.2
  refine hr.starNamed.toToken.before (R := fun _ _ => Closing) (fun first _ _ => ?_)
    (fun _ _ _ h => h.ne_nil (by decide)) fun _ _ used used' hused hused' => ?_
  · have helse : Takes .nothing (fun _ => Closing) (do
        if ← atClause then r.comprehension .set first "\x7d"
        else return .set (first :: (← r.itemsUntil "\x7d"))) :=
      looks_atClause.takes_ite (hr.comprehension .set first rfl)
        ((hr.itemsUntil rfl).map fun _ _ h => h) (.inr hne)
    cases o.isSome || isStar first with
    | true => exact (looks_atMark ":").takes_ite takes_refuse helse (.inr hne)
    | false =>
        refine (looks_atMark ":").takes_advance (fun t ht => ?_) helse (.inr hne)
        refine Takes.imp (P := fun _ => Closing) ?_
          fun _ used hused => hused.closing_cons (Token.opens_of_isMark ht)
        refine hr.expression.phraseThenClosing fun value => ?_
        exact looks_atClause.takes_ite (hr.comprehension .dict _ rfl) (hentries _) (.inr hne)
  · refine ⟨hused'.closing_behind hused.span.nesting, ?_⟩
    have hpos := List.length_pos_iff.mpr hused.ne_nil
    have hpos' := List.length_pos_iff.mpr (hused'.ne_nil (by decide))
    rw [List.length_append]
    omega

/-! ## Atoms -/

omit hr in
theorem takes_texts : Takes .stops
    (fun _ used => ∀ t ∈ used, texts.isText t = true) texts := by
  intro ts a rest h
  obtain ⟨rfl, rfl⟩ := Prod.mk.inj (Option.some.inj h)
  have hused : ∀ t ∈ ts.takeWhile texts.isText, texts.isText t = true :=
    List.all_eq_true.mp List.all_takeWhile
  refine ⟨ts.takeWhile texts.isText, (List.takeWhile_append_dropWhile ..).symm, hused, ?_⟩
  intro rest' hagree
  have hrest : begins texts.isText rest' = false := by
    have hsees : Sight.stops.Sees texts.isText := sees_stops rfl rfl
    rw [← hsees _ _ hagree]
    cases hdrop : ts.dropWhile texts.isText with
    | nil => rfl
    | cons t us =>
        have hhead := List.head?_dropWhile_not texts.isText ts
        simpa [hdrop] using hhead
  have htake : rest'.takeWhile texts.isText = [] ∧ rest'.dropWhile texts.isText = rest' := by
    cases rest' with
    | nil => exact ⟨rfl, rfl⟩
    | cons t us =>
        have ht : texts.isText t = false := hrest
        simp [ht]
  have heq : texts (ts.takeWhile texts.isText ++ rest')
      = some (((ts.takeWhile texts.isText ++ rest').takeWhile texts.isText).filterMap texts.text?,
          (ts.takeWhile texts.isText ++ rest').dropWhile texts.isText) := rfl
  rw [heq, List.takeWhile_append_of_pos hused, List.dropWhile_append_of_pos hused, htake.1,
    htake.2, List.append_nil]

omit hr in
theorem span_texts {ts : List Token} (h : ∀ t ∈ ts, texts.isText t = true) :
    Span 0 ts := by
  induction ts with
  | nil => exact ⟨rfl, bare_nil⟩
  | cons t ts ih =>
      have ht := h t List.mem_cons_self
      have hspan : Span 0 [t] := by
        cases t with
        | text literal => exact ⟨rfl, by simp [Bare]⟩
        | _ => cases ht
      exact hspan.append (ih fun u hu => h u (List.mem_cons_of_mem t hu))

omit hr in
theorem takes_wordAtom (word : String) : Takes .nothing (fun _ used => used = [])
    (wordAtom word) := by
  unfold wordAtom
  split
  case h_4 => exact takes_refuse
  all_goals exact takes_pure rfl

theorem TakePhrases.symbolAtom (symbol : String) :
    Takes .nothing (fun _ used => Phrase (.mark symbol :: used)) (r.symbolAtom symbol) := by
  unfold Readers.symbolAtom
  split
  · exact hr.parenthesized.imp fun _ _ h => h.phrase_of_opening rfl
  · exact hr.bracketed.imp fun _ _ h => h.phrase_of_opening rfl
  · exact hr.braced.imp fun _ _ h => h.phrase_of_opening rfl
  · exact takes_pure (phrase_singleton rfl (by simp))
  · exact takes_refuse

omit hr in
theorem takes_textAtom (literal : TextLiteral) : Takes .stops (fun _ => Span 0) (do
    let literals ← texts
    r.textAtom (literal :: literals)) := by
  refine takes_texts.bind (R := fun _ _ used => used = []) (fun literals _ _ => ?_) ?_
  · unfold Readers.textAtom
    split
    · exact takes_pure rfl
    · exact takes_refuse
  · rintro literals _ used used' hused rfl
    rw [List.append_nil]
    exact span_texts hused

theorem TakePhrases.atom : Takes .stops (fun _ => Phrase) r.atom := by
  intro ts a rest h
  rcases ts with _ | ⟨t, ts⟩
  · cases h
  cases t with
  | name id =>
      obtain ⟨rfl, rfl⟩ := Prod.mk.inj (Option.some.inj h)
      exact ⟨[.name id], rfl, phrase_singleton rfl (by simp), fun _ _ => rfl⟩
  | number c =>
      obtain ⟨rfl, rfl⟩ := Prod.mk.inj (Option.some.inj h)
      exact ⟨[.number c], rfl, phrase_singleton rfl (by simp), fun _ _ => rfl⟩
  | text literal =>
      obtain ⟨used, rfl, hused, hrest⟩ := takes_textAtom (r := r) literal ts a rest h
      have hfirst : Phrase [Token.text literal] := phrase_singleton rfl (by simp)
      exact ⟨.text literal :: used, rfl, hfirst.append_span hused, hrest⟩
  | keyword w =>
      obtain ⟨used, rfl, rfl, hrest⟩ := takes_wordAtom w ts a rest h
      exact ⟨[.keyword w], rfl, phrase_singleton rfl (by simp), fun rest' _ => hrest rest' trivial⟩
  | mark s =>
      obtain ⟨used, rfl, hused, hrest⟩ := hr.symbolAtom s ts a rest h
      exact ⟨.mark s :: used, rfl, hused, fun rest' _ => hrest rest' trivial⟩
  | newline => cases h

/-! ## Arguments -/

theorem TakePhrases.argument (phase : ArgumentPhase) :
    Takes .stops (fun _ => Phrase) (r.argument phase) := by
  refine (accepts_accept "**").takes_ite (fun t ht => ?_) ?_ (.inl (sees_stops rfl rfl))
  · exact hr.expression.map fun _ used hused => hused.cons (Token.opens_of_isMark ht)
  refine (accepts_accept "*").takes_ite (fun t ht => ?_) ?_ (.inl (sees_stops rfl rfl))
  · split
    · exact takes_refuse
    · exact hr.expression.map fun _ used hused => hused.cons (Token.opens_of_isMark ht)
  refine takes_nameAndMark (fun _ => rfl) (fun id => ?_) ?_ (sees_stops rfl rfl)
    fun _ _ h => h.ne_nil
  · exact hr.expression.map fun _ used hused => (hused.cons rfl).cons rfl
  · dsimp only
    split
    · exact hr.named.map fun _ _ h => h
    · exact takes_refuse

theorem TakePhrases.argumentsFrom (n : Nat) (phase : ArgumentPhase) :
    Takes .nothing (fun _ => Closing) (r.argumentsFrom n phase) := by
  have hne : ∀ (a : List CallArgument) (used : List Token), Closing used → used ≠ [] :=
    fun _ _ h => h.ne_nil (by decide)
  induction n generalizing phase with
  | zero => exact takes_refuse
  | succ n ih =>
      refine (accepts_accept ")").takes_ite (fun t ht => takes_pure ?_) ?_ (.inr hne)
      · exact closing_singleton (Token.opens_of_isMark ht)
      refine (hr.argument phase).phraseThenClosing fun first => ?_
      refine (accepts_accept ",").takes_ite (fun t ht => ?_) (takes_closing rfl _) (.inr hne)
      exact (ih first.2).map fun _ used hused => hused.closing_cons (Token.opens_of_isMark ht)

theorem TakePhrases.argumentsFrom_unbounded : Unbounded r.argumentsFrom := by
  intro n
  induction n with
  | zero =>
      intro phase ts hts
      obtain rfl := List.length_eq_zero_iff.mp (Nat.le_zero.mp hts)
      cases h : r.argumentsFrom (0 + 1) phase [] with
      | none => rfl
      | some p =>
          have hlt := (hr.argumentsFrom 1 phase).length_lt (fun _ _ h => h.ne_nil (by decide)) h
          exact absurd hlt (Nat.not_lt_zero _)
  | succ n ih =>
      intro phase ts hts
      refine (accepts_accept ")").ite_congr (fun _ _ => rfl) ?_
      refine Reading.bind_congr fun first mid hfirst => ?_
      have hmid : mid.length < ts.length :=
        (hr.argument phase).length_lt (fun _ _ h => h.ne_nil) hfirst
      refine (accepts_accept ",").ite_congr (fun us hus => ?_) rfl
      exact Reading.bind_congr_left (ih first.2 us (by omega)) _

theorem TakePhrases.arguments : Takes .nothing (fun _ => Closing) r.arguments := by
  have hne : ∀ (a : List CallArgument) (used : List Token), Closing used → used ≠ [] :=
    fun _ _ h => h.ne_nil (by decide)
  refine (accepts_accept ")").takes_ite (fun t ht => takes_pure ?_) ?_ (.inr hne)
  · exact closing_singleton (Token.opens_of_isMark ht)
  refine (hr.argument .positional).phraseThenClosing fun first => ?_
  refine looks_atClause.takes (fun yes => ?_) (.inr hne)
  obtain ⟨first, phase⟩ := first
  cases yes with
  | true =>
      cases first with
      | positional element =>
          exact (hr.comprehension .generator element rfl).map fun _ _ h => h
      | _ => exact takes_refuse
  | false =>
      have hothers : Takes .nothing (fun _ => Closing) (do
          if ← accept "," then return first :: (← r.argumentsFrom (← remaining) phase)
          else
            expect ")"
            pure [first]) := by
        refine (accepts_accept ",").takes_ite (fun t ht => ?_) (takes_closing rfl _) (.inr hne)
        exact (hr.argumentsFrom_unbounded.takes_remaining (a := phase)
          fun n => hr.argumentsFrom n phase).map
            fun _ used hused => hused.closing_cons (Token.opens_of_isMark ht)
      cases first <;> exact hothers

/-! ## Subscripts -/

theorem TakePhrases.sliceBound : Takes .token (fun _ => Span 0) r.sliceBound := by
  refine (looks_atMark ":").takes (fun colon => ?_) (.inl (sees_token _))
  refine (looks_atMark ",").takes (fun comma => ?_) (.inl (sees_token _))
  refine (looks_atMark "]").takes (fun close => ?_) (.inl (sees_token _))
  split
  · exact takes_pure ⟨rfl, bare_nil⟩
  · exact hr.expression.toToken.map fun _ _ h => h.span

theorem TakePhrases.sliceFrom (start : Option Tree) :
    Takes .token (fun _ => Span 0) (r.sliceFrom start) := by
  refine hr.sliceBound.bind (R := fun _ _ => Span 0) (fun stop _ _ => ?_)
    fun _ _ used used' hused hused' => hused.append hused'
  refine (accepts_accept ":").takes_ite (fun t ht => ?_) (takes_pure ⟨rfl, bare_nil⟩)
    (.inl (sees_token _))
  obtain rfl := Token.eq_mark_of_isMark ht
  have hcolon : Span 0 [Token.mark ":"] := (phrase_singleton rfl (by simp)).span
  exact hr.sliceBound.map fun _ used hused => hcolon.append hused

theorem TakePhrases.sliceItem : Takes .token (fun _ => Phrase) r.sliceItem := by
  have hcolon : Phrase [Token.mark ":"] := phrase_singleton rfl (by simp)
  refine (accepts_accept "*").takes_ite (fun t ht => ?_) ?_ (.inl (sees_token _))
  · exact hr.expression.toToken.map fun _ used hused => hused.cons (Token.opens_of_isMark ht)
  refine (accepts_accept ":").takes_ite (fun t ht => ?_) ?_ (.inl (sees_token _))
  · obtain rfl := Token.eq_mark_of_isMark ht
    exact (hr.sliceFrom none).imp fun _ used hused => hcolon.append_span hused
  refine takes_lookingForName (fun o => ?_) fun _ _ h => .inl ⟨sees_token _, h.ne_nil⟩
  refine hr.named.toToken.bind (R := fun _ _ => Span 0) (fun first _ _ => ?_)
    fun _ _ used used' hused hused' => hused.append_span hused'
  have hend : Takes .token (fun _ => Span 0) (pure first : Reading Tree) :=
    takes_pure ⟨rfl, bare_nil⟩
  cases o.isSome with
  | true => exact (looks_atMark ":").takes_ite takes_refuse hend (.inl (sees_token _))
  | false =>
      refine (looks_atMark ":").takes_advance (fun t ht => ?_) hend (.inl (sees_token _))
      obtain rfl := Token.eq_mark_of_isMark ht
      exact (hr.sliceFrom (some first)).imp fun _ used hused => hcolon.span.append hused

theorem TakePhrases.subscriptIndex : Takes .nothing (fun _ => Closing) r.subscriptIndex := by
  have hne : ∀ (a : Tree) (used : List Token), Closing used → used ≠ [] :=
    fun _ _ h => h.ne_nil (by decide)
  refine hr.sliceItem.phraseThenClosing fun first => ?_
  refine (looks_atMark ",").takes_ite ?_ (takes_closing rfl _) (.inr hne)
  exact (takes_items (looks_atMark "]") hr.sliceItem).thenClosing (fun _ _ h => h.nesting)
    fun rest => takes_closing rfl _

/-! ## Accesses -/

theorem TakePhrases.accesses (n : Nat) (t : Tree) :
    Takes .stops (fun _ => Span 0) (r.accesses n t) := by
  induction n generalizing t with
  | zero => exact takes_pure ⟨rfl, bare_nil⟩
  | succ n ih =>
      refine (accepts_accept ".").takes_ite (fun t' ht => ?_) ?_ (.inl (sees_stops rfl rfl))
      · obtain rfl := Token.eq_mark_of_isMark ht
        refine takes_name.ofNothing.bind (R := fun _ _ => Span 0) (fun field _ _ => ih _) ?_
        rintro field _ used used' rfl hused'
        exact ((phrase_singleton (t := .name field) rfl (by simp)).cons rfl).span.append hused'
      refine (accepts_accept "(").takes_ite (fun t' ht => ?_) ?_ (.inl (sees_stops rfl rfl))
      · refine hr.arguments.ofNothing.bind (R := fun _ _ => Span 0) (fun _ _ _ => ih _) ?_
        intro _ _ used used' hused hused'
        exact (hused.phrase_of_opening (Token.opens_of_isMark ht)).span.append hused'
      refine (accepts_accept "[").takes_ite (fun t' ht => ?_) (takes_pure ⟨rfl, bare_nil⟩)
        (.inl (sees_stops rfl rfl))
      refine hr.subscriptIndex.ofNothing.bind (R := fun _ _ => Span 0) (fun _ _ _ => ih _) ?_
      intro _ _ used used' hused hused'
      exact (hused.phrase_of_opening (Token.opens_of_isMark ht)).span.append hused'

theorem TakePhrases.accesses_unbounded : Unbounded r.accesses := by
  intro n
  induction n with
  | zero =>
      intro t ts hts
      obtain rfl := List.length_eq_zero_iff.mp (Nat.le_zero.mp hts)
      rfl
  | succ n ih =>
      intro t ts hts
      refine (accepts_accept ".").ite_congr (fun us hus => ?_) ?_
      · refine Reading.bind_congr fun field rest h => ih _ rest ?_
        have hrest := takes_name.length_le h
        omega
      refine (accepts_accept "(").ite_congr (fun us hus => ?_) ?_
      · refine Reading.bind_congr fun arguments rest h => ih _ rest ?_
        have hrest := hr.arguments.length_le h
        omega
      refine (accepts_accept "[").ite_congr (fun us hus => ?_) rfl
      refine Reading.bind_congr fun index rest h => ih _ rest ?_
      have hrest := hr.subscriptIndex.length_le h
      omega

theorem TakePhrases.primaryHere : Takes .stops (fun _ => Phrase) r.primaryHere := by
  refine hr.atom.bind (R := fun _ _ => Span 0) (fun first _ _ => ?_)
    fun _ _ used used' hused hused' => hused.append_span hused'
  refine looks_atAccess.takes_ite ?_ (takes_pure ⟨rfl, bare_nil⟩) (.inl (sees_stops rfl rfl))
  exact hr.accesses_unbounded.takes_remaining fun n => hr.accesses n first

/-! ## Operators -/

theorem TakePhrases.powerHere : Takes .stops (fun _ => Phrase) r.powerHere := by
  refine Takes.bind (P := fun _ => Phrase) (R := fun _ _ => Span 0) ?_ (fun base _ _ => ?_)
    fun _ _ used used' hused hused' => hused.append_span hused'
  · refine (accepts_acceptKeyword "await").takes_ite (fun t ht => ?_) hr.primaryHere
      (.inl (sees_keyword _))
    exact hr.primaryHere.map fun _ used hused => hused.cons (Token.opens_of_isKeyword ht)
  · refine (accepts_accept "**").takes_ite (fun t ht => ?_) (takes_pure ⟨rfl, bare_nil⟩)
      (.inl (sees_stops rfl rfl))
    exact hr.factor.map fun _ used hused => (hused.cons (Token.opens_of_isMark ht)).span

theorem TakePhrases.factorHere : Takes .stops (fun _ => Phrase) r.factorHere := by
  refine (accepts_accept "-").takes_ite (fun t ht => ?_) ?_ (.inl (sees_stops rfl rfl))
  · exact hr.factor.map fun _ used hused => hused.cons (Token.opens_of_isMark ht)
  refine (accepts_accept "+").takes_ite (fun t ht => ?_) ?_ (.inl (sees_stops rfl rfl))
  · exact hr.factor.map fun _ used hused => hused.cons (Token.opens_of_isMark ht)
  refine (accepts_accept "~").takes_ite (fun t ht => ?_) hr.powerHere (.inl (sees_stops rfl rfl))
  exact hr.factor.map fun _ used hused => hused.cons (Token.opens_of_isMark ht)

omit hr in
/-- Operands, each behind an operator. -/
theorem takes_repeatedOperands {α β ω : Type} {operator : Reading (Option ω)} {operand : Reading α}
    {g : ω → α → β} {step : Reading (Option β)}
    (hstep : step = operator >>= fun o =>
      o.elim (pure none) fun op => operand >>= fun a => pure (some (g op a)))
    (hop : Takes .stops (fun o used => nesting used = 0 ∧ (o = none → used = [])) operator)
    (ho : Takes .stops (fun _ => Phrase) operand) :
    Takes .stops (fun _ => Span 0) (repeated step) := by
  rw [hstep]
  refine takes_repeatedPhrases (hop.bind (R := fun o o' used =>
    (o = none ∧ o' = none ∧ used = []) ∨ Phrase used) (fun o _ _ => ?_) ?_)
  · cases o with
    | none => exact takes_pure (.inl ⟨rfl, rfl, rfl⟩)
    | some op => exact ho.map fun _ _ h => .inr h
  · rintro o o' used used' ⟨hnesting, hnone⟩ (⟨rfl, rfl, rfl⟩ | hused')
    · exact .inl ⟨rfl, by rw [hnone rfl]; rfl⟩
    · exact .inr (hused'.behind hnesting)

/-- The tokens that are symbols with a meaning. -/
def isOperator {α : Type} (operator : String → Option α) : Token → Bool
  | .mark s => (operator s).isSome
  | _ => false

section Symbols

variable {α : Type} {operator : String → Option α} {us : List Token}

omit hr in
theorem acceptSymbol_of_eq_some {s : String} {op : α} (h : operator s = some op) :
    acceptSymbol operator (.mark s :: us) = some (some op, us) := by
  change (if (operator s).isSome then advance >>= fun _ => pure (operator s)
    else pure (operator s) : Reading (Option α)) (.mark s :: us) = _
  rw [h]
  rfl

omit hr in
theorem acceptSymbol_of_begins_eq_false (h : begins (isOperator operator) us = false) :
    acceptSymbol operator us = some (none, us) := by
  rcases us with _ | ⟨t, us⟩
  · rfl
  · cases t with
    | mark s =>
        have hs : operator s = none := by simpa [isOperator] using h
        change (if (operator s).isSome then advance >>= fun _ => pure (operator s)
          else pure (operator s) : Reading (Option α)) (.mark s :: us) = _
        rw [hs]
        rfl
    | _ => rfl

omit hr in
/-- Symbols with a meaning, none of which is a bracket or a comma. -/
theorem takes_acceptSymbol (hop : ∀ s, (operator s).isSome → (Token.mark s).opens = 0)
    (hcomma : operator "," = none) :
    Takes .stops (fun o used => nesting used = 0 ∧ (o = none → used = []))
      (acceptSymbol operator) := by
  have hclose : operator ")" = none := by
    cases h : operator ")" with
    | none => rfl
    | some op => exact absurd (hop ")" (by rw [h]; rfl)) (by decide)
  have hsees : Sight.stops.Sees (isOperator operator) :=
    sees_stops (by simp [isOperator, hcomma]) (by simp [isOperator, hclose])
  intro ts o rest h
  cases hbegins : begins (isOperator operator) ts with
  | false =>
      rw [acceptSymbol_of_begins_eq_false hbegins] at h
      obtain ⟨rfl, rfl⟩ := Prod.mk.inj (Option.some.inj h)
      refine ⟨[], rfl, ⟨rfl, fun _ => rfl⟩, fun rest' hagree => ?_⟩
      refine acceptSymbol_of_begins_eq_false ?_
      rw [List.nil_append, ← hsees _ _ hagree, hbegins]
  | true =>
      rcases ts with _ | ⟨t, ts⟩
      · cases hbegins
      cases t with
      | mark s =>
          obtain ⟨op, hs⟩ := Option.isSome_iff_exists.mp hbegins
          rw [acceptSymbol_of_eq_some hs] at h
          obtain ⟨rfl, rfl⟩ := Prod.mk.inj (Option.some.inj h)
          refine ⟨[.mark s], rfl, ⟨?_, by simp⟩, fun rest' _ => acceptSymbol_of_eq_some hs⟩
          rw [nesting_cons, hop s hbegins]
          rfl
      | _ => cases hbegins

end Symbols

omit hr in
theorem takes_leftAssociative {operator : String → Option BinaryOp} {operand : Reading Tree}
    (hop : ∀ s, (operator s).isSome → (Token.mark s).opens = 0) (hcomma : operator "," = none)
    (ho : Takes .stops (fun _ => Phrase) operand) :
    Takes .stops (fun _ => Phrase) (leftAssociative operator operand) := by
  refine ho.bind (R := fun _ _ => Span 0) (fun first _ _ => ?_)
    fun _ _ used used' hused hused' => hused.append_span hused'
  refine Takes.map (takes_repeatedOperands (g := Prod.mk) ?_
    (takes_acceptSymbol hop hcomma) ho) fun _ _ h => h
  exact congrArg _ (funext fun o => by cases o <;> rfl)

theorem TakePhrases.termHere : Takes .stops (fun _ => Phrase) r.termHere :=
  takes_leftAssociative (fun s h => by split at h <;> first | rfl | cases h) rfl hr.factorHere

theorem TakePhrases.sumHere : Takes .stops (fun _ => Phrase) r.sumHere :=
  takes_leftAssociative (fun s h => by split at h <;> first | rfl | cases h) rfl hr.termHere

theorem TakePhrases.shiftHere : Takes .stops (fun _ => Phrase) r.shiftHere :=
  takes_leftAssociative (fun s h => by split at h <;> first | rfl | cases h) rfl hr.sumHere

theorem TakePhrases.bitAndHere : Takes .stops (fun _ => Phrase) r.bitAndHere := by
  refine takes_leftAssociative (fun s h => ?_) rfl hr.shiftHere
  split at h
  next hs =>
    rw [hs]
    rfl
  next => cases h

theorem TakePhrases.bitXorHere : Takes .stops (fun _ => Phrase) r.bitXorHere := by
  refine takes_leftAssociative (fun s h => ?_) rfl hr.bitAndHere
  split at h
  next hs =>
    rw [hs]
    rfl
  next => cases h

theorem TakePhrases.bitOrHere : Takes .stops (fun _ => Phrase) r.bitOrHere := by
  refine takes_leftAssociative (fun s h => ?_) rfl hr.bitXorHere
  split at h
  next hs =>
    rw [hs]
    rfl
  next => cases h

omit hr in
theorem takes_comparisonOperator :
    Takes .stops (fun o used => nesting used = 0 ∧ (o = none → used = []))
      comparisonOperator := by
  have hopens : ∀ s, (comparisonSymbol? s).isSome → (Token.mark s).opens = 0 := by
    intro s h
    unfold comparisonSymbol? at h
    split at h <;> first | rfl | cases h
  have hsymbol := takes_acceptSymbol hopens rfl
  refine hsymbol.bind (R := fun o o' used =>
    nesting used = 0 ∧ (o' = none → o = none ∧ used = [])) (fun o _ _ => ?_) ?_
  · cases o with
    | some op => exact takes_pure ⟨rfl, by simp⟩
    | none =>
        refine (accepts_acceptKeyword "in").takes_ite (fun t ht => takes_pure ?_) ?_
          (.inl (sees_keyword _))
        · exact ⟨by simp [Token.opens_of_isKeyword ht], by simp⟩
        refine (accepts_acceptKeyword "not").takes_ite (fun t ht => ?_) ?_ (.inl (sees_keyword _))
        · refine (takes_expectKeyword "in").ofNothing.map ?_
          rintro _ used rfl
          exact ⟨by rw [nesting_cons, Token.opens_of_isKeyword ht]; rfl, by simp⟩
        refine (accepts_acceptKeyword "is").takes_ite (fun t ht => ?_)
          (takes_pure ⟨rfl, fun _ => ⟨rfl, rfl⟩⟩) (.inl (sees_keyword _))
        refine (accepts_acceptKeyword "not").takes_ite (fun t' ht' => takes_pure ?_)
          (takes_pure ?_) (.inl (sees_keyword _))
        · exact ⟨by simp [Token.opens_of_isKeyword ht, Token.opens_of_isKeyword ht'], by simp⟩
        · exact ⟨by simp [Token.opens_of_isKeyword ht], by simp⟩
  · rintro o o' used used' ⟨hnesting, hnone⟩ ⟨hnesting', hnone'⟩
    refine ⟨by rw [nesting_append, hnesting, hnesting']; rfl, fun h => ?_⟩
    obtain ⟨ho, rfl⟩ := hnone' h
    rw [hnone ho, List.append_nil]

theorem TakePhrases.comparisonHere : Takes .stops (fun _ => Phrase) r.comparisonHere := by
  refine hr.bitOrHere.bind (R := fun _ _ => Span 0) (fun first _ _ => ?_)
    fun _ _ used used' hused hused' => hused.append_span hused'
  refine Takes.map (takes_repeatedOperands (g := Comparison.mk) ?_
    takes_comparisonOperator hr.bitOrHere) fun _ _ h => h
  exact congrArg _ (funext fun o => by cases o <;> rfl)

theorem TakePhrases.inversionHere : Takes .stops (fun _ => Phrase) r.inversionHere := by
  refine (accepts_acceptKeyword "not").takes_ite (fun t ht => ?_) hr.comparisonHere
    (.inl (sees_keyword _))
  exact hr.inversion.map fun _ used hused => hused.cons (Token.opens_of_isKeyword ht)

omit hr in
theorem takes_connected {word : String} {join : List Tree → Tree} {operand : Reading Tree}
    (ho : Takes .stops (fun _ => Phrase) operand) :
    Takes .stops (fun _ => Phrase) (connected word join operand) := by
  refine ho.bind (R := fun _ _ => Span 0) (fun first _ _ => ?_)
    fun _ _ used used' hused hused' => hused.append_span hused'
  exact (takes_repeatedBehind (accepts_acceptKeyword word) (fun _ => Token.opens_of_isKeyword)
    (sees_keyword word) ho).map fun _ _ h => h

theorem TakePhrases.conjunctionHere : Takes .stops (fun _ => Phrase) r.conjunctionHere :=
  takes_connected hr.inversionHere

theorem TakePhrases.disjunctionHere : Takes .stops (fun _ => Phrase) r.disjunctionHere :=
  takes_connected hr.conjunctionHere

/-! ## Functions -/

omit hr in
theorem takes_parameterEnd : Takes .token (fun _ used => nesting used = 0) parameterEnd := by
  refine (accepts_accept ",").takes_ite (fun t ht => takes_pure ?_) ?_ (.inl (sees_token _))
  · rw [Token.eq_mark_of_isMark ht]
    rfl
  · exact (looks_atMark ":").takes_ite (takes_pure rfl) takes_refuse (.inl (sees_token _))

/-- A default value, if there is one. -/
theorem TakePhrases.default : Takes .token (fun _ used => nesting used = 0) (do
    if ← accept "=" then return some (← r.expression) else pure none) := by
  refine (accepts_accept "=").takes_ite (fun t ht => ?_) (takes_pure rfl) (.inl (sees_token _))
  exact hr.expression.toToken.map fun _ used hused =>
    (hused.cons (Token.opens_of_isMark ht)).span.nesting

theorem TakePhrases.parametersFrom (n : Nat) (s : ParameterState) (done : List Parameter) :
    Takes .token (fun _ used => nesting used = 0) (r.parametersFrom n s done) := by
  have hname : ∀ {β : Type} {f : String → Reading β},
      (∀ id, Takes .token (fun _ used => nesting used = 0) (f id)) →
      Takes .token (fun _ used => nesting used = 0) (Reading.name >>= f) :=
    fun hf => takes_name.ofNothing.closed (by rintro _ _ rfl; rfl) hf
  have hend : ∀ {β : Type} {f : Unit → Reading β},
      (∀ u, Takes .token (fun _ used => nesting used = 0) (f u)) →
      Takes .token (fun _ used => nesting used = 0) (parameterEnd >>= f) :=
    fun hf => takes_parameterEnd.closed (fun _ _ h => h) hf
  have hbehind : ∀ {symbol : String} {x : Reading (List Parameter)} (t : Token),
      (Token.mark symbol).opens = 0 → t.isMark symbol = true →
      Takes .token (fun _ used => nesting used = 0) x →
      Takes .token (fun _ used => nesting (t :: used) = 0) x := by
    intro symbol x t hopens ht hx
    refine hx.imp fun _ used hused => ?_
    rw [nesting_cons, Token.opens_of_isMark ht, hopens, hused]
    rfl
  induction n generalizing s done with
  | zero => exact takes_refuse
  | succ n ih =>
      refine (looks_atMark ":").takes_ite ?_ ?_ (.inl (sees_token _))
      · split
        · exact takes_refuse
        · exact takes_pure rfl
      refine (accepts_accept "/").takes_ite (fun t ht => hbehind t rfl ht ?_) ?_
        (.inl (sees_token _))
      · split
        · exact takes_refuse
        · exact hend fun _ => ih _ _
      refine (accepts_accept "**").takes_ite (fun t ht => hbehind t rfl ht ?_) ?_
        (.inl (sees_token _))
      · split
        · exact takes_refuse
        · refine hname fun id => hend fun _ => ?_
          exact (looks_atMark ":").takes_ite (takes_pure rfl) takes_refuse (.inl (sees_token _))
      refine (accepts_accept "*").takes_ite (fun t ht => hbehind t rfl ht ?_) ?_
        (.inl (sees_token _))
      · split
        · exact takes_refuse
        · refine (accepts_accept ",").takes_ite (fun t ht => hbehind t rfl ht (ih _ _)) ?_
            (.inl (sees_token _))
          exact hname fun id => hend fun _ => ih _ _
      refine hname fun id => hr.default.closed (fun _ _ h => h) fun value => hend fun _ => ?_
      split
      · exact ih _ _
      · split
        · exact takes_refuse
        · exact ih _ _

theorem TakePhrases.parametersFrom_unbounded :
    Unbounded fun n (p : ParameterState × List Parameter) => r.parametersFrom n p.1 p.2 := by
  have hend : ∀ {ts us : List Token} {u : Unit}, parameterEnd ts = some (u, us) →
      us.length ≤ ts.length := takes_parameterEnd.length_le
  have hname : ∀ {ts us : List Token} {id : String}, Reading.name ts = some (id, us) →
      us.length < ts.length :=
    takes_name.length_lt (by rintro _ _ rfl; exact List.cons_ne_nil _ _)
  intro n
  induction n with
  | zero =>
      intro p ts hts
      obtain rfl := List.length_eq_zero_iff.mp (Nat.le_zero.mp hts)
      rfl
  | succ n ih =>
      rintro ⟨s, done⟩ ts hts
      have hagain : ∀ s done us, us.length < ts.length →
          r.parametersFrom n s done us = r.parametersFrom (n + 1) s done us :=
        fun s done us hus => ih (s, done) us (by omega)
      refine Reading.bind_congr fun colon us hcolon => ?_
      obtain ⟨-, rfl⟩ := Prod.mk.inj (Option.some.inj ((looks_atMark ":" ts).symm.trans hcolon))
      refine Reading.ite_congr rfl ?_
      refine (accepts_accept "/").ite_congr (fun us hus => Reading.ite_congr rfl ?_) ?_
      · refine Reading.bind_congr fun _ rest h => hagain _ _ rest ?_
        exact Nat.lt_of_le_of_lt (hend h) hus
      refine (accepts_accept "**").ite_congr (fun _ _ => rfl) ?_
      refine (accepts_accept "*").ite_congr (fun us hus => Reading.ite_congr rfl ?_) ?_
      · refine (accepts_accept ",").ite_congr (fun us' hus' => hagain _ _ us' (by omega)) ?_
        refine Reading.bind_congr fun id us' hid => Reading.bind_congr fun _ rest h => ?_
        exact hagain _ _ rest (Nat.lt_of_le_of_lt (hend h) (Nat.lt_trans (hname hid) hus))
      refine Reading.bind_congr fun id us hid => Reading.bind_congr fun value us' hvalue => ?_
      refine Reading.bind_congr fun _ rest h => ?_
      have hrest : rest.length < ts.length :=
        Nat.lt_of_le_of_lt (Nat.le_trans (hend h) (hr.default.length_le hvalue)) (hname hid)
      exact Reading.ite_congr (hagain _ _ rest hrest)
        (Reading.ite_congr rfl (hagain _ _ rest hrest))

theorem TakePhrases.expressionHere : Takes .stops (fun _ => Phrase) r.expressionHere := by
  refine (accepts_acceptKeyword "lambda").takes_ite (fun t ht => ?_) ?_ (.inl (sees_keyword _))
  · refine Takes.imp (P := fun _ => Phrase) ?_
      fun _ used hused => hused.cons (Token.opens_of_isKeyword ht)
    have hparameters : Takes .token (fun _ used => nesting used = 0)
        (remaining >>= fun n => r.parametersFrom n {} []) :=
      hr.parametersFrom_unbounded.takes_remaining (a := ({}, [])) fun n =>
        hr.parametersFrom n {} []
    change Takes .stops (fun _ => Phrase) ((remaining >>= fun n => r.parametersFrom n {} [])
      >>= fun parameters => expect ":" >>= fun _ => r.expression >>= fun body =>
        pure (Tree.lambda parameters body))
    refine hparameters.thenPhrase (fun _ _ h => h) fun parameters => ?_
    refine (takes_expect ":").thenPhrase (by rintro _ _ rfl; rfl) fun _ => ?_
    exact hr.expression.map fun _ _ h => h
  · refine hr.disjunctionHere.bind (R := fun _ _ => Span 0) (fun first _ _ => ?_)
      fun _ _ used used' hused hused' => hused.append_span hused'
    refine (accepts_acceptKeyword "if").takes_ite (fun t ht => ?_) (takes_pure ⟨rfl, bare_nil⟩)
      (.inl (sees_keyword _))
    refine Takes.imp (P := fun _ => Phrase) ?_
      fun _ used hused => (hused.cons (Token.opens_of_isKeyword ht)).span
    refine hr.disjunction.thenPhrase (fun _ _ h => h.span.nesting) fun test => ?_
    refine (takes_expectKeyword "else").thenPhrase (by rintro _ _ rfl; rfl) fun _ => ?_
    exact hr.expression.map fun _ _ h => h

/-! ## All levels -/

theorem TakePhrases.around : r.around.TakePhrases where
  expression := hr.expressionHere
  disjunction := hr.disjunctionHere
  inversion := hr.inversionHere
  bitOr := hr.bitOrHere
  factor := hr.factorHere
  primary := hr.primaryHere

omit hr in
/-- Along the levels: the readers of the lowest one refuse. -/
theorem takePhrases_ofDepth (depth : Nat) : (ofDepth depth).TakePhrases := by
  induction depth with
  | zero =>
      exact ⟨takes_refuse, takes_refuse, takes_refuse, takes_refuse, takes_refuse, takes_refuse⟩
  | succ depth ih => exact ih.around

end Readers

end BoundSql.Expr
