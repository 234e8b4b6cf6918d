import BoundSql.Expr.Reader
set_option autoImplicit false

/-!
# What readers take

A reader takes tokens from the front of a row and leaves the rest.  How much of the rest it has
looked at decides what else may stand there instead: nothing of it, its first token, or no more than
whether it goes on at all (`Sight`).  The relation `Takes` says this of a reader together with what
is known of the tokens taken, and is kept by all the ways in which readers are put together:
sequencing, questions about the next token, repetition and bounded recursion.

What is known of the tokens is mostly how they are nested.  A `Span` opens as many brackets as it
closes and never closes one that it has not opened, and a `Phrase` is a span of that kind with no
comma at its end.  Both are kept by putting rows one behind the other.

A reader that asks about the next token may answer differently in front of another one.  Such
questions have one of two forms: they test the first token and leave it, or take it along if the
answer is yes (`Looks`, `Accepts`).  Those that a comma, a closing parenthesis and the end all
answer with no cannot tell the three apart (`Sight.Sees`).  With these forms each reader of the
grammar gets its lemma by the shape in which it is written, and the grammar can be changed one
reader at a time.
-/

namespace BoundSql.Expr

open Reading

/-! ## Rows of tokens -/

/-- By how much a token changes the number of open brackets. -/
def Token.opens : Token → Int
  | mark s =>
      if s = "(" ∨ s = "[" ∨ s = "\x7b" then 1
      else if s = ")" ∨ s = "]" ∨ s = "\x7d" then -1
      else 0
  | _ => 0

/-- How many more brackets a row of tokens opens than it closes. -/
def nesting : List Token → Int
  | [] => 0
  | t :: ts => t.opens + nesting ts

@[simp] theorem nesting_nil : nesting [] = 0 := rfl

@[simp] theorem nesting_cons (t : Token) (ts : List Token) :
    nesting (t :: ts) = t.opens + nesting ts := rfl

@[simp] theorem nesting_append (ts us : List Token) :
    nesting (ts ++ us) = nesting ts + nesting us := by
  induction ts with
  | nil => simp
  | cons t ts ih => simp [ih, Int.add_assoc]

/-- The last token of a row is no comma. -/
def Bare (ts : List Token) : Prop := ts.getLast? ≠ some (.mark ",")

theorem bare_nil : Bare [] := by simp [Bare]

theorem not_bare_comma (ts : List Token) : ¬ Bare (ts ++ [.mark ","]) := by simp [Bare]

theorem Bare.append {ts us : List Token} (hts : Bare ts) (hus : Bare us) : Bare (ts ++ us) := by
  cases h : us.getLast? with
  | none => simpa [Bare, List.getLast?_append, h] using hts
  | some t => simpa [Bare, List.getLast?_append, h] using hus

theorem Bare.append_left (ts : List Token) {us : List Token} (hne : us ≠ []) (hus : Bare us) :
    Bare (ts ++ us) := by
  obtain ⟨t, ht⟩ := Option.ne_none_iff_exists'.mp (mt List.getLast?_eq_none_iff.mp hne)
  simpa [Bare, List.getLast?_append, ht] using hus

theorem Bare.of_append {ts us : List Token} (h : Bare (ts ++ us)) : Bare us := by
  cases hus : us.getLast? with
  | none => simp [Bare, hus]
  | some t => simpa [Bare, List.getLast?_append, hus] using h

/-- Tokens that open and close brackets of the given number on balance, and end with no comma. -/
structure Span (n : Int) (ts : List Token) : Prop where
  nesting : nesting ts = n
  bare : Bare ts

theorem Span.append {m n : Int} {ts us : List Token} (hts : Span m ts) (hus : Span n us) :
    Span (m + n) (ts ++ us) :=
  ⟨by rw [nesting_append, hts.nesting, hus.nesting], hts.bare.append hus.bare⟩

/-- The tokens of a whole expression: there are some, they close what they open, and they end with
no comma. -/
structure Phrase (ts : List Token) : Prop where
  ne_nil : ts ≠ []
  span : Span 0 ts

/-- The tokens behind an opening bracket, up to and with the bracket that closes it. -/
abbrev Closing (ts : List Token) : Prop := Span (-1) ts

theorem Span.ne_nil {n : Int} {ts : List Token} (h : Span n ts) (hn : n ≠ 0) : ts ≠ [] := by
  rintro rfl
  exact hn h.nesting.symm

theorem Phrase.append_span {ts us : List Token} (hts : Phrase ts) (hus : Span 0 us) :
    Phrase (ts ++ us) :=
  ⟨List.append_ne_nil_of_left_ne_nil hts.ne_nil us, hts.span.append hus⟩

/-- What stands in front of an expression may end as it likes. -/
theorem Phrase.behind {ts us : List Token} (hts : nesting ts = 0) (hus : Phrase us) :
    Phrase (ts ++ us) :=
  ⟨List.append_ne_nil_of_right_ne_nil ts hus.ne_nil,
    by rw [nesting_append, hts, hus.span.nesting, Int.zero_add],
    .append_left ts hus.ne_nil hus.span.bare⟩

theorem Span.closing_behind {ts us : List Token} (hts : Expr.nesting ts = 0) (hus : Closing us) :
    Closing (ts ++ us) :=
  ⟨by rw [nesting_append, hts, hus.nesting, Int.zero_add],
    .append_left ts (hus.ne_nil (by decide)) hus.bare⟩

/-- A bracket with what closes it is an expression. -/
theorem Span.phrase_of_opening {t : Token} {us : List Token} (ht : t.opens = 1)
    (hus : Closing us) : Phrase (t :: us) :=
  ⟨List.cons_ne_nil t us, by rw [nesting_cons, ht, hus.nesting]; rfl,
    .append_left [t] (hus.ne_nil (by decide)) hus.bare⟩

/-- A single token that is neither a bracket nor a comma. -/
theorem phrase_singleton {t : Token} (ht : t.opens = 0) (hcomma : t ≠ .mark ",") :
    Phrase [t] :=
  ⟨List.cons_ne_nil t [], by simp [ht], by simpa [Bare] using hcomma⟩

/-! ## What stands behind -/

/-- What a reader knows of the rest behind the tokens that it takes. -/
inductive Sight where
  /-- nothing -/
  | nothing
  /-- its first token, but commas, closing parentheses and the end are all alike -/
  | stops
  /-- its first token -/
  | token
  deriving DecidableEq

/-- A row that ends, or goes on with a comma or a closing parenthesis. -/
def Stops : List Token → Prop
  | [] => True
  | t :: _ => t = .mark "," ∨ t = .mark ")"

/-- Two rests that a reader cannot tell apart. -/
def Sight.Agree : Sight → List Token → List Token → Prop
  | nothing, _, _ => True
  | stops, ts, us => ts.head? = us.head? ∨ (Stops ts ∧ Stops us)
  | token, ts, us => ts.head? = us.head?

theorem Sight.agree_of_head?_eq (s : Sight) {ts us : List Token} (h : ts.head? = us.head?) :
    s.Agree ts us := by
  cases s with
  | nothing => trivial
  | stops => exact .inl h
  | token => exact h

/-- Two rests with tokens in front of them begin alike. -/
theorem Sight.agree_of_ne_nil (s : Sight) {us : List Token} (h : us ≠ []) (ts ts' : List Token) :
    s.Agree (us ++ ts) (us ++ ts') := by
  cases us with
  | nil => exact absurd rfl h
  | cons u us => exact s.agree_of_head?_eq rfl

theorem Sight.Agree.append {s : Sight} {ts ts' : List Token} (h : s.Agree ts ts')
    (us : List Token) : s.Agree (us ++ ts) (us ++ ts') := by
  by_cases hus : us = []
  · rw [hus]
    exact h
  · exact s.agree_of_ne_nil hus ts ts'

/-! ## Readers -/

/-- A sequence of two readers succeeds if the first one does, and then the second one does on what
is left. -/
theorem Reading.bind_eq_some_iff {α β : Type} {m : Reading α} {f : α → Reading β}
    {ts rest : List Token} {b : β} :
    (m >>= f) ts = some (b, rest) ↔
      ∃ a mid, m ts = some (a, mid) ∧ f a mid = some (b, rest) := by
  change (m ts >>= fun p => f p.1 p.2) = some (b, rest) ↔ _
  cases h : m ts with
  | none => simp
  | some p =>
      constructor
      · intro hf
        exact ⟨p.1, p.2, rfl, hf⟩
      · rintro ⟨a, mid, heq, hf⟩
        obtain rfl := Option.some.inj heq
        exact hf

/-- A reader takes tokens of which `P` holds, and would take them in front of any rest that it
cannot tell from the one that is there. -/
def Takes {α : Type} (s : Sight) (P : α → List Token → Prop) (m : Reading α) : Prop :=
  ∀ ts a rest, m ts = some (a, rest) → ∃ used, ts = used ++ rest ∧ P a used ∧
    ∀ rest', s.Agree rest rest' → m (used ++ rest') = some (a, rest')

section Readers

variable {α β : Type} {s : Sight} {P Q : α → List Token → Prop} {W : β → List Token → Prop}
  {m : Reading α}

theorem Takes.imp (h : Takes s P m) (hPQ : ∀ a used, P a used → Q a used) : Takes s Q m := by
  intro ts a rest hm
  obtain ⟨used, hts, hP, hrest⟩ := h ts a rest hm
  exact ⟨used, hts, hPQ a used hP, hrest⟩

/-- A reader that knows little of the rest may as well know more. -/
theorem Takes.ofNothing (h : Takes .nothing P m) : Takes s P m := by
  intro ts a rest hm
  obtain ⟨used, hts, hP, hrest⟩ := h ts a rest hm
  exact ⟨used, hts, hP, fun rest' _ => hrest rest' trivial⟩

theorem Takes.toToken (h : Takes s P m) : Takes .token P m := by
  intro ts a rest hm
  obtain ⟨used, hts, hP, hrest⟩ := h ts a rest hm
  exact ⟨used, hts, hP, fun rest' hagree => hrest rest' (s.agree_of_head?_eq hagree)⟩

theorem Takes.length_le (h : Takes s P m) {ts rest : List Token} {a : α}
    (hrun : m ts = some (a, rest)) : rest.length ≤ ts.length := by
  obtain ⟨used, rfl, -, -⟩ := h ts a rest hrun
  rw [List.length_append]
  exact Nat.le_add_left _ _

/-- A reader that takes tokens leaves fewer of them. -/
theorem Takes.length_lt (h : Takes s P m) (hne : ∀ a used, P a used → used ≠ [])
    {ts rest : List Token} {a : α} (hrun : m ts = some (a, rest)) : rest.length < ts.length := by
  obtain ⟨used, rfl, hP, -⟩ := h ts a rest hrun
  have hpos := List.length_pos_iff.mpr (hne a used hP)
  rw [List.length_append]
  omega

theorem takes_pure {a : α} (h : P a []) : Takes s P (pure a) := by
  rintro ts a' rest hm
  obtain ⟨rfl, rfl⟩ := Prod.mk.inj (Option.some.inj hm)
  exact ⟨[], rfl, h, fun _ _ => rfl⟩

theorem takes_refuse : Takes s P (refuse : Reading α) := by
  intro ts a rest hm
  cases hm

/-- One reader behind the other, if both know as much of what stands behind. -/
theorem Takes.bind {R : α → β → List Token → Prop} {f : α → Reading β} (hm : Takes s P m)
    (hf : ∀ a used, P a used → Takes s (R a) (f a))
    (hW : ∀ a b used used', P a used → R a b used' → W b (used ++ used')) :
    Takes s W (m >>= f) := by
  intro ts b rest h
  obtain ⟨a, mid, ha, hb⟩ := Reading.bind_eq_some_iff.mp h
  obtain ⟨used, rfl, hP, hmid⟩ := hm ts a mid ha
  obtain ⟨used', rfl, hR, hrest⟩ := hf a used hP mid b rest hb
  refine ⟨used ++ used', (List.append_assoc ..).symm, hW a b used used' hP hR, ?_⟩
  intro rest' hagree
  rw [List.append_assoc]
  exact Reading.bind_eq_some_iff.mpr
    ⟨a, used' ++ rest', hmid _ (hagree.append used'), hrest rest' hagree⟩

/-- One reader behind the other, if the second one takes tokens, so that the first one sees no
further than these. -/
theorem Takes.before {R : α → β → List Token → Prop} {f : α → Reading β} (hm : Takes .token P m)
    (hf : ∀ a used, P a used → Takes s (R a) (f a))
    (hne : ∀ a b used', R a b used' → used' ≠ [])
    (hW : ∀ a b used used', P a used → R a b used' → W b (used ++ used')) :
    Takes s W (m >>= f) := by
  intro ts b rest h
  obtain ⟨a, mid, ha, hb⟩ := Reading.bind_eq_some_iff.mp h
  obtain ⟨used, rfl, hP, hmid⟩ := hm ts a mid ha
  obtain ⟨used', rfl, hR, hrest⟩ := hf a used hP mid b rest hb
  refine ⟨used ++ used', (List.append_assoc ..).symm, hW a b used used' hP hR, ?_⟩
  intro rest' hagree
  rw [List.append_assoc]
  exact Reading.bind_eq_some_iff.mpr ⟨a, used' ++ rest',
    hmid _ (Sight.agree_of_ne_nil .token (hne a b used' hR) rest rest'), hrest rest' hagree⟩

theorem Takes.map {g : α → β} (hm : Takes s P m) (hW : ∀ a used, P a used → W (g a) used) :
    Takes s W (m >>= fun a => pure (g a)) :=
  hm.bind (R := fun a b used => b = g a ∧ used = [])
    (fun _ _ _ => takes_pure ⟨rfl, rfl⟩) (by
      rintro a b used used' hP ⟨rfl, rfl⟩
      rw [List.append_nil]
      exact hW a used hP)

end Readers

/-! ## Questions -/

/-- Whether a row begins with a token of a kind. -/
def begins (p : Token → Bool) (ts : List Token) : Bool := ts.head?.any p

@[simp] theorem begins_nil (p : Token → Bool) : begins p [] = false := rfl

@[simp] theorem begins_cons (p : Token → Bool) (t : Token) (ts : List Token) :
    begins p (t :: ts) = p t := rfl

/-- A question about the first token, which is left in place. -/
def Looks (p : Token → Bool) (question : Reading Bool) : Prop :=
  ∀ ts, question ts = some (begins p ts, ts)

/-- A question about the first token, which is taken along with the answer yes. -/
structure Accepts (p : Token → Bool) (question : Reading Bool) : Prop where
  yes : ∀ t rest, p t = true → question (t :: rest) = some (true, rest)
  no : ∀ ts, begins p ts = false → question ts = some (false, ts)

theorem Looks.bind_eq {β : Type} {p : Token → Bool} {question : Reading Bool}
    (hq : Looks p question) (f : Bool → Reading β) (ts : List Token) :
    (question >>= f) ts = f (begins p ts) ts := by
  change (question ts >>= fun r => f r.1 r.2) = _
  rw [hq ts]
  rfl

/-- A sight that is enough to tell whether a row begins with a token of a kind. -/
def Sight.Sees (s : Sight) (p : Token → Bool) : Prop :=
  ∀ ts us, s.Agree ts us → begins p ts = begins p us

theorem sees_token (p : Token → Bool) : Sight.token.Sees p := by
  intro ts us h
  have hhead : ts.head? = us.head? := h
  rw [begins, begins, hhead]

/-- Where commas and closing parentheses are of another kind, they need not be told apart. -/
theorem sees_stops {p : Token → Bool} (hcomma : p (.mark ",") = false)
    (hclose : p (.mark ")") = false) : Sight.stops.Sees p := by
  have hstops : ∀ ts, Stops ts → begins p ts = false := by
    rintro (_ | ⟨t, ts⟩) h
    · rfl
    · rcases h with rfl | rfl
      · exact hcomma
      · exact hclose
  rintro ts us (h | ⟨hts, hus⟩)
  · exact sees_token p ts us h
  · rw [hstops ts hts, hstops us hus]

section Questions

variable {α : Type} {s : Sight} {P : α → List Token → Prop} {p : Token → Bool}
  {question : Reading Bool} {x y : Reading α}

/-- What a row begins with is known in front of a rest, if it is seen or something else stands in
front of the rest. -/
theorem begins_append_eq {used rest rest' : List Token} (hs : s.Sees p ∨ used ≠ [])
    (h : s.Agree rest rest') : begins p (used ++ rest) = begins p (used ++ rest') := by
  rcases hs with hs | hne
  · exact hs _ _ (h.append used)
  · exact sees_token p _ _ (Sight.agree_of_ne_nil .token hne rest rest')

/-- A token that is taken if it is there decides which reader goes on. -/
theorem Accepts.takes_ite (hq : Accepts p question)
    (hx : ∀ t, p t = true → Takes s (fun a used => P a (t :: used)) x) (hy : Takes s P y)
    (hs : s.Sees p ∨ ∀ a used, P a used → used ≠ []) :
    Takes s P (question >>= fun yes => if yes = true then x else y) := by
  intro ts a rest h
  obtain ⟨yes, mid, hyes, h⟩ := Reading.bind_eq_some_iff.mp h
  cases hbegins : begins p ts with
  | true =>
      cases ts with
      | nil => cases hbegins
      | cons t ts =>
          obtain ⟨rfl, rfl⟩ := Prod.mk.inj (Option.some.inj ((hq.yes t ts hbegins).symm.trans hyes))
          obtain ⟨used, rfl, hP, hrest⟩ := hx t hbegins ts a rest h
          refine ⟨t :: used, rfl, hP, fun rest' hagree => ?_⟩
          exact Reading.bind_eq_some_iff.mpr
            ⟨true, used ++ rest', hq.yes t _ hbegins, hrest rest' hagree⟩
  | false =>
      obtain ⟨rfl, rfl⟩ := Prod.mk.inj (Option.some.inj ((hq.no ts hbegins).symm.trans hyes))
      obtain ⟨used, rfl, hP, hrest⟩ := hy ts a rest h
      refine ⟨used, rfl, hP, fun rest' hagree => ?_⟩
      have hsame := begins_append_eq (hs.imp_right fun hne => hne a used hP) hagree
      exact Reading.bind_eq_some_iff.mpr
        ⟨false, used ++ rest', hq.no _ (hsame.symm.trans hbegins), hrest rest' hagree⟩

/-- The first token decides which reader goes on. -/
theorem Looks.takes {f : Bool → Reading α} (hq : Looks p question) (hf : ∀ yes, Takes s P (f yes))
    (hs : s.Sees p ∨ ∀ a used, P a used → used ≠ []) : Takes s P (question >>= f) := by
  intro ts a rest h
  rw [hq.bind_eq] at h
  obtain ⟨used, rfl, hP, hrest⟩ := hf _ ts a rest h
  refine ⟨used, rfl, hP, fun rest' hagree => ?_⟩
  rw [hq.bind_eq, ← begins_append_eq (hs.imp_right fun hne => hne a used hP) hagree]
  exact hrest rest' hagree

theorem Looks.takes_ite (hq : Looks p question) (hx : Takes s P x) (hy : Takes s P y)
    (hs : s.Sees p ∨ ∀ a used, P a used → used ≠ []) :
    Takes s P (question >>= fun yes => if yes = true then x else y) :=
  hq.takes (fun yes => by cases yes <;> assumption) hs

/-- A token that is seen can be taken. -/
theorem Looks.accepts (hq : Looks p question) :
    Accepts p (do if ← question then advance; pure true else pure false) where
  yes t rest h := by
    rw [hq.bind_eq, begins_cons, h]
    rfl
  no ts h := by
    rw [hq.bind_eq, h]
    rfl

/-- A token that is seen and then taken decides which reader goes on. -/
theorem Looks.takes_advance (hq : Looks p question)
    (hx : ∀ t, p t = true → Takes s (fun a used => P a (t :: used)) x) (hy : Takes s P y)
    (hs : s.Sees p ∨ ∀ a used, P a used → used ≠ []) :
    Takes s P (question >>= fun yes => if yes = true then advance >>= fun _ => x else y) := by
  have heq : (question >>= fun yes => if yes = true then advance >>= fun _ => x else y)
      = (do if ← question then advance; pure true else pure false)
          >>= fun yes => if yes = true then x else y := by
    funext ts
    rw [hq.bind_eq]
    change _ = (do if ← question then advance; pure true else pure false : Reading Bool) ts
      >>= fun r => (if r.1 = true then x else y) r.2
    rw [hq.bind_eq]
    cases begins p ts <;> rfl
  rw [heq]
  exact hq.accepts.takes_ite hx hy hs

/-- A token that is taken if it is there. -/
theorem Accepts.takes (hq : Accepts p question) (hs : s.Sees p) :
    Takes s (fun yes used => if yes then ∃ t, p t = true ∧ used = [t] else used = [])
      question := by
  intro ts yes rest h
  cases hbegins : begins p ts with
  | true =>
      cases ts with
      | nil => cases hbegins
      | cons t ts =>
          obtain ⟨rfl, rfl⟩ := Prod.mk.inj (Option.some.inj ((hq.yes t ts hbegins).symm.trans h))
          exact ⟨[t], rfl, ⟨t, hbegins, rfl⟩, fun rest' _ => hq.yes t rest' hbegins⟩
  | false =>
      obtain ⟨rfl, rfl⟩ := Prod.mk.inj (Option.some.inj ((hq.no ts hbegins).symm.trans h))
      exact ⟨[], rfl, rfl, fun rest' hagree => hq.no rest' ((hs _ _ hagree).symm.trans hbegins)⟩

/-- A token that has to be there. -/
theorem Accepts.takes_or_refuse (hq : Accepts p question) :
    Takes .nothing (fun _ used => ∃ t, p t = true ∧ used = [t])
      (question >>= fun yes => if yes = true then pure () else refuse) :=
  hq.takes_ite (fun t ht => takes_pure ⟨t, ht, rfl⟩) takes_refuse
    (.inr (by
      rintro _ used ⟨t, -, rfl⟩
      exact List.cons_ne_nil t []))

end Questions

/-! ### The questions of the readers -/

/-- A symbol as a token. -/
def Token.isMark (symbol : String) : Token → Bool
  | mark s => s == symbol
  | _ => false

/-- A reserved word as a token. -/
def Token.isKeyword (word : String) : Token → Bool
  | keyword w => w == word
  | _ => false

theorem Token.eq_mark_of_isMark {symbol : String} {t : Token} (h : t.isMark symbol = true) :
    t = .mark symbol := by
  cases t with
  | mark s => rw [eq_of_beq h]
  | _ => cases h

theorem Token.eq_keyword_of_isKeyword {word : String} {t : Token} (h : t.isKeyword word = true) :
    t = .keyword word := by
  cases t with
  | keyword w => rw [eq_of_beq h]
  | _ => cases h

theorem looks_atMark (symbol : String) : Looks (·.isMark symbol) (atMark symbol) := by
  rintro (_ | ⟨t, ts⟩)
  · rfl
  · cases t <;> rfl

theorem looks_atKeyword (word : String) : Looks (·.isKeyword word) (atKeyword word) := by
  rintro (_ | ⟨t, ts⟩)
  · rfl
  · cases t <;> rfl

theorem accepts_accept (symbol : String) : Accepts (·.isMark symbol) (accept symbol) :=
  (looks_atMark symbol).accepts

theorem accepts_acceptKeyword (word : String) :
    Accepts (·.isKeyword word) (acceptKeyword word) :=
  (looks_atKeyword word).accepts

/-- A clause begins with one of two words. -/
theorem looks_atClause :
    Looks (fun t => t.isKeyword "for" || t.isKeyword "async") Readers.atClause := by
  intro ts
  have hor : begins (fun t => t.isKeyword "for" || t.isKeyword "async") ts
      = (begins (·.isKeyword "for") ts || begins (·.isKeyword "async") ts) := by
    cases ts <;> rfl
  rw [Readers.atClause, (looks_atKeyword "for").bind_eq, hor]
  cases begins (·.isKeyword "for") ts with
  | true => rfl
  | false => exact looks_atKeyword "async" ts

/-- An access begins with a point or an opening bracket. -/
theorem looks_atAccess :
    Looks (fun t => t.isMark "." || t.isMark "(" || t.isMark "[") Readers.atAccess := by
  intro ts
  have hor : begins (fun t => t.isMark "." || t.isMark "(" || t.isMark "[") ts
      = (begins (·.isMark ".") ts || begins (·.isMark "(") ts || begins (·.isMark "[") ts) := by
    cases ts <;> rfl
  rw [Readers.atAccess, (looks_atMark ".").bind_eq, (looks_atMark "(").bind_eq, hor]
  cases begins (·.isMark ".") ts || begins (·.isMark "(") ts with
  | true => rfl
  | false => exact looks_atMark "[" ts

/-! ### Tokens that have to be there -/

theorem takes_expect (symbol : String) :
    Takes .nothing (fun _ used => used = [.mark symbol]) (expect symbol) :=
  (accepts_accept symbol).takes_or_refuse.imp (by
    rintro _ used ⟨t, ht, rfl⟩
    rw [Token.eq_mark_of_isMark ht])

theorem takes_expectKeyword (word : String) :
    Takes .nothing (fun _ used => used = [.keyword word]) (expectKeyword word) :=
  (accepts_acceptKeyword word).takes_or_refuse.imp (by
    rintro _ used ⟨t, ht, rfl⟩
    rw [Token.eq_keyword_of_isKeyword ht])

theorem takes_name : Takes .nothing (fun id used => used = [.name id]) Reading.name := by
  intro ts id rest h
  unfold Reading.name at h
  split at h
  next id' rest' =>
    obtain ⟨rfl, rfl⟩ := Prod.mk.inj (Option.some.inj h)
    exact ⟨[.name id'], rfl, rfl, fun _ _ => rfl⟩
  next => cases h

/-! ## Repetition -/

/-- A step that is repeated until it answers with nothing. -/
inductive Repeats {α : Type} (step : Reading (Option α)) :
    List Token → List α → List Token → Prop where
  | done {ts rest : List Token} (last : step ts = some (none, rest)) : Repeats step ts [] rest
  | more {ts mid rest : List Token} {a : α} {as : List α} (first : step ts = some (some a, mid))
      (others : Repeats step mid as rest) : Repeats step ts (a :: as) rest

section Repetition

variable {α : Type} {step : Reading (Option α)} {s : Sight} {P : Option α → List Token → Prop}
  {W : List α → List Token → Prop}

/-- A step that takes tokens whenever it answers is never cut short. -/
theorem repeated_go_eq_some_iff
    (hstep : ∀ ts a rest, step ts = some (some a, rest) → rest.length < ts.length) (n : Nat)
    {ts rest : List Token} {as : List α} (hn : ts.length < n) :
    repeated.go step n ts = some (as, rest) ↔ Repeats step ts as rest := by
  induction n generalizing ts as with
  | zero => omega
  | succ n ih =>
      rw [repeated.go, Reading.bind_eq_some_iff]
      constructor
      · rintro ⟨o, mid, ho, h⟩
        cases o with
        | none =>
            obtain ⟨rfl, rfl⟩ := Prod.mk.inj (Option.some.inj h)
            exact .done ho
        | some a =>
            have hlt := hstep ts a mid ho
            obtain ⟨as', rest', has, h⟩ := Reading.bind_eq_some_iff.mp h
            obtain ⟨rfl, rfl⟩ := Prod.mk.inj (Option.some.inj h)
            exact .more ho ((ih (by omega)).mp has)
      · intro h
        cases h with
        | done last => exact ⟨none, rest, last, rfl⟩
        | more first others =>
            have hlt := hstep _ _ _ first
            exact ⟨_, _, first, Reading.bind_eq_some_iff.mpr
              ⟨_, _, (ih (by omega)).mpr others, rfl⟩⟩

theorem repeated_eq_some_iff
    (hstep : ∀ ts a rest, step ts = some (some a, rest) → rest.length < ts.length)
    {ts rest : List Token} {as : List α} :
    repeated step ts = some (as, rest) ↔ Repeats step ts as rest := by
  rw [repeated, Reading.bind_eq_some_iff]
  constructor
  · rintro ⟨o, mid, ho, h⟩
    cases o with
    | none =>
        obtain ⟨rfl, rfl⟩ := Prod.mk.inj (Option.some.inj h)
        exact .done ho
    | some a =>
        obtain ⟨n, _, hn, h⟩ := Reading.bind_eq_some_iff.mp h
        obtain ⟨rfl, rfl⟩ := Prod.mk.inj (Option.some.inj hn)
        obtain ⟨as', rest', has, h⟩ := Reading.bind_eq_some_iff.mp h
        obtain ⟨rfl, rfl⟩ := Prod.mk.inj (Option.some.inj h)
        exact .more ho ((repeated_go_eq_some_iff hstep _ (Nat.lt_succ_self _)).mp has)
  · intro h
    cases h with
    | done last => exact ⟨none, rest, last, rfl⟩
    | more first others =>
        refine ⟨_, _, first, Reading.bind_eq_some_iff.mpr ⟨_, _, rfl, ?_⟩⟩
        exact Reading.bind_eq_some_iff.mpr
          ⟨_, _, (repeated_go_eq_some_iff hstep _ (Nat.lt_succ_self _)).mpr others, rfl⟩

/-- A step that takes tokens whenever it answers leaves fewer of them. -/
theorem Takes.step_length_lt (h : Takes s P step) (hne : ∀ a used, P (some a) used → used ≠ [])
    (ts : List Token) (a : α) (rest : List Token) (hrun : step ts = some (some a, rest)) :
    rest.length < ts.length := by
  obtain ⟨used, rfl, hP, -⟩ := h ts _ rest hrun
  have hpos := List.length_pos_iff.mpr (hne a used hP)
  rw [List.length_append]
  omega

/-- Along the answers of a step that takes tokens whenever it answers. -/
theorem Takes.repeated (h : Takes s P step) (hne : ∀ a used, P (some a) used → used ≠ [])
    (hnil : ∀ used, P none used → W [] used)
    (hcons : ∀ a as used used', P (some a) used → W as used' → W (a :: as) (used ++ used')) :
    Takes s W (repeated step) := by
  have hlt := h.step_length_lt hne
  intro ts as rest hrun
  rw [repeated_eq_some_iff hlt] at hrun
  induction hrun with
  | done last =>
      obtain ⟨used, rfl, hP, hrest⟩ := h _ _ _ last
      refine ⟨used, rfl, hnil used hP, fun rest' hagree => ?_⟩
      exact (repeated_eq_some_iff hlt).mpr (.done (hrest rest' hagree))
  | more first others ih =>
      obtain ⟨used', rfl, hW, hrest'⟩ := ih
      obtain ⟨used, rfl, hP, hrest⟩ := h _ _ _ first
      refine ⟨used ++ used', (List.append_assoc ..).symm, hcons _ _ _ _ hP hW, ?_⟩
      intro rest' hagree
      rw [List.append_assoc]
      exact (repeated_eq_some_iff hlt).mpr (.more (hrest _ (hagree.append used'))
        ((repeated_eq_some_iff hlt).mp (hrest' rest' hagree)))

end Repetition

/-! ## Bounded recursion -/

theorem Reading.bind_congr {α β : Type} {m : Reading α} {f g : α → Reading β} {ts : List Token}
    (h : ∀ a mid, m ts = some (a, mid) → f a mid = g a mid) : (m >>= f) ts = (m >>= g) ts := by
  change (m ts >>= fun p => f p.1 p.2) = (m ts >>= fun p => g p.1 p.2)
  cases hm : m ts with
  | none => rfl
  | some p => exact h p.1 p.2 hm

theorem Reading.bind_congr_left {α β : Type} {m m' : Reading α} {ts : List Token}
    (h : m ts = m' ts) (f : α → Reading β) : (m >>= f) ts = (m' >>= f) ts := by
  change (m ts >>= fun p => f p.1 p.2) = (m' ts >>= fun p => f p.1 p.2)
  rw [h]

theorem Reading.ite_congr {α : Type} {c : Prop} [Decidable c] {x x' y y' : Reading α}
    {ts : List Token} (hx : x ts = x' ts) (hy : y ts = y' ts) :
    (if c then x else y) ts = (if c then x' else y') ts := by
  by_cases hc : c
  · simpa only [if_pos hc] using hx
  · simpa only [if_neg hc] using hy

/-- Behind a question two readers need to agree only where the one that goes on is run. -/
theorem Accepts.ite_congr {α : Type} {p : Token → Bool} {question : Reading Bool}
    (hq : Accepts p question) {x x' y y' : Reading α} {ts : List Token}
    (hx : ∀ us, us.length < ts.length → x us = x' us) (hy : y ts = y' ts) :
    (question >>= fun yes => if yes = true then x else y) ts
      = (question >>= fun yes => if yes = true then x' else y') ts := by
  refine Reading.bind_congr fun yes us hyes => ?_
  obtain ⟨used, rfl, hused, -⟩ := hq.takes (sees_token p) ts yes us hyes
  cases yes with
  | true =>
      obtain ⟨t, -, rfl⟩ := hused
      exact hx us (Nat.lt_succ_self _)
  | false =>
      obtain rfl : used = [] := hused
      exact hy

section Recursion

variable {α σ : Type} {s : Sight} {P : α → List Token → Prop} {m : Nat → σ → Reading α}

/-- A bound that is no less than the number of tokens is no bound. -/
def Unbounded (m : Nat → σ → Reading α) : Prop :=
  ∀ n a ts, ts.length ≤ n → m n a ts = m (n + 1) a ts

theorem Unbounded.eq_of_le (h : Unbounded m) {n n' : Nat} {a : σ} {ts : List Token}
    (hts : ts.length ≤ n) (hle : n ≤ n') : m n a ts = m n' a ts := by
  induction hle with
  | refl => rfl
  | step hle ih => exact ih.trans (h _ a ts (Nat.le_trans hts hle))

/-- The number of tokens that are left bounds a recursion that takes one each time. -/
theorem Unbounded.takes_remaining (h : Unbounded m) {a : σ} (hm : ∀ n, Takes s P (m n a)) :
    Takes s P (remaining >>= fun n => m n a) := by
  intro ts b rest hrun
  have hrun : m ts.length a ts = some (b, rest) := hrun
  obtain ⟨used, rfl, hP, -⟩ := hm _ ts b rest hrun
  refine ⟨used, rfl, hP, fun rest' hagree => ?_⟩
  have hbound : ∀ us, m (used ++ us).length a (used ++ us)
      = m ((used ++ rest).length + (used ++ rest').length) a (used ++ us) →
      (remaining >>= fun n => m n a) (used ++ us)
        = m ((used ++ rest).length + (used ++ rest').length) a (used ++ us) :=
    fun us hus => hus
  obtain ⟨used', heq, -, hrest⟩ := hm ((used ++ rest).length + (used ++ rest').length) _ b rest
    ((h.eq_of_le (Nat.le_refl _) (Nat.le_add_right _ _)).symm.trans hrun)
  obtain rfl := List.append_cancel_right heq
  rw [hbound rest' (h.eq_of_le (Nat.le_refl _) (Nat.le_add_left _ _))]
  exact hrest rest' hagree

end Recursion

end BoundSql.Expr
