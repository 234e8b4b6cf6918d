import BoundSql.Expr.Lexer
set_option autoImplicit false

/-!
# Where tokens end

No token reaches into a closing parenthesis, a comma, a blank or a line feed behind it, and no text
literal is ended by text without quotes.  So a token is cut from a source in the same way whatever
text of this kind stands behind the source.  Text that begins in one of these ways is called outer
text here (`Outer`).

The relation `Cuts` says this of a function that takes a part from the front of a text, together
with what is known of the part.  It is kept by the ways in which such functions are put together
(`Cuts.bind`, `Cuts.ite`), so that the numerals, which have the most rules, need one lemma for each
of their parts and no case distinction over whole texts (`cuts_numeral`).  What a function asks of
the characters ahead must be answered by outer text with no; questions of that kind are `Local`.

Words, symbols and literals are gone through one by one, and `cutsAt_token` collects what is known
of a token of any kind.
-/

namespace BoundSql.Expr

/-! ## Outer text -/

/-- A character that goes on with no token. -/
def isOuter (c : Char) : Bool :=
  c == ')' || c == ',' || c == '\n' || c == ' ' || c == '\t' || c == '\x0c'

/-- Text behind a source that no token of the source reaches into. -/
structure Outer (z : List Char) : Prop where
  head : ∀ c rest, z = c :: rest → isOuter c = true
  quotes : ∀ c ∈ z, c ≠ '\'' ∧ c ≠ '"'

theorem outer_nil : Outer [] := ⟨by simp, by simp⟩

theorem Outer.cons {c : Char} {z : List Char} (hz : Outer z) (hc : isOuter c = true) :
    Outer (c :: z) := by
  refine ⟨fun d rest heq => ?_, fun d hd => ?_⟩
  · rwa [← (List.cons.inj heq).1]
  · rcases List.mem_cons.mp hd with rfl | hd
    · constructor
      · rintro rfl
        cases hc
      · rintro rfl
        cases hc
    · exact hz.quotes d hd

/-- A kind of characters that outer text does not begin with. -/
def Inner (p : Char → Bool) : Prop := ∀ c, isOuter c = true → p c = false

theorem inner_of {p : Char → Bool}
    (h : [')', ',', '\n', ' ', '\t', '\x0c'].all (fun c => !p c) = true) : Inner p := by
  intro c hc
  have hmem : c ∈ [')', ',', '\n', ' ', '\t', '\x0c'] := by
    simpa [isOuter, or_assoc] using hc
  simpa using List.all_eq_true.mp h c hmem

/-- A question about a text whose answer does not change with outer text behind it. -/
def Local (q : List Char → Bool) : Prop := ∀ x z, Outer z → q (x ++ z) = q x

theorem Outer.headIs_eq_false {z : List Char} (hz : Outer z) {p : Char → Bool} (hp : Inner p) :
    headIs p z = false := by
  cases z with
  | nil => rfl
  | cons c z => exact hp c (hz.head c z rfl)

theorem Inner.local_headIs {p : Char → Bool} (hp : Inner p) : Local (headIs p) := by
  intro x z hz
  cases x with
  | nil => exact hz.headIs_eq_false hp
  | cons c x => rfl

/-! ## Parts cut from the front -/

/-- What a function cuts from the front of a part is of the kind `P`, and it cuts the same in front
of all outer text. -/
def CutsAt {α : Type} (P : α → List Char → Prop) (f : List Char → Option (α × List Char))
    (x : List Char) : Prop :=
  ∀ z a rest, Outer z → f (x ++ z) = some (a, rest) →
    ∃ used y, x = used ++ y ∧ rest = y ++ z ∧ P a used ∧
      ∀ z', Outer z' → f (x ++ z') = some (a, y ++ z')

/-- A function that cuts all parts like this. -/
def Cuts {α : Type} (P : α → List Char → Prop) (f : List Char → Option (α × List Char)) : Prop :=
  ∀ x, CutsAt P f x

section Closure

variable {α β : Type} {P Q : α → List Char → Prop} {W : β → List Char → Prop}
  {f g : List Char → Option (α × List Char)}

theorem CutsAt.imp {x : List Char} (h : CutsAt P f x) (hPQ : ∀ a used, P a used → Q a used) :
    CutsAt Q f x := by
  intro z a rest hz hf
  obtain ⟨used, y, hx, hrest, hP, hother⟩ := h z a rest hz hf
  exact ⟨used, y, hx, hrest, hPQ a used hP, hother⟩

theorem Cuts.imp (h : Cuts P f) (hPQ : ∀ a used, P a used → Q a used) : Cuts Q f :=
  fun x => (h x).imp hPQ

theorem CutsAt.congr {x : List Char} (h : CutsAt P g x)
    (heq : ∀ z, Outer z → f (x ++ z) = g (x ++ z)) : CutsAt P f x := by
  intro z a rest hz hf
  rw [heq z hz] at hf
  obtain ⟨used, y, hx, hrest, hP, hother⟩ := h z a rest hz hf
  exact ⟨used, y, hx, hrest, hP, fun z' hz' => (heq z' hz').trans (hother z' hz')⟩

/-- A part that is cut behind other characters. -/
theorem CutsAt.behind (front : List Char) {x : List Char}
    (h : CutsAt (fun a used => P a (front ++ used)) g x)
    (heq : ∀ z, Outer z → f (front ++ (x ++ z)) = g (x ++ z)) : CutsAt P f (front ++ x) := by
  intro z a rest hz hf
  rw [List.append_assoc, heq z hz] at hf
  obtain ⟨used, y, rfl, hrest, hP, hother⟩ := h z a rest hz hf
  refine ⟨front ++ used, y, (List.append_assoc ..).symm, hrest, hP, fun z' hz' => ?_⟩
  rw [List.append_assoc, heq z' hz', hother z' hz']

theorem cutsAt_of_eq_none {x : List Char} (h : ∀ z, Outer z → f (x ++ z) = none) :
    CutsAt P f x := by
  intro z a rest hz hf
  rw [h z hz] at hf
  cases hf

theorem cutsAt_of_eq_some (used y : List Char) {a : α} (hP : P a used)
    (h : ∀ z, Outer z → f (used ++ (y ++ z)) = some (a, y ++ z)) : CutsAt P f (used ++ y) := by
  intro z a' rest hz hf
  rw [List.append_assoc, h z hz] at hf
  obtain ⟨rfl, rfl⟩ := Prod.mk.inj (Option.some.inj hf)
  refine ⟨used, y, rfl, rfl, hP, fun z' hz' => ?_⟩
  rw [List.append_assoc, h z' hz']

/-- Without any outer text. -/
theorem Cuts.exists_append (h : Cuts P f) {cs rest : List Char} {a : α}
    (hf : f cs = some (a, rest)) : ∃ used, cs = used ++ rest ∧ P a used := by
  obtain ⟨used, y, hx, hrest, hP, -⟩ := h cs [] a rest outer_nil (by rwa [List.append_nil])
  rw [List.append_nil] at hrest
  exact ⟨used, by rw [hrest]; exact hx, hP⟩

theorem Cuts.length_le (h : Cuts P f) {cs rest : List Char} {a : α}
    (hf : f cs = some (a, rest)) : rest.length ≤ cs.length := by
  obtain ⟨used, rfl, -⟩ := h.exists_append hf
  rw [List.length_append]
  exact Nat.le_add_left _ _

theorem cuts_pure {a : α} (h : P a []) : Cuts P fun cs => some (a, cs) :=
  fun x => cutsAt_of_eq_some [] x h fun _ _ => rfl

theorem cuts_none : Cuts P fun _ => none := fun _ => cutsAt_of_eq_none fun _ _ => rfl

theorem Cuts.ite {q : List Char → Bool} (hq : Local q) (hf : Cuts P f) (hg : Cuts P g) :
    Cuts P fun cs => if q cs = true then f cs else g cs := by
  intro x
  cases hx : q x with
  | true => exact (hf x).congr fun z hz => if_pos ((hq x z hz).trans hx)
  | false => exact (hg x).congr fun z hz => if_neg (by rw [hq x z hz, hx]; exact Bool.false_ne_true)

/-- A character of a kind is taken if it comes first. -/
theorem Cuts.tail_ite {p : Char → Bool} (hp : Inner p)
    (hf : ∀ c, p c = true → Cuts (fun a used => P a (c :: used)) f) (hg : Cuts P g) :
    Cuts P fun cs => if headIs p cs = true then f cs.tail else g cs := by
  intro x
  have hlocal := hp.local_headIs x
  cases hx : headIs p x with
  | true =>
      cases x with
      | nil => cases hx
      | cons c x => exact .behind [c] (hf c hx x) fun z _ => if_pos hx
  | false =>
      exact (hg x).congr fun z hz => if_neg (by rw [hlocal z hz, hx]; exact Bool.false_ne_true)

theorem Cuts.bind {R : α → β → List Char → Prop} {k : α → List Char → Option (β × List Char)}
    (hf : Cuts P f) (hk : ∀ a, Cuts (R a) (k a))
    (hW : ∀ a b used used', P a used → R a b used' → W b (used ++ used')) :
    Cuts W fun cs => (f cs).bind fun r => k r.1 r.2 := by
  intro x z b rest hz h
  obtain ⟨⟨a, mid⟩, ha, hb⟩ := Option.bind_eq_some_iff.mp h
  obtain ⟨used, y, rfl, rfl, hP, hother⟩ := hf x z a mid hz ha
  obtain ⟨used', y', rfl, rfl, hR, hother'⟩ := hk a y z b rest hz hb
  refine ⟨used ++ used', y', (List.append_assoc ..).symm, rfl, hW a b used used' hP hR, ?_⟩
  intro z' hz'
  exact Option.bind_eq_some_iff.mpr ⟨_, hother z' hz', hother' z' hz'⟩

theorem CutsAt.map {k : α → β} {x : List Char} (hf : CutsAt P f x)
    (hW : ∀ a used, P a used → W (k a) used) :
    CutsAt W (fun cs => (f cs).map fun r => (k r.1, r.2)) x := by
  intro z b rest hz h
  obtain ⟨⟨a, mid⟩, ha, hb⟩ := Option.map_eq_some_iff.mp h
  obtain ⟨rfl, rfl⟩ := Prod.mk.inj hb
  obtain ⟨used, y, hx, rfl, hP, hother⟩ := hf z a mid hz ha
  exact ⟨used, y, hx, rfl, hW a used hP, fun z' hz' =>
    Option.map_eq_some_iff.mpr ⟨_, hother z' hz', rfl⟩⟩

theorem Cuts.map {k : α → β} (hf : Cuts P f) (hW : ∀ a used, P a used → W (k a) used) :
    Cuts W fun cs => (f cs).map fun r => (k r.1, r.2) :=
  fun x => (hf x).map hW

end Closure

/-! ## Numerals -/

/-- A character that is neither a quote nor a bracket and begins no comment. -/
def isPlain (c : Char) : Bool :=
  !(c == '\'' || c == '"' || c == '#' || c == '(' || c == ')' || c == '[' || c == ']'
    || c == '\x7b' || c == '\x7d')

/-- Characters that are all plain. -/
def Plain (used : List Char) : Prop := ∀ c ∈ used, isPlain c = true

theorem plain_nil : Plain [] := by simp [Plain]

theorem Plain.cons {c : Char} {used : List Char} (hc : isPlain c = true) (h : Plain used) :
    Plain (c :: used) := by
  simp only [Plain, List.mem_cons, forall_eq_or_imp]
  exact ⟨hc, h⟩

theorem Plain.append {us vs : List Char} (hus : Plain us) (hvs : Plain vs) : Plain (us ++ vs) := by
  intro c hc
  rcases List.mem_append.mp hc with h | h
  · exact hus c h
  · exact hvs c h

/-- The characters of words are plain. -/
theorem isPlain_of_isWordChar {c : Char} (h : isWordChar c = true) : isPlain c = true := by
  cases hc : isPlain c with
  | true => rfl
  | false =>
      simp only [isPlain, Bool.not_eq_false', Bool.or_eq_true, beq_iff_eq] at hc
      rcases hc with (((((((rfl | rfl) | rfl) | rfl) | rfl) | rfl) | rfl) | rfl) | rfl <;> cases h

theorem inner_isWordChar : Inner isWordChar := inner_of rfl

theorem isWordChar_of_isDigitOf {base : Nat} {c : Char} (h : Text.isDigitOf base c = true) :
    isWordChar c = true := by
  have hvalue : (Text.digitValue? c).isSome = true := by
    unfold Text.isDigitOf at h
    split at h
    next hsome => rw [hsome]; rfl
    next => cases h
  have halnum : c.isAlphanum = true := by
    have hrange : ∀ {low high : Char}, low ≤ c ∧ c ≤ high →
        (decide (low ≤ c) && decide (c ≤ high)) = true := fun h => by simpa using h
    simp only [Text.digitValue?, Bool.and_eq_true, decide_eq_true_eq] at hvalue
    refine Bool.or_eq_true_iff.mpr ?_
    split at hvalue
    next h => exact .inr (hrange h)
    split at hvalue
    next h => exact .inl (Bool.or_eq_true_iff.mpr (.inr (hrange h)))
    split at hvalue
    next h => exact .inl (Bool.or_eq_true_iff.mpr (.inl (decide_eq_true h)))
    next => cases hvalue
  rw [isWordChar, halnum]
  rfl

theorem inner_isDigitOf (base : Nat) : Inner (Text.isDigitOf base) := by
  intro c hc
  cases h : Text.isDigitOf base c with
  | false => rfl
  | true =>
      have hword := isWordChar_of_isDigitOf h
      rw [inner_isWordChar c hc] at hword
      cases hword

/-- A run of digits is empty in front of outer text. -/
theorem Outer.digitRun_eq {z : List Char} (hz : Outer z) (base : Nat) :
    digitRun base z = some ([], z) := by
  cases z with
  | nil => rfl
  | cons c z =>
      have hc := hz.head c z rfl
      have hno : c ≠ '_' := by
        rintro rfl
        cases hc
      simp [digitRun, inner_isDigitOf base c hc, hno]

theorem cuts_digitRun (base : Nat) : Cuts (fun _ => Plain) (digitRun base) := by
  intro x
  induction x with
  | nil => exact cutsAt_of_eq_some [] [] plain_nil fun z hz => hz.digitRun_eq base
  | cons c x ih =>
      by_cases hdigit : Text.isDigitOf base c = true
      · have hplain := isPlain_of_isWordChar (isWordChar_of_isDigitOf hdigit)
        exact .behind [c] (ih.map (k := (c :: ·)) fun _ _ hused => hused.cons hplain)
          fun z _ => by simp [digitRun, hdigit]
      by_cases hunderscore : c = '_'
      · subst hunderscore
        have hlocal := (inner_isDigitOf base).local_headIs x
        cases hhead : headIs (Text.isDigitOf base) x with
        | true =>
            exact .behind ['_'] (ih.imp fun _ _ hused => hused.cons rfl)
              fun z hz => by simp [digitRun, hdigit, hlocal z hz, hhead]
        | false =>
            exact cutsAt_of_eq_none fun z hz => by simp [digitRun, hdigit, hlocal z hz, hhead]
      · refine cutsAt_of_eq_some (a := []) [] (c :: x) plain_nil fun z _ => ?_
        simp [digitRun, hdigit, hunderscore]

/-! ### The end of a numeral -/

theorem Local.not {q : List Char → Bool} (hq : Local q) : Local fun cs => !q cs :=
  fun x z hz => congrArg (! ·) (hq x z hz)

theorem Local.or {q q' : List Char → Bool} (hq : Local q) (hq' : Local q') :
    Local fun cs => q cs || q' cs :=
  fun x z hz => by simp only [hq x z hz, hq' x z hz]

/-- A question about the text behind the first character. -/
theorem Local.behind {p : Char → Bool} {q : List Char → Bool} (hq : Local q) (hp : Inner p) :
    Local fun cs => headIs p cs && q cs.tail := by
  intro x z hz
  cases x with
  | nil =>
      have hhead := hz.headIs_eq_false hp
      simp only [List.nil_append, hhead, Bool.false_and]
      rfl
  | cons c x => exact congrArg (p c && ·) (hq x z hz)

/-- The word at the beginning of a text ends in front of outer text. -/
theorem isPrefixOf_append {w : List Char} (hw : ∀ c ∈ w, isWordChar c = true) (x : List Char)
    {z : List Char} (hz : Outer z) :
    (w.isPrefixOf (x ++ z) && !headIs isWordChar ((x ++ z).drop w.length))
      = (w.isPrefixOf x && !headIs isWordChar (x.drop w.length)) := by
  induction w generalizing x with
  | nil => exact congrArg (! ·) (inner_isWordChar.local_headIs x z hz)
  | cons a w ih =>
      cases x with
      | nil =>
          cases z with
          | nil => rfl
          | cons c z =>
              have hne : a ≠ c := by
                rintro rfl
                have hword := hw a List.mem_cons_self
                rw [inner_isWordChar a (hz.head a z rfl)] at hword
                cases hword
              simp [hne]
      | cons b x =>
          have h := ih (fun c hc => hw c (List.mem_cons_of_mem a hc)) x
          simp only [List.cons_append, List.isPrefixOf_cons_cons, List.length_cons,
            List.drop_succ_cons,
            Bool.and_assoc, h]

theorem local_beginsWithWord {word : String} (hword : ∀ c ∈ word.toList, isWordChar c = true) :
    Local (beginsWithWord word) := by
  intro x z hz
  rw [beginsWithWord, beginsWithWord, ← String.length_toList]
  exact isPrefixOf_append hword x hz

theorem local_endsNumeral : Local endsNumeral := by
  have hwords : Local fun cs => wordsBehindNumeral.any (beginsWithWord · cs) := by
    have hall : (wordsBehindNumeral.all fun word => word.toList.all isWordChar) = true := by
      decide +kernel
    have hword : ∀ word ∈ wordsBehindNumeral, ∀ c ∈ word.toList, isWordChar c = true :=
      fun word hmem => List.all_eq_true.mp (List.all_eq_true.mp hall word hmem)
    intro x z hz
    rw [Bool.eq_iff_iff, List.any_eq_true, List.any_eq_true]
    refine exists_congr fun word => and_congr_right fun hmem => ?_
    rw [local_beginsWithWord (hword word hmem) x z hz]
  exact (inner_isWordChar.local_headIs.not.or
    (Local.behind (Inner.local_headIs (inner_of rfl)) (inner_of rfl))).or hwords

theorem cuts_numeralEnd (c : Constant) : Cuts (fun _ => Plain) (numeralEnd c) :=
  Cuts.ite local_endsNumeral (cuts_pure plain_nil) cuts_none

theorem inner_isEither {lower upper : Char} (hlower : isOuter lower = false)
    (hupper : isOuter upper = false) : Inner (isEither lower upper) := by
  intro c hc
  have hl : c ≠ lower := by
    rintro rfl
    rw [hlower] at hc
    cases hc
  have hu : c ≠ upper := by
    rintro rfl
    rw [hupper] at hc
    cases hc
  simp [isEither, hl, hu]

theorem isPlain_of_isEither {lower upper c : Char} (hlower : isPlain lower = true)
    (hupper : isPlain upper = true) (h : isEither lower upper c = true) : isPlain c = true := by
  simp only [isEither, Bool.or_eq_true, beq_iff_eq] at h
  rcases h with rfl | rfl <;> assumption

/-- A single plain character of a kind in front of a plain part. -/
theorem Cuts.plain_tail_ite {p : Char → Bool} {f g : List Char → Option (Constant × List Char)}
    (hp : Inner p) (hplain : ∀ c, p c = true → isPlain c = true) (hf : Cuts (fun _ => Plain) f)
    (hg : Cuts (fun _ => Plain) g) :
    Cuts (fun _ => Plain) fun cs => if headIs p cs = true then f cs.tail else g cs :=
  .tail_ite hp (fun c hc => hf.imp fun _ _ hused => hused.cons (hplain c hc)) hg

/-- A single plain character of a kind, if it is known what stands behind it. -/
theorem Cuts.plain_head_ite {p : Char → Bool} {q : List Char → Bool}
    {f g : List Char → Option (Constant × List Char)} (hp : Inner p)
    (hplain : ∀ c, p c = true → isPlain c = true) (hq : Local q)
    (hf : Cuts (fun _ => Plain) fun cs => if q cs = true then f cs else none)
    (hg : Cuts (fun _ => Plain) g) :
    Cuts (fun _ => Plain) fun cs =>
      if (headIs p cs && q cs.tail) = true then f cs.tail else g cs := by
  have heq : (fun cs => if (headIs p cs && q cs.tail) = true then f cs.tail else g cs)
      = fun cs => if (headIs p cs && q cs.tail) = true then
          if headIs p cs = true then if q cs.tail = true then f cs.tail else none else none
        else g cs := by
    funext cs
    cases headIs p cs <;> cases q cs.tail <;> rfl
  rw [heq]
  exact .ite (hq.behind hp) (.plain_tail_ite hp hplain hf cuts_none) hg

theorem isPlain_of_beq {a c : Char} (ha : isPlain a = true) (h : (c == a) = true) :
    isPlain c = true := by
  rwa [eq_of_beq h]

/-- A condition that has nothing to do with the text. -/
theorem Cuts.ite_const {α : Type} {P : α → List Char → Prop}
    {f g : List Char → Option (α × List Char)} {b : Prop} [Decidable b] (hf : Cuts P f)
    (hg : Cuts P g) : Cuts P fun cs => if b then f cs else g cs := by
  by_cases hb : b
  · simpa only [if_pos hb] using hf
  · simpa only [if_neg hb] using hg

theorem Numeral.cuts_finish (n : Numeral) : Cuts (fun _ => Plain) n.finish := by
  refine .plain_tail_ite (inner_isEither rfl rfl) (fun c => isPlain_of_isEither rfl rfl)
    (cuts_numeralEnd _) ?_
  refine .ite_const (cuts_numeralEnd _) (.ite_const (cuts_numeralEnd _) (.ite_const ?_
    (.ite_const cuts_none (cuts_numeralEnd _))))
  exact .ite (Inner.local_headIs (inner_of rfl)) (cuts_numeralEnd _) cuts_none

/-! ### Numerals of both kinds -/

theorem inner_isDigit : Inner Char.isDigit := inner_of rfl

/-- Digits and what follows them. -/
theorem Cuts.behindDigits (base : Nat) {k : List Char → List Char → Option (Constant × List Char)}
    (hk : ∀ digits, Cuts (fun _ => Plain) (k digits)) :
    Cuts (fun _ => Plain) fun cs => (digitRun base cs).bind fun r => k r.1 r.2 :=
  (cuts_digitRun base).bind hk fun _ _ _ _ h h' => h.append h'

theorem cuts_basedDigits (base : Nat) : Cuts (fun _ => Plain) (basedDigits base) :=
  .ite (inner_isDigitOf base).local_headIs
    (.behindDigits base (k := fun digits rest =>
        if headIs Char.isDigit rest then none
        else numeralEnd (.int (Text.digitsValue base digits)) rest) fun _ =>
      .ite inner_isDigit.local_headIs cuts_none (cuts_numeralEnd _))
    cuts_none

theorem cuts_basedNumeral (base : Nat) : Cuts (fun _ => Plain) (basedNumeral base) :=
  .plain_tail_ite (inner_of rfl) (fun _ => isPlain_of_beq rfl) (cuts_basedDigits base)
    (cuts_basedDigits base)

theorem Numeral.cuts_exponentDigits (n : Numeral) (sign : Int) :
    Cuts (fun _ => Plain) (n.exponentDigits sign) :=
  .ite inner_isDigit.local_headIs
    (.behindDigits 10 (k := fun digits => Numeral.finish
        { n with exponent := sign * (Text.digitsValue 10 digits : Int), isFloat := true })
      fun _ => Numeral.cuts_finish _)
    cuts_none

theorem Numeral.cuts_behindLetter (n : Numeral) : Cuts (fun _ => Plain) n.behindLetter :=
  .plain_tail_ite (inner_of rfl) (fun _ => isPlain_of_beq rfl) (n.cuts_exponentDigits 1)
    (.plain_tail_ite (inner_of rfl) (fun _ => isPlain_of_beq rfl)
      (n.cuts_exponentDigits (-1)) (n.cuts_exponentDigits 1))

theorem Numeral.cuts_readExponent (n : Numeral) : Cuts (fun _ => Plain) n.readExponent := by
  have hbehind := Inner.local_headIs (p := fun c => isEither '+' '-' c || c.isDigit)
    (inner_of rfl)
  exact .plain_head_ite (inner_isEither rfl rfl) (fun c => isPlain_of_isEither rfl rfl) hbehind
    (.ite hbehind n.cuts_behindLetter cuts_none) n.cuts_finish

theorem cuts_behindPoint (whole : List Char) : Cuts (fun _ => Plain) (behindPoint whole) :=
  .ite inner_isDigit.local_headIs
    (.behindDigits 10
      (k := fun fraction => Numeral.readExponent { whole, fraction, isFloat := true })
      fun _ => Numeral.cuts_readExponent _)
    (Numeral.cuts_readExponent _)

theorem cuts_behindWhole (whole : List Char) : Cuts (fun _ => Plain) (behindWhole whole) :=
  .plain_tail_ite (inner_of rfl) (fun _ => isPlain_of_beq rfl) (cuts_behindPoint whole)
    (Numeral.cuts_readExponent _)

theorem cuts_decimalNumeral : Cuts (fun _ => Plain) decimalNumeral :=
  .behindDigits 10 cuts_behindWhole

/-- A zero and the letter of a base in front of the digits. -/
theorem cuts_behindBase (base : Nat) {lower upper : Char} (hlower : isOuter lower = false)
    (hupper : isOuter upper = false) (hlower' : isPlain lower = true)
    (hupper' : isPlain upper = true) {g : List Char → Option (Constant × List Char)}
    (hg : Cuts (fun _ => Plain) g) :
    Cuts (fun _ => Plain) fun cs =>
      if beginsBased lower upper cs = true then basedNumeral base cs.tail.tail else g cs := by
  have hletter := inner_isEither hlower hupper
  refine .plain_head_ite (f := fun cs => basedNumeral base cs.tail) (inner_of rfl)
    (fun _ => isPlain_of_beq rfl) hletter.local_headIs ?_ hg
  exact .plain_tail_ite hletter (fun c => isPlain_of_isEither hlower' hupper')
    (cuts_basedNumeral base) cuts_none

theorem cuts_numeral : Cuts (fun _ => Plain) numeral :=
  cuts_behindBase 16 rfl rfl rfl rfl (cuts_behindBase 8 rfl rfl rfl rfl
    (cuts_behindBase 2 rfl rfl rfl rfl cuts_decimalNumeral))

theorem isDigitOf_ten_of_isDigit {c : Char} (h : c.isDigit = true) :
    Text.isDigitOf 10 c = true := by
  simp only [Char.isDigit, Bool.and_eq_true, decide_eq_true_eq] at h
  have hrange : '0' ≤ c ∧ c ≤ '9' := h
  have hvalue : Text.digitValue? c = some (c.toNat - 48) := by
    simp [Text.digitValue?, hrange.1, hrange.2]
  have hle : c.toNat ≤ 57 := hrange.2
  rw [Text.isDigitOf, hvalue]
  exact decide_eq_true (by omega)

/-- A numeral has a first character. -/
theorem numeral_length_lt {c : Char} {cs rest : List Char} {a : Constant}
    (hc : c.isDigit = true ∨ c = '.') (h : numeral (c :: cs) = some (a, rest)) :
    rest.length < (c :: cs).length := by
  have hbased : ∀ base, basedNumeral base (c :: cs).tail.tail = some (a, rest) →
      rest.length < (c :: cs).length := by
    intro base h
    have hle := (cuts_basedNumeral base).length_le h
    simp only [List.tail_cons, List.length_tail, List.length_cons] at hle ⊢
    omega
  simp only [numeral] at h
  split at h
  · exact hbased 16 h
  split at h
  · exact hbased 8 h
  split at h
  · exact hbased 2 h
  obtain ⟨⟨whole, mid⟩, hwhole, h⟩ := Option.bind_eq_some_iff.mp h
  by_cases hdigit : Text.isDigitOf 10 c = true
  · rw [digitRun, if_pos hdigit] at hwhole
    obtain ⟨⟨ds, mid'⟩, hrun, heq⟩ := Option.map_eq_some_iff.mp hwhole
    obtain ⟨rfl, rfl⟩ := Prod.mk.inj heq
    have hmid := (cuts_digitRun 10).length_le hrun
    have hrest := (cuts_behindWhole _).length_le h
    simp only [List.length_cons] at hrest ⊢
    omega
  · -- a point begins the fraction
    obtain rfl : c = '.' := hc.resolve_left fun h => hdigit (isDigitOf_ten_of_isDigit h)
    obtain ⟨rfl, rfl⟩ := Prod.mk.inj (Option.some.inj hwhole)
    exact Nat.lt_succ_of_le ((cuts_behindPoint []).length_le h)

/-! ## Text literals -/

/-- A text without the quote ends no literal. -/
theorem literalBody_eq_none {quote : Char} {triple : Bool} {cs : List Char}
    (h : ∀ c ∈ cs, c ≠ quote) : literalBody quote triple cs = none := by
  fun_induction literalBody quote triple cs <;> simp_all

theorem Outer.literalBody_eq_none {z : List Char} (hz : Outer z) {quote : Char}
    (hquote : quote = '\'' ∨ quote = '"') (triple : Bool) : literalBody quote triple z = none := by
  refine Expr.literalBody_eq_none fun c hc => ?_
  rcases hquote with rfl | rfl
  · exact (hz.quotes c hc).1
  · exact (hz.quotes c hc).2

theorem local_beginsPair {quote : Char} (hquote : quote = '\'' ∨ quote = '"') :
    Local (beginsPair quote) := by
  have hinner : Inner (· == quote) := by
    rcases hquote with rfl | rfl <;> exact inner_of rfl
  exact Local.behind hinner.local_headIs hinner

theorem literalBody_escape (quote : Char) (triple : Bool) (d : Char) (cs : List Char) :
    literalBody quote triple ('\\' :: d :: cs)
      = (literalBody quote triple cs).map fun r => ('\\' :: d :: r.1, r.2) := by
  simp [literalBody]

theorem literalBody_cons (quote : Char) (triple : Bool) {c : Char} (hc : c ≠ '\\')
    (cs : List Char) :
    literalBody quote triple (c :: cs) =
      if c = quote ∧ (triple = true → beginsPair quote cs = true) then
        some ([], if triple then cs.tail.tail else cs)
      else if c = '\n' ∧ triple = false then none
      else (literalBody quote triple cs).map fun r => (c :: r.1, r.2) := by
  rw [literalBody.eq_def]
  simp only [hc, if_false]

theorem exists_of_beginsPair {quote : Char} {cs : List Char} (h : beginsPair quote cs = true) :
    ∃ ds, cs = quote :: quote :: ds := by
  match cs with
  | [] => cases h
  | [a] => simp [beginsPair, headIs] at h
  | a :: b :: ds =>
      obtain ⟨ha, hb⟩ := Bool.and_eq_true_iff.mp h
      exact ⟨ds, by rw [eq_of_beq ha, eq_of_beq hb]⟩

/-- A backslash takes the first outer character along, and the literal has no end. -/
theorem Outer.literalBody_backslash {z : List Char} (hz : Outer z) {quote : Char}
    (hquote : quote = '\'' ∨ quote = '"') (triple : Bool) :
    literalBody quote triple ('\\' :: z) = none := by
  cases z with
  | nil => rfl
  | cons d z =>
      have hnone : literalBody quote triple z = none := by
        refine Expr.literalBody_eq_none fun c hc => ?_
        have hne := hz.quotes c (List.mem_cons_of_mem d hc)
        rcases hquote with rfl | rfl
        · exact hne.1
        · exact hne.2
      rw [literalBody_escape, hnone]
      rfl

/-- The delimiter that ends a text literal stands in front of the outer text. -/
theorem cuts_literalBody {quote : Char} (hquote : quote = '\'' ∨ quote = '"') (triple : Bool) :
    Cuts (fun _ _ => True) (literalBody quote triple) := by
  intro x
  match x with
  | [] => exact cutsAt_of_eq_none fun z hz => hz.literalBody_eq_none hquote triple
  | c :: x =>
      by_cases hc : c = '\\'
      · subst hc
        cases x with
        | nil => exact cutsAt_of_eq_none fun z hz => hz.literalBody_backslash hquote triple
        | cons d x =>
            refine .behind ['\\', d] ((cuts_literalBody hquote triple x).map
              (k := fun body => '\\' :: d :: body) fun _ _ _ => trivial) fun z _ => ?_
            exact literalBody_escape quote triple d (x ++ z)
      have hcons : ∀ z, Outer z → literalBody quote triple (c :: (x ++ z)) =
          if c = quote ∧ (triple = true → beginsPair quote x = true) then
            some ([], if triple then (x ++ z).tail.tail else x ++ z)
          else if c = '\n' ∧ triple = false then none
          else (literalBody quote triple (x ++ z)).map fun r => (c :: r.1, r.2) := by
        intro z hz
        rw [literalBody_cons quote triple hc, local_beginsPair hquote x z hz]
      by_cases hend : c = quote ∧ (triple = true → beginsPair quote x = true)
      · cases triple with
        | true =>
            obtain ⟨y, rfl⟩ := exists_of_beginsPair (hend.2 rfl)
            exact cutsAt_of_eq_some [c, quote, quote] y trivial
              fun z hz => (hcons z hz).trans (if_pos hend)
        | false =>
            exact cutsAt_of_eq_some [c] x trivial fun z hz => (hcons z hz).trans (if_pos hend)
      by_cases hfeed : c = '\n' ∧ triple = false
      · exact cutsAt_of_eq_none fun z hz => by
          rw [List.cons_append, hcons z hz, if_neg hend, if_pos hfeed]
      · exact .behind [c] ((cuts_literalBody hquote triple x).map fun _ _ _ => trivial)
          fun z hz => by rw [List.singleton_append, hcons z hz, if_neg hend, if_neg hfeed]
termination_by x => x.length

theorem cuts_quotedLiteral {quote : Char} (hquote : quote = '\'' ∨ quote = '"') :
    Cuts (fun _ _ => True) (quotedLiteral quote) := by
  intro x
  have hpair := local_beginsPair hquote x
  by_cases hopen : beginsPair quote x = true
  · obtain ⟨y, rfl⟩ := exists_of_beginsPair hopen
    exact .behind [quote, quote] (cuts_literalBody hquote true y)
      fun z hz => if_pos ((hpair z hz).trans hopen)
  · exact (cuts_literalBody hquote false x).congr fun z hz => if_neg (by rwa [hpair z hz])

/-! ## Words and symbols -/

/-- A run of characters that outer text does not go on with. -/
theorem Outer.takeWhile_append {z : List Char} (hz : Outer z) {p : Char → Bool} (hp : Inner p)
    (x : List Char) : (x ++ z).takeWhile p = x.takeWhile p := by
  induction x with
  | nil =>
      cases z with
      | nil => rfl
      | cons c z => simp [hp c (hz.head c z rfl)]
  | cons c x ih => simp only [List.cons_append, List.takeWhile_cons, ih]

/-- No symbol has a character of outer text behind its first one. -/
theorem isOuter_tail_of_mem_symbols {s : String} (hs : s ∈ symbols) :
    s.toList ≠ [] ∧ ∀ c ∈ s.toList.tail, isOuter c = false := by
  have hall : (symbols.all fun s =>
      !s.toList.isEmpty && s.toList.tail.all (!isOuter ·)) = true := by
    decide +kernel
  obtain ⟨hne, htail⟩ := Bool.and_eq_true_iff.mp (List.all_eq_true.mp hall s hs)
  refine ⟨by simpa using hne, fun c hc => ?_⟩
  simpa using List.all_eq_true.mp htail c hc

theorem isPrefixOf_append_of_inner {w : List Char} (hw : ∀ c ∈ w, isOuter c = false)
    (x : List Char) {z : List Char} (hz : Outer z) : w.isPrefixOf (x ++ z) = w.isPrefixOf x := by
  induction w generalizing x with
  | nil => simp
  | cons a w ih =>
      cases x with
      | nil =>
          cases z with
          | nil => rfl
          | cons c z =>
              have hne : (a == c) = false := by
                refine beq_eq_false_iff_ne.mpr ?_
                rintro rfl
                have hinner := hw a List.mem_cons_self
                rw [hz.head a z rfl] at hinner
                cases hinner
              rw [List.nil_append, List.isPrefixOf_cons_cons, hne]
              rfl
      | cons b x =>
          simp only [List.cons_append, List.isPrefixOf_cons_cons,
            ih (fun c hc => hw c (List.mem_cons_of_mem a hc)) x]

theorem find?_congr_of_mem {α : Type} {p q : α → Bool} {l : List α} (h : ∀ a ∈ l, p a = q a) :
    l.find? p = l.find? q := by
  induction l with
  | nil => rfl
  | cons a l ih =>
      rw [List.find?_cons, List.find?_cons, h a List.mem_cons_self,
        ih fun b hb => h b (List.mem_cons_of_mem a hb)]

/-- Outer text does not go on with a symbol. -/
theorem symbol?_append (c : Char) (x : List Char) {z : List Char} (hz : Outer z) :
    symbol? (c :: x ++ z) = symbol? (c :: x) := by
  refine find?_congr_of_mem fun s hs => ?_
  obtain ⟨hne, htail⟩ := isOuter_tail_of_mem_symbols hs
  cases hchars : s.toList with
  | nil => exact absurd hchars hne
  | cons a w =>
      rw [hchars] at htail
      have hw : ∀ c ∈ w, isOuter c = false := htail
      simp only [List.cons_append, List.isPrefixOf_cons_cons, isPrefixOf_append_of_inner hw x hz]

/-- The symbol that a text begins with is one of the table. -/
theorem exists_of_symbol?_eq_some {cs : List Char} {s : String} (h : symbol? cs = some s) :
    s ∈ symbols ∧ ∃ rest, cs = s.toList ++ rest := by
  have hpre : s.toList.isPrefixOf cs = true :=
    List.find?_some (p := fun s : String => s.toList.isPrefixOf cs) h
  obtain ⟨rest, hrest⟩ := List.isPrefixOf_iff_prefix.mp hpre
  exact ⟨List.mem_of_find?_eq_some h, rest, hrest.symm⟩

/-! ## Tokens -/

/-- What is known of the characters of a token: there are some, and a symbol is made of its own. -/
structure SpelledAs (t : Token) (used : List Char) : Prop where
  ne_nil : used ≠ []
  symbol : ∀ s, t = .mark s → used = s.toList

theorem cuts_textLiteral (letters : TextLiteral) {quote : Char}
    (hquote : quote = '\'' ∨ quote = '"') :
    Cuts (fun t _ => ∃ literal, t = .text literal) (textLiteral letters quote) :=
  (cuts_quotedLiteral hquote).map (k := fun body => Token.text { letters with body })
    fun _ _ _ => ⟨_, rfl⟩

/-- Reserved words and names are no symbols. -/
theorem wordToken_ne_mark {word : List Char} {t : Token} (h : wordToken word = some t)
    (s : String) : t ≠ .mark s := by
  unfold wordToken at h
  dsimp only at h
  split at h
  · obtain rfl := Option.some.inj h
    simp
  · split at h
    · obtain rfl := Option.some.inj h
      simp
    · cases h

theorem cuts_behindWord (word : List Char) :
    Cuts (fun t _ => ∀ s, t ≠ .mark s) (behindWord word) := by
  have hword : Cuts (fun t _ => ∀ s, t ≠ .mark s)
      fun cs => (wordToken word).map fun t => (t, cs) := by
    intro x z t rest hz h
    obtain ⟨t', ht, heq⟩ := Option.map_eq_some_iff.mp h
    obtain ⟨rfl, rfl⟩ := Prod.mk.inj heq
    exact ⟨[], x, rfl, rfl, wordToken_ne_mark ht, fun z' _ => by rw [ht]; rfl⟩
  have hliteral : ∀ letters quote, quote = '\'' ∨ quote = '"' →
      Cuts (fun t _ => ∀ s, t ≠ .mark s) (textLiteral letters quote) := by
    intro letters quote hquote
    refine (cuts_textLiteral letters hquote).imp ?_
    rintro _ _ ⟨literal, rfl⟩ s
    simp
  unfold behindWord
  cases literalLetters? word with
  | none => exact hword
  | some letters =>
      exact .tail_ite (inner_of rfl) (fun _ _ => hliteral letters _ (.inl rfl))
        (.tail_ite (inner_of rfl) (fun _ _ => hliteral letters _ (.inr rfl)) hword)

theorem Outer.dropWhile_append {z : List Char} (hz : Outer z) {p : Char → Bool} (hp : Inner p)
    (x : List Char) : (x ++ z).dropWhile p = x.dropWhile p ++ z := by
  induction x with
  | nil =>
      cases z with
      | nil => rfl
      | cons c z => simp [hp c (hz.head c z rfl)]
  | cons c x ih =>
      simp only [List.cons_append, List.dropWhile_cons, ih]
      split <;> rfl

section Tokens

variable {c : Char} {x : List Char}

theorem cutsAt_numeralToken
    (hbegins : (c.isDigit || (c = '.' && headIs Char.isDigit x)) = true) :
    CutsAt SpelledAs (fun cs => (numeral cs).map fun r => (.number r.1, r.2)) (c :: x) := by
  intro z t rest hz h
  obtain ⟨⟨a, mid⟩, hmid, heq⟩ := Option.map_eq_some_iff.mp h
  obtain ⟨rfl, rfl⟩ := Prod.mk.inj heq
  obtain ⟨used, y, hused, rfl, -, hother⟩ := cuts_numeral (c :: x) z a mid hz hmid
  have hlt : (y ++ z).length < (c :: (x ++ z)).length := by
    refine numeral_length_lt ?_ hmid
    simp only [Bool.or_eq_true, Bool.and_eq_true, decide_eq_true_eq] at hbegins
    exact hbegins.imp_right And.left
  refine ⟨used, y, hused, rfl, ⟨?_, by simp⟩, fun z' hz' => ?_⟩
  · rintro rfl
    obtain rfl : c :: x = y := hused
    exact absurd hlt (Nat.lt_irrefl _)
  · exact Option.map_eq_some_iff.mpr ⟨_, hother z' hz', rfl⟩

theorem cutsAt_wordToken (hc : isWordChar c = true) :
    CutsAt SpelledAs (fun cs => behindWord (cs.takeWhile isWordChar) (cs.dropWhile isWordChar))
      (c :: x) := by
  have hword : CutsAt SpelledAs
      (fun cs => behindWord (cs.takeWhile isWordChar) (cs.dropWhile isWordChar))
      ((c :: x).takeWhile isWordChar ++ (c :: x).dropWhile isWordChar) := by
    refine .behind _ ((cuts_behindWord ((c :: x).takeWhile isWordChar) _).imp
      fun t used hmark => ⟨?_, ?_⟩) fun z hz => ?_
    · rw [List.takeWhile_cons, if_pos hc]
      exact List.cons_ne_nil _ _
    · exact fun s hs => absurd hs (hmark s)
    · rw [← List.append_assoc, List.takeWhile_append_dropWhile,
        hz.takeWhile_append inner_isWordChar, hz.dropWhile_append inner_isWordChar]
  rwa [List.takeWhile_append_dropWhile] at hword

theorem cutsAt_symbolToken :
    CutsAt SpelledAs (fun cs => (symbol? cs).map fun s => (.mark s, cs.drop s.length))
      (c :: x) := by
  cases hs : symbol? (c :: x) with
  | none =>
      exact cutsAt_of_eq_none fun z hz => by
        simp only [symbol?_append c x hz, hs, Option.map_none]
  | some s =>
      obtain ⟨hmem, y, hy⟩ := exists_of_symbol?_eq_some hs
      rw [hy]
      have hspelled : SpelledAs (.mark s) s.toList := by
        refine ⟨(isOuter_tail_of_mem_symbols hmem).1, fun s' heq => ?_⟩
        rw [Token.mark.inj heq]
      refine cutsAt_of_eq_some s.toList y hspelled fun z hz => ?_
      have hsymbol : symbol? (s.toList ++ (y ++ z)) = some s := by
        rw [← List.append_assoc, ← hy, symbol?_append c x hz, hs]
      simp only [hsymbol, Option.map_some, ← String.length_toList, List.drop_left]

end Tokens

/-- A token in front of outer text. -/
theorem cutsAt_token {x : List Char} (hx : x ≠ []) : CutsAt SpelledAs token x := by
  cases x with
  | nil => exact absurd rfl hx
  | cons c x =>
      have hdigit := inner_isDigit.local_headIs x
      by_cases hquote : (c = '\'' || c = '"') = true
      · refine .behind [c] ((cuts_textLiteral { body := [] } (by simpa using hquote) x).imp ?_)
          fun z _ => if_pos hquote
        rintro _ used ⟨literal, rfl⟩
        exact ⟨List.cons_ne_nil c used, by simp⟩
      by_cases hnumeral : (c.isDigit || (c = '.' && headIs Char.isDigit x)) = true
      · exact (cutsAt_numeralToken hnumeral).congr fun z hz => by
          simp only [List.cons_append, token, hquote, hdigit z hz, hnumeral, Bool.false_eq_true,
            if_false, if_true]
      by_cases hword : isWordChar c = true
      · exact (cutsAt_wordToken hword).congr fun z hz => by
          simp only [List.cons_append, token, hquote, hdigit z hz, hnumeral, hword,
            Bool.false_eq_true, if_false, if_true]
      · exact cutsAt_symbolToken.congr fun z hz => by
          simp only [List.cons_append, token, hquote, hdigit z hz, hnumeral, hword,
            Bool.false_eq_true, if_false]

end BoundSql.Expr
