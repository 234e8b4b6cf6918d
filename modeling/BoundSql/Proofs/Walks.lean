import BoundSql.Proofs.Boundaries
import BoundSql.Template.Walk
set_option autoImplicit false

/-!
# Walks end

Every loop of a walk ends, and it ends with what the readers that take text apart answer with: an
offset stands for the text from there on (`offsetOf`).  Walking is how scanning is done with
offsets, and taking text apart is how it is reasoned about, so this module is the bridge between the
two.

For each loop there is one lemma about a round, which says that the round leads on to the answer
(`Leads`): it is the last one, or the loop goes on nearer to the end of the text.  Ending is then
shown once for all loops (`loop_eq`).  Nothing is assumed about offsets but that they lie in the
text, so the lemmas also show that no character is looked at where the text has none.

The loops for strings, comments, brackets, names and accesses follow one after the other, and end
with the walk over a whole site (`siteAt_eq`).
-/

namespace BoundSql.Template

namespace Walk

/-- A walk that has come to an end. -/
def ends {α : Type} (out : Except Stop α) : Walk α := ExceptT.mk (some out)

section Ends

variable {α β : Type}

@[simp] theorem ends_ok_bind (a : α) (f : α → Walk β) : (ends (.ok a) >>= f) = f a := rfl

end Ends

/-! ## Loops -/

section Loops

variable {σ α : Type}

/-- How a round ends from a state on: the loop is over with what the state comes to, or it goes on
with a state that is nearer to the end and comes to the same. -/
inductive Leads (Good : σ → Prop) (outcome : σ → Except Stop α) (left : σ → Nat) (s : σ) :
    Walk (Round σ α) → Prop where
  | again {s' : σ} (good : Good s') (nearer : left s' < left s) (same : outcome s' = outcome s) :
      Leads Good outcome left s (ends (.ok (.again s')))
  | done {a : α} (same : outcome s = .ok a) : Leads Good outcome left s (ends (.ok (.done a)))
  | stop {stop : Stop} (same : outcome s = .error stop) :
      Leads Good outcome left s (ends (.error stop))

/-- A loop whose rounds lead on from every good state ends with what the state comes to. -/
theorem loop_eq {Good : σ → Prop} {outcome : σ → Except Stop α} {left : σ → Nat}
    {round : σ → Walk (Round σ α)} (leads : ∀ s, Good s → Leads Good outcome left s (round s))
    {s : σ} (good : Good s) : loop round s = ends (outcome s) := by
  induction h : left s using Nat.strong_induction_on generalizing s with
  | _ n ih =>
      have hround := leads s good
      rw [loop]
      generalize round s = r at hround
      cases hround with
      | again hgood nearer same => exact (ih _ (h ▸ nearer) hgood rfl).trans (congrArg ends same)
      | done same => rw [same]; rfl
      | stop same => rw [same]; rfl

theorem ends_inj {out out' : Except Stop α} (h : ends out = ends out') : out = out' :=
  Option.some.inj h

/-- A round that goes on leads to a good state that is nearer to the end. -/
theorem Leads.of_again {Good : σ → Prop} {outcome : σ → Except Stop α} {left : σ → Nat} {s s' : σ}
    (h : Leads Good outcome left s (ends (.ok (.again s')))) : Good s' ∧ left s' < left s := by
  generalize hr : (ends (.ok (.again s')) : Walk (Round σ α)) = r at h
  cases h with
  | again good nearer same =>
      obtain rfl := Round.again.inj (Except.ok.inj (ends_inj hr))
      exact ⟨good, nearer⟩
  | done same => cases Except.ok.inj (ends_inj hr)
  | stop same => cases ends_inj hr

end Loops

/-! ## Offsets -/

/-- The offset at which what is left of a text begins. -/
def offsetOf (text : String) (rest : List Char) : Nat := text.length - rest.length

/-- What a reader of text answers with, as the outcome of a walk: the offset of the text that is
left, or a refusal. -/
def told (text : String) (marker : Int) : Except Reason (List Char) → Except Stop Nat
  | .ok rest => .ok (offsetOf text rest)
  | .error reason => .error (.failed (.refused (.malformed text marker reason)))

section Offsets

variable {text : String} {i : Nat} {c : Char} {cs rest : List Char}

theorem lt_length_of_drop (h : text.toList.drop i = c :: cs) : i < text.length := by
  have hlength := congrArg List.length h
  rw [List.length_drop, String.length_toList, List.length_cons] at hlength
  omega

theorem not_lt_length_of_drop (h : text.toList.drop i = []) : ¬ i < text.length := by
  rw [← String.length_toList]
  exact Nat.not_lt.mpr (List.drop_eq_nil_iff.mp h)

theorem drop_succ_of_drop (h : text.toList.drop i = c :: cs) : text.toList.drop (i + 1) = cs := by
  rw [← List.tail_drop, h, List.tail_cons]

theorem charAt_of_drop (h : text.toList.drop i = c :: cs) : charAt text i = ends (.ok c) := by
  have hc : text.toList[i]? = some c := by rw [← List.head?_drop, h, List.head?_cons]
  rw [charAt, hc]
  rfl

/-- What is left of a text begins at its offset. -/
theorem drop_offsetOf (h : rest <:+ text.toList) :
    text.toList.drop (offsetOf text rest) = rest := by
  rw [offsetOf, ← String.length_toList]
  exact (List.suffix_iff_eq_drop.mp h).symm

theorem offsetOf_of_append {front : List Char} (h : text.toList.drop i = front ++ rest)
    (hi : i ≤ text.length) : offsetOf text rest = i + front.length := by
  have hlength := congrArg List.length h
  rw [List.length_drop, String.length_toList, List.length_append] at hlength
  rw [offsetOf]
  omega

theorem offsetOf_of_drop (h : text.toList.drop i = rest) (hi : i ≤ text.length) :
    offsetOf text rest = i :=
  offsetOf_of_append (show _ = [] ++ rest from h) hi

theorem offsetOf_of_suffix (h : text.toList.drop i = c :: cs) (hrest : rest <:+ cs) :
    text.toList.drop (offsetOf text rest) = rest ∧ i < offsetOf text rest
      ∧ offsetOf text rest ≤ text.length := by
  have hdrop : rest <:+ text.toList.drop i := h ▸ hrest.trans (List.suffix_cons c cs)
  have hlength := congrArg List.length h
  have hle := hrest.length_le
  rw [List.length_drop, String.length_toList, List.length_cons] at hlength
  refine ⟨drop_offsetOf (hdrop.trans (List.drop_suffix i _)), ?_, Nat.sub_le _ _⟩
  rw [offsetOf]
  omega

end Offsets

/-! ## String literals -/

/-- What is left behind a string literal, if it has an end. -/
def behindString : Option (List Char) → Except Reason (List Char)
  | some rest => .ok rest
  | none => .error .unterminatedString

/-- The width of the delimiters of a string literal. -/
def delimiterWidth (triple : Bool) : Nat := if triple then 3 else 1

/-- The closing delimiter stands at a character. -/
theorem isPrefixOf_delimiter (quote : Char) (triple : Bool) (c : Char) (cs : List Char) :
    (List.replicate (delimiterWidth triple) quote).isPrefixOf (c :: cs) = true
      ↔ c = quote ∧ (triple = true → Expr.beginsPair quote cs = true) := by
  cases triple with
  | false => simp [delimiterWidth, @eq_comm _ quote c]
  | true =>
      rcases cs with _ | ⟨a, _ | ⟨b, cs⟩⟩
      · simp [delimiterWidth, List.replicate, beginsPair_of_length]
      · simp [delimiterWidth, List.replicate, beginsPair_of_length]
      · simp [delimiterWidth, List.replicate, beginsPair_cons, @eq_comm _ quote]


/-- A round of the search for the end of a string literal leads on to what passing over the literal
answers with. -/
theorem stringRound_leads (text : String) (marker : Int) (quote : Char) (triple : Bool) (i : Nat) :
    Leads (fun _ => True)
      (fun i => told text marker (behindString (skipString quote triple (text.toList.drop i))))
      (text.length - ·) i (stringRound text marker quote (delimiterWidth triple) i) := by
  cases hdrop : text.toList.drop i with
  | nil =>
      rw [stringRound, if_neg (not_lt_length_of_drop hdrop)]
      exact .stop (by rw [hdrop]; rfl)
  | cons c cs =>
      have hi := lt_length_of_drop hdrop
      rw [stringRound, if_pos hi, charAt_of_drop hdrop, ends_ok_bind, goesOn, hdrop]
      by_cases hback : c = '\\'
      · subst hback
        have htail : text.toList.drop (i + 2) = cs.tail := by
          rw [← drop_succ_of_drop hdrop, List.tail_drop]
        have hskip : skipString quote triple ('\\' :: cs) = skipString quote triple cs.tail := by
          cases cs <;> simp [skipString]
        rw [if_pos rfl]
        exact .again trivial (by omega) (by rw [htail, hdrop, hskip])
      · have hskip := @skipString_cons quote c triple hback cs
        have hdelimiter := isPrefixOf_delimiter quote triple c cs
        rw [if_neg hback]
        by_cases hclose : c = quote ∧ (triple = true → Expr.beginsPair quote cs = true)
        · have hwidth := (List.isPrefixOf_iff_prefix.mp (hdelimiter.mpr hclose)).length_le
          have hbehind : text.toList.drop (i + delimiterWidth triple)
              = if triple then cs.tail.tail else cs := by
            rw [← List.drop_drop, hdrop]
            cases triple <;> simp [delimiterWidth, ← List.drop_one]
          have hlength := congrArg List.length hdrop
          rw [List.length_replicate] at hwidth
          rw [List.length_drop, String.length_toList] at hlength
          rw [if_pos hclose] at hskip
          rw [if_pos (hdelimiter.mpr hclose)]
          exact .done
            (by rw [hdrop, hskip, behindString, told, offsetOf_of_drop hbehind (by omega)])
        · have hsingle : delimiterWidth triple = 1 ↔ triple = false := by
            cases triple <;> decide
          simp only [hsingle]
          rw [if_neg hclose] at hskip
          rw [if_neg (mt hdelimiter.mp hclose)]
          by_cases hline : c = '\n' ∧ triple = false
          · rw [if_pos hline] at hskip ⊢
            exact .stop (by rw [hdrop, hskip]; rfl)
          · rw [if_neg hline] at hskip ⊢
            exact .again trivial (by omega) (by rw [drop_succ_of_drop hdrop, hdrop, hskip])

/-- Three quotes in a row open a literal with triple delimiters. -/
theorem afterString_eq (quote : Char) (cs : List Char) :
    let triple := (List.replicate 3 quote).isPrefixOf (quote :: cs)
    afterString quote cs
      = skipString quote triple ((quote :: cs).drop (delimiterWidth triple)) := by
  intro triple
  have htriple : triple = ([quote, quote].isPrefixOf cs) := by
    simp [triple, List.replicate]
  rw [htriple]
  rcases cs with _ | ⟨a, _ | ⟨b, cs⟩⟩
  · rfl
  · simp [afterString, delimiterWidth, List.isPrefixOf]
  · have hopen : [quote, quote].isPrefixOf (a :: b :: cs) = decide (a = quote ∧ b = quote) := by
      simp [List.isPrefixOf, beq_eq_decide, eq_comm]
    rw [afterString, hopen]
    split_ifs with h <;> simp [h, delimiterWidth]

/-- The offset behind a string literal is found. -/
theorem stringEnd_eq {text : String} {i : Nat} {quote : Char} {cs : List Char} (marker : Int)
    (h : text.toList.drop i = quote :: cs) :
    stringEnd text marker i = ends (told text marker (behindString (afterString quote cs))) := by
  let triple := (List.replicate 3 quote).isPrefixOf (quote :: cs)
  have hstart : text.toList.drop (i + delimiterWidth triple)
      = (quote :: cs).drop (delimiterWidth triple) := by rw [← h, List.drop_drop]
  rw [stringEnd, charAt_of_drop h, ends_ok_bind, goesOn, h]
  change loop (stringRound text marker quote (delimiterWidth triple))
    (i + delimiterWidth triple) = _
  rw [loop_eq (fun i _ => stringRound_leads text marker quote triple i) trivial, hstart,
    afterString_eq]

/-- A backslash as the last character takes nothing along. -/
example : stringEnd "'\\" 0 0
    = ends (.error (.failed (.refused (.malformed "'\\" 0 .unterminatedString)))) := by cbv

/-! ## Brackets -/

section Unclosed

variable {opener c d : Char} {expected outer cs : List Char}

theorem closeBrackets_nil : closeBrackets opener expected [] = .error (.unbalanced opener) := by
  rw [closeBrackets.eq_def]

theorem closeBrackets_unopened (hquote : ¬ isQuote c = true) (hopen : closer? c = none)
    (hclose : isCloser c = true) :
    closeBrackets opener [] (c :: cs) = .error (.unbalanced c) := by
  rw [closeBrackets.eq_def]
  dsimp only
  rw [if_neg hquote, hopen]
  dsimp only
  rw [if_pos hclose]

theorem closeBrackets_mismatch (hquote : ¬ isQuote c = true) (hopen : closer? c = none)
    (hclose : isCloser c = true) (hd : d ≠ c) :
    closeBrackets opener (d :: outer) (c :: cs) = .error (.unbalanced c) := by
  rw [closeBrackets.eq_def]
  dsimp only
  rw [if_neg hquote, hopen]
  dsimp only
  rw [if_pos hclose]
  cases outer <;> dsimp only <;> rw [if_neg hd]

theorem closeBrackets_openComment (h : afterComment cs = none) :
    closeBrackets opener expected ('#' :: cs) = .error (.unbalanced opener) := by
  rw [closeBrackets.eq_def]
  dsimp only
  rw [if_neg (by decide), show closer? '#' = none from rfl]
  dsimp only
  rw [if_neg (by decide), if_pos rfl]
  split
  · rfl
  · rename_i after hsome
    rw [h] at hsome
    cases hsome

end Unclosed

/-- A comment ends at the first line feed. -/
theorem afterComment_eq (cs : List Char) :
    afterComment cs = (cs.idxOf? '\n').map fun k => cs.drop (k + 1) := by
  induction cs with
  | nil => rfl
  | cons c cs ih =>
      rw [afterComment, List.idxOf?_cons, ih]
      by_cases hline : c = '\n'
      · simp [hline]
      · simp [hline, Function.comp_def]

/-- The end of a comment is found. -/
theorem find_lineFeed {text : String} {i : Nat} {cs : List Char}
    (h : text.toList.drop i = '#' :: cs) :
    (afterComment cs = none ∧ find text i '\n' = none) ∨
      ∃ k, afterComment cs = some (cs.drop (k + 1)) ∧ find text i '\n' = some (i + (k + 1)) := by
  rw [afterComment_eq, find, h, List.idxOf?_cons]
  cases cs.idxOf? '\n' with
  | none => exact .inl ⟨rfl, rfl⟩
  | some k => exact .inr ⟨k, rfl, rfl⟩

section Brackets

variable {text : String} {marker : Int} {start i : Nat} {opener c : Char}
  {expected inside cs : List Char}

/-- The rounds of the search for a closing bracket lead on to what closing the brackets answers
with. -/
abbrev BracketsLead (text : String) (marker : Int) (opener : Char) (s : Nat × List Char) :
    Walk (Round (Nat × List Char) Nat) → Prop :=
  Leads (fun _ => True)
    (fun s => told text marker (closeBrackets opener s.2 (text.toList.drop s.1)))
    (fun s => text.length - s.1) s

theorem unclosed_eq {α : Type} (h : text.toList.drop start = opener :: inside) :
    (unclosed text marker start : Walk α)
      = ends (.error (.failed (.refused (.malformed text marker (.unbalanced opener))))) := by
  rw [unclosed, charAt_of_drop h]
  rfl

theorem closerRound_leads (h : text.toList.drop i = c :: cs) (hquote : ¬ isQuote c = true)
    (hopen : closer? c = none) (hclose : isCloser c = true) :
    BracketsLead text marker opener (i, expected) (closerRound text marker c i expected) := by
  have hi := lt_length_of_drop h
  have hnext := drop_succ_of_drop h
  cases expected with
  | nil => exact .stop (by rw [h, closeBrackets_unopened hquote hopen hclose]; rfl)
  | cons d outer =>
      rw [closerRound]
      by_cases hd : d = c
      · subst hd
        rw [if_neg (not_not.mpr rfl)]
        cases outer with
        | nil =>
            have hbehind := offsetOf_of_drop hnext hi
            exact .done (by rw [h, closeBrackets_last hquote hopen hclose, told, hbehind])
        | cons e outer =>
            exact .again trivial (by dsimp only; omega)
              (by rw [hnext, h, closeBrackets_closer hquote hopen hclose])
      · rw [if_pos hd]
        exact .stop (by rw [h, closeBrackets_mismatch hquote hopen hclose hd]; rfl)

theorem commentRound_leads (hstart : text.toList.drop start = opener :: inside)
    (h : text.toList.drop i = '#' :: cs) :
    BracketsLead text marker opener (i, expected) (commentRound text marker start i expected) := by
  have hi := lt_length_of_drop h
  rw [commentRound]
  rcases find_lineFeed h with ⟨hnone, hfind⟩ | ⟨k, hsome, hfind⟩
  · rw [hfind, unclosed_eq hstart]
    exact .stop (by rw [h, closeBrackets_openComment hnone]; rfl)
  · have hline : text.toList.drop (i + (k + 1) + 1) = cs.drop (k + 1) := by
      rw [← drop_succ_of_drop h, List.drop_drop]
      congr 1
      omega
    rw [hfind]
    exact .again trivial (by dsimp only; omega)
      (by rw [hline, h, closeBrackets_comment hsome])

/-- Every round of the search for a closing bracket leads on. -/
theorem bracketRound_leads (marker : Int) (hstart : text.toList.drop start = opener :: inside)
    (s : Nat × List Char) :
    BracketsLead text marker opener s (bracketRound text marker start s) := by
  obtain ⟨i, expected⟩ := s
  cases hdrop : text.toList.drop i with
  | nil =>
      rw [bracketRound, if_neg (not_lt_length_of_drop hdrop), unclosed_eq hstart]
      exact .stop (by rw [hdrop, closeBrackets_nil]; rfl)
  | cons c cs =>
      have hi := lt_length_of_drop hdrop
      have hnext := drop_succ_of_drop hdrop
      rw [bracketRound, if_pos hi, charAt_of_drop hdrop, ends_ok_bind]
      by_cases hquote : isQuote c = true
      · rw [if_pos hquote, stringEnd_eq marker hdrop]
        cases hstring : afterString c cs with
        | none => exact .stop (by rw [hdrop, closeBrackets_unterminated hquote hstring]; rfl)
        | some after =>
            obtain ⟨hafter, hbehind, hle⟩ := offsetOf_of_suffix hdrop (afterString_suffix hstring)
            exact .again trivial (by dsimp only; omega)
              (by rw [hafter, hdrop, closeBrackets_string hquote hstring])
      rw [if_neg hquote]
      cases hopen : closer? c with
      | some d =>
          exact .again trivial (by dsimp only; omega)
            (by rw [hnext, hdrop, closeBrackets_opener hquote hopen])
      | none =>
          dsimp only
          by_cases hclose : isCloser c = true
          · rw [if_pos hclose]
            exact closerRound_leads hdrop hquote hopen hclose
          rw [if_neg hclose]
          by_cases hcomment : c = '#'
          · subst hcomment
            rw [if_pos rfl]
            exact commentRound_leads hstart hdrop
          · rw [if_neg hcomment]
            exact .again trivial (by dsimp only; omega)
              (by rw [hnext, hdrop, closeBrackets_other hquote hopen hclose hcomment])

/-- The offset behind the bracket that closes an open one is found. -/
theorem bracketEnd_eq {d : Char} (marker : Int) (hopen : closer? opener = some d)
    (h : text.toList.drop i = opener :: cs) :
    bracketEnd text marker i = ends (told text marker (afterBracket opener cs)) := by
  rw [bracketEnd, loop_eq (fun s _ => bracketRound_leads marker h s) trivial, h,
    closeBrackets_opener (not_isQuote_of_closer? hopen) hopen, afterBracket, hopen]
  rfl

end Brackets

/-- A comment without a line feed hides the closing bracket. -/
example : bracketEnd "(# )" 0 0
    = ends (.error (.failed (.refused (.malformed "(# )" 0 (.unbalanced '('))))) := by cbv

/-! ## Access paths -/

section Paths

variable {text : String} {i : Nat}

/-- A round of the search for the end of a name leads on to the offset behind the name. -/
theorem nameRound_leads (hi : i ≤ text.length) :
    Leads (· ≤ text.length) (fun i => .ok (offsetOf text (afterName (text.toList.drop i))))
      (text.length - ·) i (nameRound text i) := by
  cases hdrop : text.toList.drop i with
  | nil =>
      rw [nameRound, if_neg (not_lt_length_of_drop hdrop)]
      exact .done (by rw [hdrop]; exact congrArg _ (offsetOf_of_drop hdrop hi))
  | cons c cs =>
      have hlt := lt_length_of_drop hdrop
      rw [nameRound, if_pos hlt, charAt_of_drop hdrop, ends_ok_bind]
      by_cases hc : isNameChar c = true
      · rw [if_pos hc]
        exact .again hlt (by omega)
          (by rw [drop_succ_of_drop hdrop, hdrop, afterName, afterName,
            List.dropWhile_cons_of_pos hc])
      · rw [if_neg hc]
        refine .done ?_
        rw [hdrop, afterName, List.dropWhile_cons_of_neg hc, offsetOf_of_drop hdrop hi]

/-- The offset behind a name is found. -/
theorem nameEnd_eq (hi : i ≤ text.length) :
    nameEnd text i = ends (.ok (offsetOf text (afterName (text.toList.drop i)))) :=
  loop_eq (fun _ hi => nameRound_leads hi) hi

/-- The rounds of the search for the end of the accesses lead on to what reading the accesses
answers with. -/
abbrev AccessesLead (text : String) (marker : Int) : Nat → Walk (Round Nat Nat) → Prop :=
  Leads (· ≤ text.length) (fun i => told text marker (afterAccesses (text.toList.drop i)))
    (text.length - ·)

/-- The accesses end where no access begins. -/
theorem accessesLead_done {marker : Int} {cs : List Char} (hi : i ≤ text.length)
    (hdrop : text.toList.drop i = cs) (h : NoAccess cs) :
    AccessesLead text marker i (ends (.ok (.done i))) := by
  refine .done ?_
  rw [hdrop, afterAccesses_of_noAccess h, told, offsetOf_of_drop hdrop hi]

theorem attributeRound_leads {marker : Int} {cs : List Char}
    (h : text.toList.drop i = '.' :: cs) :
    AccessesLead text marker i (attributeRound text i) := by
  have hlt := lt_length_of_drop h
  have hnext := drop_succ_of_drop h
  rw [attributeRound]
  cases cs with
  | nil =>
      rw [if_neg (not_lt_length_of_drop hnext)]
      exact accessesLead_done hlt.le h ⟨by decide, nofun⟩
  | cons d ds =>
      rw [if_pos (lt_length_of_drop hnext), charAt_of_drop hnext, ends_ok_bind]
      by_cases hd : isNameStart d = true
      · have hname : afterName (d :: ds) = afterName ds :=
          List.dropWhile_cons_of_pos (isNameChar_of_isNameStart hd)
        obtain ⟨hafter, hbehind, hle⟩ := offsetOf_of_suffix hnext (afterName_suffix ds)
        rw [if_pos hd, nameEnd_eq (lt_length_of_drop hnext).le, hnext, hname]
        exact .again hle (by omega) (by rw [hafter, h, afterAccesses, if_pos hd])
      · rw [if_neg hd]
        refine accessesLead_done hlt.le h ⟨by simp, fun e rest heq => ?_⟩
        obtain ⟨rfl, -⟩ := List.cons.inj (List.cons.inj heq).2
        exact eq_false_of_ne_true hd

/-- Every round of the search for the end of the accesses leads on. -/
theorem accessRound_leads (marker : Int) (hi : i ≤ text.length) :
    AccessesLead text marker i (accessRound text marker i) := by
  cases hdrop : text.toList.drop i with
  | nil =>
      rw [accessRound, if_neg (not_lt_length_of_drop hdrop)]
      exact accessesLead_done hi hdrop ⟨nofun, nofun⟩
  | cons c cs =>
      rw [accessRound, if_pos (lt_length_of_drop hdrop), charAt_of_drop hdrop, ends_ok_bind]
      by_cases hdot : c = '.'
      · subst hdot
        rw [if_pos rfl]
        exact attributeRound_leads hdrop
      rw [if_neg hdot]
      by_cases hbracket : c = '['
      · subst hbracket
        rw [if_pos rfl, bracketEnd_eq marker rfl hdrop]
        cases hafter : afterBracket '[' cs with
        | error reason => exact .stop (by rw [hdrop, afterAccesses_of_error hafter]; rfl)
        | ok after =>
            obtain ⟨hrest, hbehind, hle⟩ := offsetOf_of_suffix hdrop (closeBrackets_suffix hafter)
            exact .again hle (by omega) (by rw [hrest, hdrop, afterAccesses_subscript hafter])
      · rw [if_neg hbracket]
        exact accessesLead_done hi hdrop ⟨fun hhead => hbracket (Option.some.inj hhead),
          fun d rest heq => absurd (List.cons.inj heq).1 hdot⟩

/-- The offset behind a name with accesses is found. -/
theorem pathEnd_eq {c : Char} {cs : List Char} (marker : Int) (h : text.toList.drop i = c :: cs)
    (hc : isNameStart c = true) :
    pathEnd text marker i = ends (told text marker (afterAccesses (afterName cs))) := by
  have hname : afterName (c :: cs) = afterName cs :=
    List.dropWhile_cons_of_pos (isNameChar_of_isNameStart hc)
  obtain ⟨hafter, -, hle⟩ := offsetOf_of_suffix h (afterName_suffix cs)
  rw [pathEnd, nameEnd_eq (lt_length_of_drop h).le, ends_ok_bind, h, hname,
    loop_eq (fun _ hi => accessRound_leads marker hi) hle, hafter]

/-- A dot that no name follows is no access. -/
example : pathEnd "x." 0 0 = ends (.ok 1) := by cbv

end Paths

/-! ## Sites -/

section Sites

variable {Code : Type} {compile : List Char → Verdict Code} {text : String} {start : Nat} {c : Char}
  {inner after : List Char}

/-- The text of a site that is a name with accesses. -/
theorem between_source (h : text.toList.drop start = c :: (inner ++ after)) :
    between text start (offsetOf text after) = c :: inner := by
  rw [← List.cons_append] at h
  rw [between, h, offsetOf_of_append h (lt_length_of_drop h).le, Nat.add_sub_cancel_left,
    List.take_left]

/-- The text between the parentheses of a site. -/
theorem between_parentheses (h : text.toList.drop start = c :: (inner ++ after)) :
    between text (start + 1) (offsetOf text after - 1) = inner.dropLast := by
  have hnext := drop_succ_of_drop h
  have hlength : start + 1 + inner.length - 1 - (start + 1) = inner.length - 1 := by omega
  rw [between, hnext, offsetOf_of_append hnext (lt_length_of_drop h), hlength,
    List.dropLast_eq_take, List.take_append_of_le_length (Nat.sub_le _ _)]

/-- A site that has been made, with the offset behind it. -/
theorem made_bind (marker : Int) (x : Except Unread (Site Code)) (stop : Nat) :
    (do pure (← made text marker x, stop)) = ends
      ((x.mapError fun why => .failed (why.failure text marker)) |>.map (·, stop)) := by
  cases x <;> rfl

theorem siteAt_eq {x : Except Unread (Site Code)} {rest : List Char}
    (h : Site.read compile (text.toList.drop start) = x.map (·, rest)) :
    siteAt compile text start
      = (x.mapError (·.failure text ((start : Int) - 1)) |>.map (·, offsetOf text rest)) := by
  rw [siteAt, h, offsetOf, ← String.length_toList]
  cases x <;> rfl

theorem siteAt_of_error {why : Unread}
    (h : Site.read compile (text.toList.drop start) = .error why) :
    siteAt compile text start = .error (why.failure text ((start : Int) - 1)) := by
  rw [siteAt, h]

/-- The search for the site at an offset ends, and it comes to what reading the site comes to. -/
theorem siteFrom_eq (compile : List Char → Verdict Code) (text : String) (start : Nat) :
    siteFrom compile text start = ends ((siteAt compile text start).mapError .failed) := by
  cases hdrop : text.toList.drop start with
  | nil =>
      have hread : Site.read compile [] = .error (.malformed .missing) := rfl
      rw [siteFrom, if_neg (not_lt_length_of_drop hdrop), siteAt_of_error (by rw [hdrop, hread])]
      rfl
  | cons c cs =>
      rw [siteFrom, if_pos (lt_length_of_drop hdrop), charAt_of_drop hdrop, ends_ok_bind]
      by_cases hparen : c = '('
      · subst hparen
        rw [if_pos rfl, bracketEnd_eq _ rfl hdrop]
        cases hafter : afterBracket '(' cs with
        | error reason =>
            rw [siteAt_of_error (by rw [hdrop, Site.read_of_error hafter])]
            rfl
        | ok after =>
            obtain ⟨inner, rfl⟩ := closeBrackets_suffix hafter
            rw [told, ends_ok_bind, between_parentheses hdrop, made_bind,
              siteAt_eq (by rw [hdrop, Site.read_parenthesised hafter])]
            cases Site.ofInner compile inner.dropLast <;> rfl
      rw [if_neg hparen]
      by_cases hname : isNameStart c = true
      · rw [if_pos hname, pathEnd_eq _ hdrop hname]
        cases hafter : afterAccesses (afterName cs) with
        | error reason =>
            have hread : Site.read compile (c :: cs) = .error (.malformed reason) := by
              rw [Site.read, if_neg hparen, if_pos hname, hafter]
            rw [siteAt_of_error (by rw [hdrop, hread])]
            rfl
        | ok after =>
            obtain ⟨inner, rfl⟩ := (afterAccesses_suffix hafter).trans (afterName_suffix cs)
            rw [told, ends_ok_bind, between_source hdrop, made_bind,
              siteAt_eq (by rw [hdrop, Site.read_named hparen hname hafter])]
            cases Site.make compile (c :: inner) (c :: inner) false <;> rfl
      · have hread : Site.read compile (c :: cs) = .error (.malformed (.unexpected c)) := by
          rw [Site.read, if_neg hparen, if_neg hname]
        rw [if_neg hname, siteAt_of_error (by rw [hdrop, hread])]
        rfl

end Sites

end Walk

end BoundSql.Template
