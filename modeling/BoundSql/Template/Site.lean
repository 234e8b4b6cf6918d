import BoundSql.Template.Bracket
import BoundSql.Text.Blank
import BoundSql.Text.Letters
set_option autoImplicit false

/-!
# Interpolation sites

What may follow a marker: a name with any chain of attributes and subscripts, an expression in
parentheses, or a splat in parentheses, whose elements stand for a comma separated list.  The
language of the expressions is left open: `compile` says what becomes of a source.

Reading a site can fail in two ways.  Either no expression follows the marker, for one of the
reasons of `Reason`, or the language ran out of something over the source and could not tell.
Brackets, strings and names are matched before the language is asked, so that only the last step,
`Site.make`, can run out.
-/

namespace BoundSql.Template

/-- What becomes of a source that is read as an expression. -/
inductive Verdict (Code : Type) where
  | code (c : Code)
  /-- the source is no expression -/
  | invalid
  /-- something ran out before that could be told -/
  | exhausted (e : Exhaustion)
  deriving DecidableEq, Repr, Inhabited

/-- The verdict of a language that runs out of nothing. -/
def Verdict.ofOption {Code : Type} : Option Code → Verdict Code
  | some c => .code c
  | none => .invalid

/-- Why no site was read. -/
inductive Unread where
  | malformed (reason : Reason)
  | exhausted (e : Exhaustion)
  deriving DecidableEq, Repr, Inhabited

/-- An interpolation site: the source as it was written, whether it is a splat, and what the
language of expressions made of it. -/
structure Site (Code : Type) where
  source : String
  splat : Bool
  code : Code
  deriving DecidableEq, Repr, Inhabited

/-! ## Access paths -/

/-- A character that begins a name at a site. -/
def isNameStart (c : Char) : Bool := c == '_' || Text.isLetter c

/-- A character that continues a name at a site. -/
def isNameChar (c : Char) : Bool := c == '_' || Text.isAlphanumeric c

theorem isNameChar_of_isNameStart {c : Char} (h : isNameStart c = true) : isNameChar c = true := by
  simp only [isNameStart, isNameChar, Bool.or_eq_true] at h ⊢
  exact h.imp_right Text.isAlphanumeric_of_isLetter

/-- The text behind a name. -/
def afterName (cs : List Char) : List Char := cs.dropWhile isNameChar

theorem afterName_length_le (cs : List Char) : (afterName cs).length ≤ cs.length := by
  induction cs with
  | nil => simp [afterName]
  | cons c cs ih =>
      simp only [afterName, List.dropWhile_cons] at ih ⊢
      split
      · exact Nat.le_succ_of_le ih
      · exact Nat.le_refl _

/-- The text behind the attributes and subscripts that follow a name.  A dot that no name
follows is text. -/
def afterAccesses (cs : List Char) : Except Reason (List Char) :=
  match cs with
  | '.' :: c :: rest =>
      if isNameStart c then
        have := afterName_length_le rest
        afterAccesses (afterName rest)
      else .ok cs
  | '[' :: rest =>
      match h : afterBracket '[' rest with
      | .error r => .error r
      | .ok after =>
          have := afterBracket_length_lt h
          afterAccesses after
  | _ => .ok cs
termination_by cs.length
decreasing_by all_goals (simp_wf; omega)

theorem afterAccesses_length_le {cs rest : List Char} (h : afterAccesses cs = .ok rest) :
    rest.length ≤ cs.length := by
  fun_induction afterAccesses cs with
  | case1 c rest' hc hlen ih =>
      have := ih h
      simp only [List.length_cons]
      omega
  | case2 => simp_all
  | case3 => simp at h
  | case4 rest' after hb hlen ih =>
      have := ih h
      simp only [List.length_cons]
      omega
  | case5 => simp_all

/-! ## Sites -/

/-- The part of `whole` in front of its last `rest.length` characters. -/
def spanBefore (whole rest : List Char) : List Char := whole.take (whole.length - rest.length)

/-- A site whose source must be an expression when it is read as `source`; it is shown as
`shown`. -/
def Site.make {Code : Type} (compile : List Char → Verdict Code) (shown source : List Char)
    (splat : Bool) : Except Unread (Site Code) :=
  if shown.isEmpty then .error (.malformed .empty)
  else
    match compile source with
    | .code code => .ok ⟨String.ofList shown, splat, code⟩
    | .invalid => .error (.malformed (.invalid (String.ofList shown)))
    | .exhausted e => .error (.exhausted e)

/-- A splat begins with one star; two stars begin no splat. -/
def isSplat : List Char → Bool
  | '*' :: '*' :: _ => false
  | '*' :: _ => true
  | _ => false

/-- The site that stands between parentheses.  A splat is read as the tuple of its elements, a
plain expression in parentheses of its own, so that it may span lines; the line feed keeps a
comment at its end from hiding the closing parenthesis. -/
def Site.ofInner {Code : Type} (compile : List Char → Verdict Code) (inner : List Char) :
    Except Unread (Site Code) :=
  let shown := Text.trim inner
  if isSplat shown then
    Site.make compile shown
      ('(' :: (Text.dropRightWhile (· == ',') shown ++ [',', ')'])) true
  else
    Site.make compile shown ('(' :: (shown ++ ['\n', ')'])) false

/-- Reads the site behind a marker and answers with the text that is left. -/
def Site.read {Code : Type} (compile : List Char → Verdict Code) (cs : List Char) :
    Except Unread (Site Code × List Char) :=
  match cs with
  | [] => .error (.malformed .missing)
  | c :: rest =>
      if c = '(' then
        match afterBracket '(' rest with
        | .error r => .error (.malformed r)
        | .ok after =>
            match Site.ofInner compile (spanBefore rest (')' :: after)) with
            | .error why => .error why
            | .ok site => .ok (site, after)
      else if isNameStart c then
        match afterAccesses (afterName rest) with
        | .error r => .error (.malformed r)
        | .ok after =>
            match Site.make compile (spanBefore cs after) (spanBefore cs after) false with
            | .error why => .error why
            | .ok site => .ok (site, after)
      else .error (.malformed (.unexpected c))

theorem Site.read_length_lt {Code : Type} {compile : List Char → Verdict Code}
    {cs rest : List Char} {site : Site Code} (h : Site.read compile cs = .ok (site, rest)) :
    rest.length < cs.length := by
  unfold Site.read at h
  split at h
  · simp at h
  · rename_i c cs'
    split at h
    · split at h
      · simp at h
      · rename_i after hb
        split at h
        · simp at h
        · have := afterBracket_length_lt hb
          simp only [Except.ok.injEq, Prod.mk.injEq] at h
          obtain ⟨-, rfl⟩ := h
          simp only [List.length_cons]
          omega
    · split at h
      · split at h
        · simp at h
        · rename_i after ha
          split at h
          · simp at h
          · have h₁ := afterAccesses_length_le ha
            have h₂ := afterName_length_le cs'
            simp only [Except.ok.injEq, Prod.mk.injEq] at h
            obtain ⟨-, rfl⟩ := h
            simp only [List.length_cons]
            omega
      · simp at h

end BoundSql.Template
