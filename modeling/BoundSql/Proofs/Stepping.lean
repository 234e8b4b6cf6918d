import BoundSql.Proofs.Cutting
set_option autoImplicit false

/-!
# Cutting one piece at a time

The relation `Cuts` speaks of texts that fall into pieces as a whole.  Here one piece is cut off at
a time, so that something can also be said of the pieces in front of a place where cutting fails,
and of the pieces in front of a text that is put behind another one.

A `Remainder` is a text that is left, with what cutting has to know of the text before it, which is
no more than whether an SQL string is open.  `CutsOff` cuts one piece off a remainder, in one way
only (`CutsOff.unique`), and `Reaches` some pieces.  As long as text is left, a piece can be cut off
it, or it begins with a marker that is refused (`Refused`, `cutsOff_or_refused`).  So following a
text piece by piece ends at its end or at a refusal (`exists_reaches_end_or_refused`), and scanning
succeeds or fails by that (`pieces_eq_ok_iff_reaches`, `scan_eq_error_iff`).

The failure that is told carries the place of the marker and the text from there on, which are those
of the remainder (`details_of_failure_eq`).
-/

namespace BoundSql.Template

variable {Code : Type} {settings : Settings} {compile : List Char → Verdict Code}

/-- What is left of a text that is being cut, and whether it begins inside an SQL string. -/
structure Remainder where
  inString : Bool
  text : List Char
  deriving DecidableEq, Repr, Inhabited

/-- Whether text begins inside an SQL string behind a character. -/
def quoteTurns (inString : Bool) (c : Char) : Bool := if c = '\'' then !inString else inString

/-- One piece is cut off. -/
inductive CutsOff (settings : Settings) (compile : List Char → Verdict Code) :
    Remainder → Piece Code → Remainder → Prop where
  /-- a character stands for itself; a marker does so inside a string only, if at all, and an
  escape does so unless a marker follows it outside a string -/
  | char {inString : Bool} {c : Char} {rest : List Char}
      (quoted : c = settings.marker → inString = true ∧ settings.allowMarkersInStrings = true)
      (single : c = settings.escape → inString = false → rest.head? ≠ some settings.marker) :
      CutsOff settings compile ⟨inString, c :: rest⟩ (.char c) ⟨quoteTurns inString c, rest⟩
  | escapedMarker {rest : List Char} :
      CutsOff settings compile ⟨false, settings.escape :: settings.marker :: rest⟩ .escapedMarker
        ⟨false, rest⟩
  | site {site : Site Code} {span rest : List Char}
      (reads : Site.read compile (span ++ rest) = .ok (site, rest)) :
      CutsOff settings compile ⟨false, settings.marker :: (span ++ rest)⟩ (.site site span)
        ⟨false, rest⟩

/-- Some pieces are cut off, one after the other. -/
inductive Reaches (settings : Settings) (compile : List Char → Verdict Code) :
    Remainder → List (Piece Code) → Remainder → Prop where
  | refl (a : Remainder) : Reaches settings compile a [] a
  | cons {a b c : Remainder} {p : Piece Code} {ps : List (Piece Code)}
      (first : CutsOff settings compile a p b) (others : Reaches settings compile b ps c) :
      Reaches settings compile a (p :: ps) c

/-- What is left begins with a marker that is not taken: it stands inside a string, or no site is
read behind it, be it that none is there or that something runs out over its expression. -/
inductive Refused (settings : Settings) (compile : List Char → Verdict Code) :
    Remainder → ScanCause → Prop where
  | quotedMarker {rest : List Char} (strict : settings.allowMarkersInStrings = false) :
      Refused settings compile ⟨true, settings.marker :: rest⟩ .quotedMarker
  | unread {rest : List Char} {why : Unread}
      (fails : Site.read compile rest = .error why) :
      Refused settings compile ⟨false, settings.marker :: rest⟩ (.unread why)

/-! ## A single piece -/

/-- A piece takes at least one character along. -/
theorem CutsOff.exists_front {a b : Remainder} {p : Piece Code}
    (h : CutsOff settings compile a p b) :
    ∃ front, a.text = front ++ b.text ∧ 0 < front.length := by
  cases h with
  | @char inString c rest _ _ => exact ⟨[c], rfl, Nat.one_pos⟩
  | escapedMarker => exact ⟨[settings.escape, settings.marker], rfl, Nat.two_pos⟩
  | @site site span rest _ => exact ⟨settings.marker :: span, rfl, Nat.succ_pos span.length⟩

theorem CutsOff.length_lt {a b : Remainder} {p : Piece Code}
    (h : CutsOff settings compile a p b) : b.text.length < a.text.length := by
  obtain ⟨front, htext, hpos⟩ := h.exists_front
  rw [htext, List.length_append]
  omega

/-- Cutting goes on behind a piece that is cut off. -/
theorem CutsOff.pieces_eq {a b : Remainder} {p : Piece Code}
    (h : CutsOff settings compile a p b) :
    pieces settings compile a.inString a.text
      = (pieces settings compile b.inString b.text).map (p :: ·) := by
  cases h with
  | char quoted single => exact pieces_char quoted single
  | escapedMarker => exact pieces_escapedMarker _
  | site reads => exact pieces_site reads

/-- At most one piece can be cut off. -/
theorem CutsOff.unique {a b c : Remainder} {p q : Piece Code}
    (h₁ : CutsOff settings compile a p b) (h₂ : CutsOff settings compile a q c) :
    p = q ∧ b = c := by
  cases h₁ with
  | char quoted single =>
      cases h₂ with
      | char => exact ⟨rfl, rfl⟩
      | escapedMarker => exact absurd rfl (single rfl rfl)
      | site => exact absurd (quoted rfl).1 Bool.false_ne_true
  | escapedMarker =>
      generalize ha : (⟨false, settings.escape :: settings.marker :: _⟩ : Remainder) = a at h₂
      cases h₂ with
      | char quoted single =>
          cases ha
          exact absurd rfl (single rfl rfl)
      | escapedMarker =>
          cases ha
          exact ⟨rfl, rfl⟩
      | site =>
          obtain ⟨-, htext⟩ := Remainder.mk.inj ha
          exact absurd (List.cons.inj htext).1.symm settings.marker_ne_escape
  | @site site span rest reads =>
      generalize ha : (⟨false, settings.marker :: (span ++ rest)⟩ : Remainder) = a at h₂
      cases h₂ with
      | char quoted single =>
          cases ha
          exact absurd (quoted rfl).1 Bool.false_ne_true
      | escapedMarker =>
          obtain ⟨-, htext⟩ := Remainder.mk.inj ha
          exact absurd (List.cons.inj htext).1 settings.marker_ne_escape
      | @site site' span' rest' reads' =>
          obtain ⟨-, htext⟩ := Remainder.mk.inj ha
          obtain ⟨-, hspan⟩ := List.cons.inj htext
          rw [hspan, reads'] at reads
          obtain ⟨rfl, rfl⟩ := Prod.mk.inj (Except.ok.inj reads)
          obtain rfl := List.append_cancel_right hspan
          exact ⟨rfl, rfl⟩

/-- Cutting fails at a marker that is refused. -/
theorem Refused.pieces_eq {a : Remainder} {cause : ScanCause}
    (h : Refused settings compile a cause) :
    pieces settings compile a.inString a.text = .error ⟨cause, a.text⟩ := by
  cases h with
  | quotedMarker strict =>
      rw [pieces.eq_def]
      simp only [if_true, strict, Bool.false_eq_true, if_false]
  | unread fails =>
      rw [pieces.eq_def]
      dsimp only
      rw [if_pos rfl, if_neg Bool.false_ne_true]
      split
      · rename_i why' h
        rw [fails] at h
        obtain rfl := Except.error.inj h
        rfl
      · rename_i site after h
        rw [fails] at h
        cases h

/-- As long as text is left, a piece can be cut off, unless a marker is refused. -/
theorem cutsOff_or_refused (settings : Settings) (compile : List Char → Verdict Code)
    (a : Remainder) (h : a.text ≠ []) :
    (∃ p b, CutsOff settings compile a p b) ∨ ∃ cause, Refused settings compile a cause := by
  obtain ⟨inString, text⟩ := a
  obtain ⟨c, rest, rfl⟩ := List.exists_cons_of_ne_nil h
  by_cases hmarker : c = settings.marker
  · subst hmarker
    cases inString with
    | true =>
        cases hallow : settings.allowMarkersInStrings with
        | false => exact .inr ⟨_, .quotedMarker hallow⟩
        | true =>
            refine .inl ⟨_, _, .char (fun _ => ⟨rfl, hallow⟩) fun he => ?_⟩
            exact absurd he settings.marker_ne_escape
    | false =>
        cases hread : Site.read compile rest with
        | error why => exact .inr ⟨_, .unread hread⟩
        | ok answer =>
            obtain ⟨site, after⟩ := answer
            obtain ⟨span, rfl⟩ := Site.read_suffix hread
            exact .inl ⟨_, _, .site hread⟩
  · left
    by_cases hescaped : c = settings.escape ∧ inString = false ∧ rest.head? = some settings.marker
    · obtain ⟨rfl, rfl, hhead⟩ := hescaped
      obtain ⟨after, rfl⟩ := List.head?_eq_some_iff.mp hhead
      exact ⟨_, _, .escapedMarker⟩
    · refine ⟨_, _, .char (fun hc => absurd hc hmarker) fun he hout hhead => ?_⟩
      exact hescaped ⟨he, hout, hhead⟩

/-! ## Some pieces -/

theorem Reaches.single {a b : Remainder} {p : Piece Code} (h : CutsOff settings compile a p b) :
    Reaches settings compile a [p] b :=
  .cons h (.refl b)

theorem Reaches.append {a b c : Remainder} {ps qs : List (Piece Code)}
    (h₁ : Reaches settings compile a ps b) (h₂ : Reaches settings compile b qs c) :
    Reaches settings compile a (ps ++ qs) c := by
  induction h₁ with
  | refl => exact h₂
  | cons first others ih => exact .cons first (ih h₂)

/-- What is left is the end of what was there. -/
theorem Reaches.suffix {a b : Remainder} {ps : List (Piece Code)}
    (h : Reaches settings compile a ps b) : b.text <:+ a.text := by
  induction h with
  | refl a => exact List.suffix_rfl
  | cons first others ih =>
      obtain ⟨front, htext, -⟩ := first.exists_front
      exact ih.trans ⟨front, htext.symm⟩

/-- Cutting goes on behind the pieces that are cut off. -/
theorem Reaches.pieces_eq {a b : Remainder} {ps : List (Piece Code)}
    (h : Reaches settings compile a ps b) :
    pieces settings compile a.inString a.text
      = (pieces settings compile b.inString b.text).map (ps ++ ·) := by
  induction h with
  | refl a =>
      cases pieces settings compile a.inString a.text with
      | error e => rfl
      | ok qs => rfl
  | @cons a b c p ps first others ih =>
      rw [first.pieces_eq, ih]
      cases pieces settings compile c.inString c.text with
      | error e => rfl
      | ok qs => rfl

/-! ## Where cutting ends -/

/-- Cutting comes to the end of the text or to a marker that is refused. -/
theorem exists_reaches_end_or_refused (settings : Settings) (compile : List Char → Verdict Code)
    (a : Remainder) :
    ∃ ps b, Reaches settings compile a ps b ∧
      (b.text = [] ∨ ∃ cause, Refused settings compile b cause) := by
  obtain ⟨n, hn⟩ : ∃ n, n = a.text.length := ⟨_, rfl⟩
  -- Each piece takes text along, so that the induction is on the length of what is left.
  induction n using Nat.strongRecOn generalizing a with
  | _ n ih =>
      by_cases htext : a.text = []
      · exact ⟨[], a, .refl a, .inl htext⟩
      · rcases cutsOff_or_refused settings compile a htext with ⟨p, b, hcut⟩ | hrefused
        · obtain ⟨ps, c, hreaches, hend⟩ := ih b.text.length (hn ▸ hcut.length_lt) b rfl
          exact ⟨p :: ps, c, .cons hcut hreaches, hend⟩
        · exact ⟨[], a, .refl a, .inr hrefused⟩

/-- Cutting succeeds with the pieces that are cut off until no text is left. -/
theorem pieces_eq_ok_iff_reaches {inString : Bool} {cs : List Char} {ps : List (Piece Code)} :
    pieces settings compile inString cs = .ok ps ↔
      ∃ ending, Reaches settings compile ⟨inString, cs⟩ ps ⟨ending, []⟩ := by
  constructor
  · intro h
    obtain ⟨qs, ⟨ending, text⟩, hreaches, hend⟩ :=
      exists_reaches_end_or_refused settings compile ⟨inString, cs⟩
    rw [hreaches.pieces_eq] at h
    rcases hend with htext | ⟨cause, hrefused⟩
    · obtain rfl : text = [] := htext
      rw [pieces_nil] at h
      obtain rfl : qs ++ [] = ps := Except.ok.inj h
      rw [List.append_nil]
      exact ⟨ending, hreaches⟩
    · rw [hrefused.pieces_eq] at h
      cases h
  · rintro ⟨ending, hreaches⟩
    rw [hreaches.pieces_eq, pieces_nil]
    exact congrArg Except.ok (List.append_nil ps)

/-- Cutting fails at the first marker that is refused. -/
theorem pieces_eq_error_iff {inString : Bool} {cs : List Char} {e : ScanError} :
    pieces settings compile inString cs = .error e ↔
      ∃ ps b, Reaches settings compile ⟨inString, cs⟩ ps b ∧ Refused settings compile b e.cause ∧
        e.suffix = b.text := by
  constructor
  · intro h
    obtain ⟨qs, b, hreaches, hend⟩ :=
      exists_reaches_end_or_refused settings compile ⟨inString, cs⟩
    rw [hreaches.pieces_eq] at h
    rcases hend with htext | ⟨cause, hrefused⟩
    · rw [htext, pieces_nil] at h
      cases h
    · rw [hrefused.pieces_eq] at h
      obtain rfl : ScanError.mk cause b.text = e := Except.error.inj h
      exact ⟨qs, b, hreaches, hrefused, rfl⟩
  · rintro ⟨ps, b, hreaches, hrefused, hsuffix⟩
    rw [hreaches.pieces_eq, hrefused.pieces_eq, ← hsuffix]
    rfl

/-! ## Where scanning fails -/

/-- Scanning fails where cutting fails. -/
theorem scan_eq_error_iff {text : String} {f : ScanFailure} :
    scan settings compile text = .error f ↔
      ∃ e, pieces settings compile false text.toList = .error e ∧ f = e.failure text := by
  unfold scan scanChars
  cases pieces settings compile false text.toList with
  | error e =>
      constructor
      · intro h
        exact ⟨e, rfl, (Except.error.inj h).symm⟩
      · rintro ⟨e', he, rfl⟩
        obtain rfl := Except.error.inj he
        rfl
  | ok ps =>
      constructor
      · intro h
        cases h
      · rintro ⟨e, he, -⟩
        cases he

/-- A failure carries the end of the text along. -/
theorem suffix_of_pieces_eq_error {inString : Bool} {cs : List Char} {e : ScanError}
    (h : pieces settings compile inString cs = .error e) : e.suffix <:+ cs := by
  obtain ⟨ps, b, hreaches, -, hsuffix⟩ := pieces_eq_error_iff.mp h
  rw [hsuffix]
  exact hreaches.suffix

/-- The text from the place on where an end of it begins is that end. -/
theorem textFrom_of_suffix {cs suffix : List Char} (h : suffix <:+ cs) :
    textFrom cs ((cs.length : Int) - suffix.length) = suffix := by
  rw [← Int.ofNat_sub h.length_le, textFrom_ofNat]
  exact (List.suffix_iff_eq_drop.mp h).symm

/-- The details of a refusal tell the place of the marker in question, and the text from there
on. -/
theorem details_of_failure_eq {text : String} {e : ScanError} {refusal : TemplateError}
    (h : e.suffix <:+ text.toList) (refused : e.failure text = .refused refusal) :
    refusal.details
      = ⟨text, some ((text.toList.length : Int) - e.suffix.length),
          some (String.ofList e.suffix)⟩ := by
  have hfrom := textFrom_of_suffix h
  obtain ⟨cause, suffix⟩ := e
  cases cause with
  | quotedMarker =>
      obtain rfl := ScanFailure.refused.inj refused
      simp only [TemplateError.details, hfrom]
  | unread why =>
      cases why with
      | malformed reason =>
          obtain rfl := ScanFailure.refused.inj refused
          simp only [TemplateError.details, hfrom]
      | exhausted e => cases refused

end BoundSql.Template
