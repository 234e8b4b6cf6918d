import Mathlib
import BoundSql.Template.Scan
set_option autoImplicit false

/-!
# How text is cut into pieces

The relation `Cuts` says how a text falls into pieces, one rule for each kind of piece, and leaves
out how the cutting is done.  Cutting succeeds with exactly the pieces that the rules give
(`pieces_eq_ok_iff`), so that every fact about the pieces of a text is an induction over this
relation, with one case for each rule.

The function that cuts goes on with the text that is left behind each piece, which is why it needs a
measure to end.  None of that is seen through the relation: it says of a character, of an escaped
marker and of a site what has to be true of the text and of the count of quotes for it to be the
next piece, and nothing about the pieces behind it.

That every reader leaves a suffix of its text comes first (`Site.read_suffix`).  It is what makes a
site a span of the text, with an offset, a source and an end.
-/

namespace BoundSql.Template

/-! ## What is left is the end of what was given

Every reader of a site answers with the text that is left.  That text is a suffix of the text that
was read from, so that a site takes up a span of its own. -/

theorem afterString_suffix {quote : Char} {cs rest : List Char}
    (h : afterString quote cs = some rest) : rest <:+ cs := by
  unfold afterString at h
  split at h
  · rename_i a b ds
    split at h
    · exact (skipString_suffix h).trans ((List.suffix_cons b ds).trans (List.suffix_cons a _))
    · exact skipString_suffix h
  · exact skipString_suffix h

theorem afterComment_suffix {cs rest : List Char} (h : afterComment cs = some rest) :
    rest <:+ cs := by
  induction cs with
  | nil => cases h
  | cons c cs ih =>
      rw [afterComment] at h
      split at h
      · obtain rfl : cs = rest := Option.some.inj h
        exact List.suffix_cons c cs
      · exact (ih h).trans (List.suffix_cons c cs)

theorem closeBrackets_suffix {opener : Char} {expected cs rest : List Char}
    (h : closeBrackets opener expected cs = .ok rest) : rest <:+ cs := by
  fun_induction closeBrackets opener expected cs with
  | case1 => cases h
  | case2 => cases h
  | case3 expected c ds _ after hafter _ ih =>
      exact (ih h).trans ((afterString_suffix hafter).trans (List.suffix_cons c ds))
  | case4 expected c ds _ d _ ih => exact (ih h).trans (List.suffix_cons c ds)
  | case5 => cases h
  | case6 ds d =>
      obtain rfl : ds = rest := Except.ok.inj h
      exact List.suffix_cons d ds
  | case7 => cases h
  | case8 ds d e outer _ _ _ ih => exact (ih h).trans (List.suffix_cons d ds)
  | case9 => cases h
  | case10 => cases h
  | case11 expected ds after hafter _ _ _ _ ih =>
      exact (ih h).trans ((afterComment_suffix hafter).trans (List.suffix_cons '#' ds))
  | case12 expected c ds _ _ _ _ ih => exact (ih h).trans (List.suffix_cons c ds)

theorem afterName_suffix (cs : List Char) : afterName cs <:+ cs :=
  List.dropWhile_suffix isNameChar

theorem afterAccesses_suffix {cs rest : List Char} (h : afterAccesses cs = .ok rest) :
    rest <:+ cs := by
  fun_induction afterAccesses cs with
  | case1 c ds _ _ ih =>
      exact (ih h).trans ((afterName_suffix ds).trans
        ((List.suffix_cons c ds).trans (List.suffix_cons '.' (c :: ds))))
  | case2 =>
      obtain rfl := Except.ok.inj h
      exact List.suffix_rfl
  | case3 => cases h
  | case4 ds after hafter _ ih =>
      exact (ih h).trans ((closeBrackets_suffix hafter).trans (List.suffix_cons '[' ds))
  | case5 =>
      obtain rfl := Except.ok.inj h
      exact List.suffix_rfl

/-- A site takes up a span in front of the text that is left. -/
theorem Site.read_suffix {Code : Type} {compile : List Char → Verdict Code} {cs rest : List Char}
    {site : Site Code} (h : Site.read compile cs = .ok (site, rest)) : rest <:+ cs := by
  unfold Site.read at h
  split at h
  · cases h
  · rename_i c ds
    split at h
    · split at h
      · cases h
      · rename_i after hafter
        split at h
        · cases h
        · obtain ⟨rfl, rfl⟩ := Prod.mk.inj (Except.ok.inj h)
          exact (closeBrackets_suffix hafter).trans (List.suffix_cons c ds)
    · split at h
      · split at h
        · cases h
        · rename_i after hafter
          split at h
          · cases h
          · obtain ⟨rfl, rfl⟩ := Prod.mk.inj (Except.ok.inj h)
            exact (afterAccesses_suffix hafter).trans
              ((afterName_suffix ds).trans (List.suffix_cons c ds))
      · cases h

@[simp] theorem spanBefore_append (span rest : List Char) :
    spanBefore (span ++ rest) rest = span := by
  simp [spanBefore]

/-! ## The rules of cutting -/

variable {Code : Type} {settings : Settings} {compile : List Char → Verdict Code}

/-- How a text falls into pieces.  The flag says whether the text begins inside an SQL string; a
single quote turns it. -/
inductive Cuts (settings : Settings) (compile : List Char → Verdict Code) :
    Bool → List Char → List (Piece Code) → Prop where
  | nil (inString : Bool) : Cuts settings compile inString [] []
  /-- a character stands for itself; a marker does so inside a string only, if at all, and an
  escape does so unless a marker follows it outside a string -/
  | char {inString : Bool} {c : Char} {rest : List Char} {ps : List (Piece Code)}
      (quoted : c = settings.marker → inString = true ∧ settings.allowMarkersInStrings = true)
      (single : c = settings.escape → inString = false → rest.head? ≠ some settings.marker)
      (tail : Cuts settings compile (if c = '\'' then !inString else inString) rest ps) :
      Cuts settings compile inString (c :: rest) (.char c :: ps)
  | escapedMarker {rest : List Char} {ps : List (Piece Code)}
      (tail : Cuts settings compile false rest ps) :
      Cuts settings compile false (settings.escape :: settings.marker :: rest)
        (.escapedMarker :: ps)
  | site {site : Site Code} {span rest : List Char} {ps : List (Piece Code)}
      (reads : Site.read compile (span ++ rest) = .ok (site, rest))
      (tail : Cuts settings compile false rest ps) :
      Cuts settings compile false (settings.marker :: (span ++ rest)) (.site site span :: ps)

theorem map_cons_eq_ok_iff {α ε : Type} {x : Except ε (List α)} {a : α} {l : List α} :
    x.map (a :: ·) = .ok l ↔ ∃ t, x = .ok t ∧ l = a :: t := by
  cases x with
  | error e => simp [Except.map]
  | ok t =>
      simp only [Except.map, Except.ok.injEq, exists_eq_left']
      exact eq_comm

/-- The pieces that cutting answers with are cut by the rules. -/
theorem cuts_of_pieces_eq_ok {inString : Bool} {cs : List Char} {ps : List (Piece Code)}
    (h : pieces settings compile inString cs = .ok ps) : Cuts settings compile inString cs ps := by
  fun_induction pieces settings compile inString cs generalizing ps with
  | case1 inString =>
      obtain rfl := Except.ok.inj h
      exact .nil inString
  | case2 rest lenient ih =>
      obtain ⟨qs, hqs, rfl⟩ := map_cons_eq_ok_iff.mp h
      refine .char (fun _ => ⟨rfl, lenient⟩) (fun _ h => nomatch h) ?_
      rw [if_neg settings.marker_ne_quote]
      exact ih hqs
  | case3 => cases h
  | case4 => cases h
  | case5 inString rest outside site after reads _ ih =>
      obtain ⟨qs, hqs, rfl⟩ := map_cons_eq_ok_iff.mp h
      obtain rfl : inString = false := eq_false_of_ne_true outside
      obtain ⟨span, rfl⟩ := Site.read_suffix reads
      rw [spanBefore_append]
      exact .site reads (ih hqs)
  | case6 inString c hc hescape =>
      obtain rfl := Except.ok.inj h
      exact .char (fun hm => absurd hm hc) (fun _ _ => nofun) (.nil _)
  | case7 inString c hc hescape rest ih =>
      obtain ⟨qs, hqs, rfl⟩ := map_cons_eq_ok_iff.mp h
      obtain ⟨rfl, rfl⟩ := hescape
      exact .escapedMarker (ih hqs)
  | case8 inString c hc hescape d rest hd ih =>
      obtain ⟨qs, hqs, rfl⟩ := map_cons_eq_ok_iff.mp h
      have hquote : c ≠ '\'' := hescape.1 ▸ settings.escape_ne_quote
      refine .char (fun hm => absurd hm hc) (fun _ _ hhead => hd (Option.some.inj hhead)) ?_
      rw [if_neg hquote]
      exact ih hqs
  | case9 inString rest hc hescape ih =>
      obtain ⟨qs, hqs, rfl⟩ := map_cons_eq_ok_iff.mp h
      refine .char (fun hm => absurd hm hc) (fun he hs => absurd ⟨he, hs⟩ hescape) ?_
      rw [if_pos rfl]
      exact ih hqs
  | case10 inString c rest hc hescape hquote ih =>
      obtain ⟨qs, hqs, rfl⟩ := map_cons_eq_ok_iff.mp h
      refine .char (fun hm => absurd hm hc) (fun he hs => absurd ⟨he, hs⟩ hescape) ?_
      rw [if_neg hquote]
      exact ih hqs

theorem pieces_nil (inString : Bool) : pieces settings compile inString [] = .ok [] := by
  rw [pieces.eq_def]

/-- Cutting goes on behind a character that stands for itself. -/
theorem pieces_char {inString : Bool} {c : Char} {rest : List Char}
    (quoted : c = settings.marker → inString = true ∧ settings.allowMarkersInStrings = true)
    (single : c = settings.escape → inString = false → rest.head? ≠ some settings.marker) :
    pieces settings compile inString (c :: rest)
      = (pieces settings compile (if c = '\'' then !inString else inString) rest).map
          (.char c :: ·) := by
  rw [pieces.eq_def]
  dsimp only
  by_cases hc : c = settings.marker
  · obtain ⟨rfl, lenient⟩ := quoted hc
    have hquote : c ≠ '\'' := hc ▸ settings.marker_ne_quote
    rw [if_pos hc, if_pos rfl, if_pos lenient, if_neg hquote]
  · rw [if_neg hc]
    by_cases hescape : c = settings.escape ∧ inString = false
    · have hquote : c ≠ '\'' := hescape.1 ▸ settings.escape_ne_quote
      rw [if_pos hescape, if_neg hquote]
      cases rest with
      | nil => rw [pieces_nil]; rfl
      | cons d rest =>
          have hd : d ≠ settings.marker := fun hd =>
            single hescape.1 hescape.2 (congrArg some hd)
          simp only [if_neg hd]
    · rw [if_neg hescape]
      by_cases hquote : c = '\''
      · rw [if_pos hquote, if_pos hquote]
      · rw [if_neg hquote, if_neg hquote]

/-- Cutting goes on behind an escaped marker. -/
theorem pieces_escapedMarker (rest : List Char) :
    pieces settings compile false (settings.escape :: settings.marker :: rest)
      = (pieces settings compile false rest).map (.escapedMarker :: ·) := by
  rw [pieces, if_neg settings.marker_ne_escape.symm, if_pos ⟨rfl, rfl⟩]
  simp only [if_true]

/-- Cutting goes on behind a site. -/
theorem pieces_site {site : Site Code} {span rest : List Char}
    (reads : Site.read compile (span ++ rest) = .ok (site, rest)) :
    pieces settings compile false (settings.marker :: (span ++ rest))
      = (pieces settings compile false rest).map (.site site span :: ·) := by
  rw [pieces.eq_def]
  dsimp only
  rw [if_pos rfl, if_neg Bool.false_ne_true]
  split
  · rename_i reason h
    rw [reads] at h
    cases h
  · rename_i site' after h
    rw [reads] at h
    obtain ⟨rfl, rfl⟩ := Prod.mk.inj (Except.ok.inj h)
    rw [spanBefore_append]

/-- Text that is cut by the rules is cut. -/
theorem pieces_eq_ok_of_cuts {inString : Bool} {cs : List Char} {ps : List (Piece Code)}
    (h : Cuts settings compile inString cs ps) : pieces settings compile inString cs = .ok ps := by
  induction h with
  | nil inString => exact pieces_nil inString
  | char quoted single tail ih => rw [pieces_char quoted single, ih]; rfl
  | escapedMarker tail ih => rw [pieces_escapedMarker, ih]; rfl
  | site reads tail ih => rw [pieces_site reads, ih]; rfl

/-- Cutting succeeds with exactly the pieces that the rules give. -/
theorem pieces_eq_ok_iff {inString : Bool} {cs : List Char} {ps : List (Piece Code)} :
    pieces settings compile inString cs = .ok ps ↔ Cuts settings compile inString cs ps :=
  ⟨cuts_of_pieces_eq_ok, pieces_eq_ok_of_cuts⟩

/-- Scanning succeeds with the parts that are gathered from the pieces of the text. -/
theorem scan_eq_ok_iff {text : String} {parts : List (Part Code)} :
    scan settings compile text = .ok parts ↔
      ∃ ps, Cuts settings compile false text.toList ps ∧ parts = gather settings.marker [] ps := by
  unfold scan scanChars
  cases hcut : pieces settings compile false text.toList with
  | error e =>
      constructor
      · intro h
        cases h
      · rintro ⟨ps, hps, -⟩
        rw [pieces_eq_ok_iff.mpr hps] at hcut
        cases hcut
  | ok ps =>
      constructor
      · intro h
        exact ⟨ps, pieces_eq_ok_iff.mp hcut, (Except.ok.inj h).symm⟩
      · rintro ⟨qs, hqs, rfl⟩
        rw [pieces_eq_ok_iff.mpr hqs] at hcut
        obtain rfl := Except.ok.inj hcut
        rfl

end BoundSql.Template
