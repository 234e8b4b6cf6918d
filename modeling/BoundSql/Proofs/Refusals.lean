import BoundSql.Proofs.Composition
import BoundSql.Proofs.Lexing
import BoundSql.Proofs.Signs
set_option autoImplicit false

/-!
# Where a template is refused

A failure of scanning tells the place of a marker.  Scanning fails there first: the text in front of
it is scanned on its own, with the pieces that were cut off, and no site of them reaches that far.
A marker inside of an SQL string is refused whatever comes behind it, and outside of strings the
reader of sites refuses what comes behind it.

Cutting goes from left to right, so the place of a failure is found by following it: there are
pieces up to that place (`Reaches`), and there a marker is refused (`Refused`).  That the text in
front of it is a template by itself needs that no piece looks beyond it, since otherwise it could be
cut in another way (`Reaches.replace_tail`, `Reaches.cuts_front`).

A scan may also come to an end without a failure of the text, since something runs out over an
expression.  Then there is no place to be told of, and nothing is said about one.  A text with a
long row of signs is of that kind.
-/

namespace BoundSql.Template

open BoundSql.Query

variable {Code : Type} {settings : Settings} {compile : List Char → Verdict Code}

/-! ## Places between pieces -/

theorem CutsOff.text_eq {a b : Remainder} {p : Piece Code} (h : CutsOff settings compile a p b) :
    a.text = (p.labelled settings).map Prod.fst ++ b.text := by
  cases h with
  | char quoted single => rfl
  | escapedMarker => rfl
  | @site site span rest reads => rw [Piece.labelled, List.map_cons, map_fst_span]; rfl

/-- The pieces that are cut off are the text in front of what is left. -/
theorem Reaches.text_eq {a b : Remainder} {ps : List (Piece Code)}
    (h : Reaches settings compile a ps b) : a.text = sourceText settings ps ++ b.text := by
  induction h with
  | refl a => rfl
  | cons first others ih => rw [sourceText_cons, List.append_assoc, ← ih, first.text_eq]

/-- Pieces are cut off with something left between them. -/
theorem Reaches.exists_between {a b : Remainder} {ps qs : List (Piece Code)}
    (h : Reaches settings compile a (ps ++ qs) b) :
    ∃ c, Reaches settings compile a ps c ∧ Reaches settings compile c qs b := by
  induction ps generalizing a with
  | nil => exact ⟨a, .refl a, h⟩
  | cons p ps ih =>
      cases h with
      | cons first others =>
          obtain ⟨c, hfront, hback⟩ := ih others
          exact ⟨c, .cons first hfront, hback⟩

/-- The sites among pieces at the beginning of a text are read at their offsets, and end in front of
an offset. -/
def SitesEndBefore (settings : Settings) (compile : List Char → Verdict Code) (text : String)
    (ps : List (Piece Code)) (position : Nat) : Prop :=
  ∀ (before : List (Piece Code)) (site : Site Code) (span : List Char) (after : List (Piece Code)),
    ps = before ++ .site site span :: after →
      let start := (sourceText settings before).length + 1
      siteAt compile text start = .ok (site, start + span.length) ∧ start + span.length ≤ position

/-- The sites of pieces that are cut off end in front of what is left. -/
theorem Reaches.sitesEndBefore {text : String} {ps : List (Piece Code)} {b : Remainder}
    (h : Reaches settings compile ⟨false, text.toList⟩ ps b) :
    SitesEndBefore settings compile text ps (sourceText settings ps).length := by
  intro before site span after hps start
  rw [hps] at h
  obtain ⟨c, hfront, hback⟩ := h.exists_between
  have htext : text.toList = sourceText settings before ++ c.text := hfront.text_eq
  have hsource : sourceText settings ps
      = sourceText settings before ++ sourceText settings (.site site span :: after) := by
    rw [hps, sourceText, labelled, List.flatMap_append, List.map_append]
    rfl
  cases hback with
  | cons first others =>
      cases first with
      | @site _ _ rest reads =>
          have hdrop : text.toList.drop start = span ++ rest := by
            rw [htext, ← List.drop_drop, List.drop_left]
            rfl
          refine ⟨siteAt_eq_ok hdrop reads, ?_⟩
          rw [hsource, sourceText_cons, Piece.labelled, List.map_cons, map_fst_span]
          simp only [List.length_append, List.length_cons]
          omega

/-! ## What is in front of a place -/

/-- The pieces in front of a place are cut off in front of another end of the text, if no piece
looks into that end, or if the place stands inside a string. -/
theorem Reaches.replace_tail {a b : Remainder} {ps : List (Piece Code)}
    (h : Reaches settings compile a ps b) {other : List Char}
    (ends : Unseen settings other ∨ b.inString = true) :
    Reaches settings compile ⟨a.inString, sourceText settings ps ++ other⟩ ps
      ⟨b.inString, other⟩ := by
  obtain ⟨front, hfront, -, hreaches⟩ := h.replace_end ends
  obtain rfl : sourceText settings ps = front :=
    List.append_cancel_right (h.text_eq.symm.trans hfront)
  exact hreaches

/-- The text in front of a place falls into the pieces that were cut off. -/
theorem Reaches.cuts_front {inString : Bool} {cs : List Char} {b : Remainder}
    {ps : List (Piece Code)} (h : Reaches settings compile ⟨inString, cs⟩ ps b) :
    Cuts settings compile inString (sourceText settings ps) ps := by
  have hfront := h.replace_tail (.inl unseen_nil)
  rw [List.append_nil] at hfront
  exact pieces_eq_ok_iff.mp (pieces_eq_ok_iff_reaches.mpr ⟨b.inString, hfront⟩)

/-- A place inside of a string has an odd number of quotes in the literal text in front of it, and a
place outside of strings an even one. -/
theorem Reaches.quotes_parts {cs : List Char} {b : Remainder} {ps : List (Piece Code)}
    (h : Reaches settings compile ⟨false, cs⟩ ps b) :
    literalQuotes ((gather settings.marker [] ps).map Part.toNode) % 2
      = if b.inString then 1 else 0 := by
  have heven := h.even_iff
  rw [← literalQuotes_joinLiterals, joinLiterals_parts, literalQuotes_joinLiterals]
  cases hinside : b.inString with
  | true =>
      have hodd := fun hzero => Bool.false_ne_true ((heven.mp hzero).symm.trans hinside)
      rw [if_pos rfl]
      exact Nat.mod_two_ne_zero.mp hodd
  | false => rw [if_neg Bool.false_ne_true, heven.mpr hinside]

/-! ## The first marker that is refused -/

/-- What is refused begins with a marker. -/
theorem Refused.exists_text_eq {a : Remainder} {cause : ScanCause}
    (h : Refused settings compile a cause) : ∃ rest, a.text = settings.marker :: rest := by
  cases h with
  | @quotedMarker rest strict => exact ⟨rest, rfl⟩
  | @unread rest why fails => exact ⟨rest, rfl⟩

/-- The text in front of what a failure carries along is as long as its position says. -/
theorem position_eq {text : String} {front suffix : List Char}
    (htext : text.toList = front ++ suffix) :
    (text.toList.length : Int) - suffix.length = front.length := by
  rw [htext, List.length_append]
  omega

/-- A marker inside of a string is refused whatever stands behind it. -/
theorem Reaches.scan_quotedMarker {cs rest : List Char} {ps : List (Piece Code)}
    (h : Reaches settings compile ⟨false, cs⟩ ps ⟨true, settings.marker :: rest⟩)
    (strict : settings.allowMarkersInStrings = false) {text : String} {more : List Char}
    (htext : text.toList = sourceText settings ps ++ settings.marker :: more) :
    scan settings compile text
      = .error (.refused (.quotedMarker text (sourceText settings ps).length)) := by
  have hreaches : Reaches settings compile
      ⟨false, sourceText settings ps ++ settings.marker :: more⟩ ps
      ⟨true, settings.marker :: more⟩ := h.replace_tail (.inr rfl)
  rw [← htext] at hreaches
  have hfailure := pieces_eq_error_iff.mpr
    ⟨ps, _, hreaches, .quotedMarker strict, (rfl : (ScanError.mk .quotedMarker _).suffix = _)⟩
  refine scan_eq_error_iff.mpr ⟨_, hfailure, ?_⟩
  rw [← position_eq htext]
  rfl

/-- Scanning fails at the first marker that it cannot take.  The marker stands at a position, in
front of which the text is scanned alone; its sites are those that the whole text has there, and
they end before the position.  If the marker is refused for standing inside of a string, the literal
text in front of it has an odd number of quotes, and the marker is refused for the same reason
whatever comes behind it.  Otherwise that number is even, and reading a site behind the marker is
what fails, be it that none is there or that something runs out over its expression.  A refusal
tells the position, and its details quote the text from there on; running out tells nothing of a
place. -/
theorem scan_fails_at_first_marker {text : String} {f : ScanFailure}
    (fails : scan settings compile text = .error f) :
    ∃ (position : Nat) (ps : List (Piece Code)),
      position < text.length ∧ text.toList[position]? = some settings.marker ∧
      scan settings compile (String.ofList (text.toList.take position))
        = .ok (gather settings.marker [] ps) ∧
      Cuts settings compile false (text.toList.take position) ps ∧
      SitesEndBefore settings compile text ps position ∧
      (∀ e, f = .refused e → e.details
        = ⟨text, some (position : Int), some (String.ofList (text.toList.drop position))⟩) ∧
      ((f.kind = "QuotingViolationError" ∧
          literalQuotes ((gather settings.marker [] ps).map Part.toNode) % 2 = 1 ∧
          ∀ other : String, let text' := String.ofList (text.toList.take (position + 1)) ++ other
            scan settings compile text' = .error (.refused (.quotedMarker text' position))) ∨
        ((f.kind = "MalformedExpressionError" ∨ ∃ e, f = .exhausted e) ∧
          literalQuotes ((gather settings.marker [] ps).map Part.toNode) % 2 = 0 ∧
          siteAt compile text (position + 1) = .error f)) := by
  obtain ⟨⟨cause, suffix⟩, hfailure, rfl⟩ := scan_eq_error_iff.mp fails
  obtain ⟨ps, ⟨inString, tail⟩, hreaches, hrefused, hsuffix⟩ := pieces_eq_error_iff.mp hfailure
  obtain rfl : suffix = tail := hsuffix
  have htext : text.toList = sourceText settings ps ++ suffix := hreaches.text_eq
  obtain ⟨rest, rfl⟩ : ∃ rest, suffix = settings.marker :: rest := hrefused.exists_text_eq
  have hfront : text.toList.take (sourceText settings ps).length = sourceText settings ps := by
    rw [htext, List.take_left]
  have hback : text.toList.drop (sourceText settings ps).length = settings.marker :: rest := by
    rw [htext, List.drop_left]
  have hcuts := hreaches.cuts_front
  have hquotes := hreaches.quotes_parts
  refine ⟨(sourceText settings ps).length, ps, ?_, ?_, ?_, ?_, hreaches.sitesEndBefore, ?_, ?_⟩
  · rw [← String.length_toList, htext, List.length_append, List.length_cons]
    omega
  · rw [← List.head?_drop, hback]
    rfl
  · rw [hfront]
    exact scan_eq_ok_iff.mpr ⟨ps, String.toList_ofList.symm ▸ hcuts, rfl⟩
  · rw [hfront]
    exact hcuts
  · intro e he
    rw [details_of_failure_eq (suffix_of_pieces_eq_error hfailure) he, position_eq htext, hback]
  · cases hrefused with
    | quotedMarker strict =>
        refine .inl ⟨rfl, hquotes, fun other => ?_⟩
        have hother : (String.ofList (text.toList.take ((sourceText settings ps).length + 1))
            ++ other).toList = sourceText settings ps ++ settings.marker :: other.toList := by
          rw [String.toList_append, String.toList_ofList, List.take_add, hfront, hback,
            List.append_assoc]
          rfl
        exact hreaches.scan_quotedMarker strict hother
    | @unread _ why reads =>
        have hbehind : text.toList.drop ((sourceText settings ps).length + 1) = rest := by
          rw [← List.drop_drop, hback]
          rfl
        refine .inr ⟨?_, hquotes, ?_⟩
        · cases why with
          | malformed reason => exact .inl rfl
          | exhausted e => exact .inr ⟨e, rfl⟩
        · rw [siteAt, hbehind, reads, ScanError.failure, position_eq htext]
          dsimp only
          rw [Nat.cast_succ, add_sub_cancel_right]

/-- A marker in a string behind a name, where markers in strings are refused, and a marker behind a
string, which no site follows. -/
theorem scan_fails_at_first_marker_behind_name :
    let compile := Room.standard.compile
    let strict : Settings := { allowMarkersInStrings := false }
    (scan strict compile "$x '$y" = .error (.refused (.quotedMarker "$x '$y" 4)) ∧
      (∃ parts, scan strict compile "$x '" = .ok parts) ∧
      ∀ other : String, let text' := "$x '$" ++ other
        scan strict compile text' = .error (.refused (.quotedMarker text' 4))) ∧
    scan {} compile "'$' $" = .error (.refused (.malformed "'$' $" 4 .missing)) ∧
      (∃ parts, scan {} compile "'$' " = .ok parts) ∧
      siteAt compile "'$' $" 5 = .error (.refused (.malformed "'$' $" 4 .missing)) := by
  intro compile strict
  have hx : Site.read compile ['x', ' ', '\'', '$', 'y']
      = .ok (⟨"x", false, .name "x"⟩, [' ', '\'', '$', 'y']) := by cbv
  have hname : Reaches strict compile ⟨false, "$x '$y".toList⟩
      [.site ⟨"x", false, .name "x"⟩ ['x'], .char ' ', .char '\''] ⟨true, ['$', 'y']⟩ := by
    refine .cons (@CutsOff.site _ strict _ _ ['x'] _ hx) ?_
    exact .cons (.char (by decide) (by decide)) (.single (.char (by decide) (by decide)))
  have hstring : Reaches {} compile ⟨false, "'$' $".toList⟩
      [.char '\'', .char '$', .char '\'', .char ' '] ⟨false, ['$']⟩ := by
    refine .cons (.char (by decide) (by decide)) (.cons (.char (by decide) (by decide)) ?_)
    exact .cons (.char (by decide) (by decide)) (.single (.char (by decide) (by decide)))
  have hquoted : scan strict compile "$x '$y" = .error (.refused (.quotedMarker "$x '$y" 4)) :=
    hname.scan_quotedMarker rfl rfl
  have hmissing : scan {} compile "'$' $" = .error (.refused (.malformed "'$' $" 4 .missing)) :=
    scan_eq_error_iff.mpr ⟨⟨.unread (.malformed .missing), ['$']⟩,
      pieces_eq_error_iff.mpr ⟨_, _, hstring, .unread rfl, rfl⟩, rfl⟩
  obtain ⟨n, ps, -, -, hfront, -, -, hdetails, hquoting | ⟨hmalformed | ⟨_, hout⟩, -⟩⟩ :=
    scan_fails_at_first_marker hquoted
  · obtain rfl : n = 4 := by
      have hposition := congrArg Details.position (hdetails _ rfl)
      exact (Int.ofNat.inj (Option.some.inj hposition)).symm
    obtain ⟨n', ps', -, -, hfront', -, -, hdetails', hquoting' | hmalformed'⟩ :=
      scan_fails_at_first_marker hmissing
    · exact absurd hquoting'.1 (by decide)
    · obtain rfl : n' = 4 := by
        have hposition := congrArg Details.position (hdetails' _ rfl)
        exact (Int.ofNat.inj (Option.some.inj hposition)).symm
      exact ⟨⟨hquoted, ⟨_, hfront⟩, hquoting.2.2⟩, hmissing, ⟨_, hfront'⟩, hmalformed'.2.2⟩
  · exact absurd hmalformed (by decide)
  · cases hout

/-- Where something runs out, nobody is told where: over so many signs the scan fails behind any
number of calls, and there are no details. -/
theorem scan_runs_out_without_details :
    (∀ calls, scan {} (Room.behind calls).compile (signedTemplate 1500)
        = .error (.exhausted .stack)) ∧
      (ScanFailure.exhausted .stack).details? = none := by
  refine ⟨fun calls => scan_signed ?_, rfl⟩
  exact Room.behind_exhausts_stack calls (by decide) (by decide)

end BoundSql.Template
