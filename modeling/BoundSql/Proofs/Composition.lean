import BoundSql.Expr.Compile
import BoundSql.Proofs.Locality
import BoundSql.Proofs.QuoteClosed
import BoundSql.Proofs.SideBySide
import BoundSql.Proofs.Stepping
set_option autoImplicit false

/-!
# Templates one behind the other

A template text whose strings are all closed can have another text put behind it with a blank in
between: it is scanned as before, then the blank, then the other text as if it stood alone.  Nothing
of the first text looks into the second one, and nothing of the second one depends on the first.
This is what allows statements to be put together from fragments.

Two things could go wrong.  A piece at the end of the first text could take characters of the second
one along; the blank prevents that, since no piece goes on with a blank that is not inside of it
(`cutsOff_blank`, `Reaches.replace_end`).  And the second text could be cut in another state; the
count of the quotes that have been seen is all the state there is, and it is even where all strings
are closed (`Reaches.even_iff`).

The parts meet at the blank, where literal text of both sides becomes one run, which is why the
result is told with the literals of a row joined (`joinLiterals_gather_blank`).  A failure in the
second text is the same failure, as many characters further on (`ScanFailure.MovedBy`).
-/

namespace BoundSql.Query

variable {V : Type}

theorem literalQuotes_withText (s : String) (ns : List (Node V)) :
    literalQuotes (withText s ns) = quotes s + literalQuotes ns := by
  have hrow : literalQuotes (literalRow s : List (Node V)) = quotes s := by
    by_cases hs : s = ""
    · rw [hs, literalRow_empty]
      rfl
    · rw [literalRow_of_ne hs, literalQuotes_literal, literalQuotes_nil, Nat.add_zero]
  cases ns with
  | nil => exact hrow
  | cons n ns =>
      cases n with
      | literal t =>
          rw [withText, literalQuotes_literal, literalQuotes_literal, quotes_append, Nat.add_assoc]
      | argument v => rw [withText, literalQuotes_append, hrow]

/-- Joining literals keeps their quotes. -/
theorem literalQuotes_joinLiterals (ns : List (Node V)) :
    literalQuotes (joinLiterals ns) = literalQuotes ns := by
  induction ns with
  | nil => rfl
  | cons n ns ih =>
      cases n with
      | literal s => rw [joinLiterals, literalQuotes_withText, ih, literalQuotes_literal]
      | argument v => rw [joinLiterals, literalQuotes_argument, ih, literalQuotes_argument]

end BoundSql.Query

namespace BoundSql.Template

open BoundSql.Query

variable {Code : Type} {settings : Settings} {compile : List Char → Verdict Code}

/-! ## Pieces as nodes -/

/-- A piece as a node: a character and an escaped marker are literal text, and a site takes the
place of an argument. -/
def Piece.toNode (marker : Char) : Piece Code → Node (Site Code)
  | .char c => .literal (String.ofList [c])
  | .escapedMarker => .literal (String.ofList [marker])
  | .site x _ => .argument x

theorem joinLiterals_literalPart_append (run : List Char) (ps : List (Part Code)) :
    joinLiterals ((literalPart run ++ ps).map Part.toNode)
      = withText (String.ofList run.reverse) (joinLiterals (ps.map Part.toNode)) := by
  cases run with
  | nil => exact (withText_empty _).symm
  | cons c run => rfl

/-- Up to joining literals, the parts of a template are its pieces. -/
theorem joinLiterals_gather (marker : Char) (run : List Char) (ps : List (Piece Code)) :
    joinLiterals ((gather marker run ps).map Part.toNode)
      = withText (String.ofList run.reverse)
          (joinLiterals (ps.map (Piece.toNode marker))) := by
  induction ps generalizing run with
  | nil =>
      have hnil := joinLiterals_literalPart_append run ([] : List (Part Code))
      rwa [List.append_nil] at hnil
  | cons p ps ih =>
      cases p with
      | char c =>
          rw [gather, ih, List.reverse_cons, String.ofList_append, List.map_cons, Piece.toNode,
            joinLiterals, withText_withText]
      | escapedMarker =>
          rw [gather, joinLiterals_literalPart_append, ih]
          rfl
      | site site span =>
          rw [gather, joinLiterals_literalPart_append, List.map_cons, Part.toNode, joinLiterals, ih,
            List.reverse_nil, String.ofList_nil, withText_empty]
          rfl

theorem joinLiterals_parts (marker : Char) (ps : List (Piece Code)) :
    joinLiterals ((gather marker [] ps).map Part.toNode)
      = joinLiterals (ps.map (Piece.toNode marker)) := by
  rw [joinLiterals_gather, List.reverse_nil, String.ofList_nil, withText_empty]

/-! ## Strings that are closed -/

theorem quotes_ofList_quote : quotes (String.ofList ['\'']) = 1 := rfl

theorem quotes_ofList_of_ne {c : Char} (h : c ≠ '\'') : quotes (String.ofList [c]) = 0 := by
  rw [quotes, String.toList_ofList, List.count_cons_of_ne h, List.count_nil]

theorem one_add_mod_two_eq_zero_iff (n : Nat) : (1 + n) % 2 = 0 ↔ ¬ n % 2 = 0 := by
  omega

/-- Pieces with an even number of quotes end inside a string if and only if they began there. -/
theorem Reaches.even_iff {a b : Remainder} {ps : List (Piece Code)}
    (h : Reaches settings compile a ps b) :
    literalQuotes (ps.map (Piece.toNode settings.marker)) % 2 = 0 ↔ b.inString = a.inString := by
  induction h with
  | refl a => exact iff_of_true rfl rfl
  | @cons a b c p ps first others ih =>
      cases first with
      | @char inString d rest quoted single =>
          rw [List.map_cons, Piece.toNode, literalQuotes_literal]
          by_cases hd : d = '\''
          · have hturn : c.inString = !inString ↔ ¬ c.inString = inString :=
              Bool.eq_not
            rw [quoteTurns, if_pos hd, hturn] at ih
            rw [hd, quotes_ofList_quote, one_add_mod_two_eq_zero_iff, ih]
            exact Classical.not_not
          · rw [quoteTurns, if_neg hd] at ih
            rw [quotes_ofList_of_ne hd, Nat.zero_add]
            exact ih
      | escapedMarker =>
          rw [List.map_cons, Piece.toNode, literalQuotes_literal,
            quotes_ofList_of_ne settings.marker_ne_quote, Nat.zero_add]
          exact ih
      | site reads =>
          rw [List.map_cons, Piece.toNode, literalQuotes_argument]
          exact ih

/-- Pieces of a whole text end outside of strings if their literal text has an even number of
quotes. -/
theorem exists_reaches_of_scan {text : String} {parts : List (Part Code)}
    (scanned : scan settings compile text = .ok parts)
    (even : literalQuotes (parts.map Part.toNode) % 2 = 0) :
    ∃ ps, Reaches settings compile ⟨false, text.toList⟩ ps ⟨false, []⟩ ∧
      parts = gather settings.marker [] ps := by
  obtain ⟨ps, hcuts, rfl⟩ := scan_eq_ok_iff.mp scanned
  obtain ⟨inString, hreaches⟩ := pieces_eq_ok_iff_reaches.mp (pieces_eq_ok_iff.mpr hcuts)
  rw [← literalQuotes_joinLiterals, joinLiterals_parts, literalQuotes_joinLiterals] at even
  obtain rfl : inString = false := hreaches.even_iff.mp even
  exact ⟨ps, hreaches, rfl⟩

/-! ## Another end of a text -/

/-- Text that no piece in front of it looks into: no marker begins it, which an escape could take
along, and it ends names. -/
structure Unseen (settings : Settings) (cs : List Char) : Prop where
  noMarker : cs.head? ≠ some settings.marker
  endsNames : EndsNames cs

theorem unseen_nil : Unseen settings [] := ⟨nofun, endsNames_nil⟩

theorem unseen_blank (marker_ne : settings.marker ≠ ' ') (more : List Char) :
    Unseen settings (' ' :: more) :=
  ⟨fun hhead => marker_ne (Option.some.inj hhead).symm, endsNames_blank more⟩

/-- A piece is cut off in the same way in front of another end of the text, if the piece does not
look into that end, or if the end stands inside a string or behind a quote. -/
theorem CutsOff.replace_end {a : Remainder} {p : Piece Code} {inString : Bool}
    {front tail other : List Char} (h : CutsOff settings compile a p ⟨inString, front ++ tail⟩)
    (ends : Unseen settings other ∨ inString = true ∨ '\'' ∈ front) :
    ∃ span, a.text = span ++ (front ++ tail) ∧ (inString = a.inString ∨ '\'' ∈ span) ∧
      CutsOff settings compile ⟨a.inString, span ++ (front ++ other)⟩ p
        ⟨inString, front ++ other⟩ := by
  cases h with
  | @char outside c _ quoted single =>
      refine ⟨[c], rfl, ?_, .char quoted fun hc (hout : outside = false) => ?_⟩
      · rw [List.mem_singleton, quoteTurns]
        split
        next hquote => exact .inr hquote.symm
        next => exact .inl rfl
      · -- An escape at the end of the front would take along a marker that the other end begins
        -- with.
        have hsame : quoteTurns outside c = false := by
          rw [quoteTurns, if_neg fun hquote => settings.escape_ne_quote (hc ▸ hquote), hout]
        cases front with
        | nil =>
            rcases ends with hunseen | hinside | hmem
            · exact hunseen.noMarker
            · exact absurd (hsame.symm.trans hinside) Bool.false_ne_true
            · cases hmem
        | cons d front => exact single hc hout
  | escapedMarker =>
      exact ⟨[settings.escape, settings.marker], rfl, .inl rfl, .escapedMarker⟩
  | @site site span _ reads =>
      have hends : EndsNames other ∨ '\'' ∈ front := by
        rcases ends with hunseen | hinside | hmem
        · exact .inl hunseen.endsNames
        · cases hinside
        · exact .inr hmem
      exact ⟨settings.marker :: span, rfl, .inl rfl, .site (Site.read_replace_end reads hends)⟩

/-- Pieces are cut off in the same way in front of another end of the text, if no piece looks into
that end, or if the end stands inside a string.  A string is opened by a quote, so that there is one
in front of the end behind each piece outside of strings. -/
theorem Reaches.replace_end {a b : Remainder} {ps : List (Piece Code)}
    (h : Reaches settings compile a ps b) {other : List Char}
    (ends : Unseen settings other ∨ b.inString = true) :
    ∃ front, a.text = front ++ b.text ∧ (b.inString = a.inString ∨ '\'' ∈ front) ∧
      Reaches settings compile ⟨a.inString, front ++ other⟩ ps ⟨b.inString, other⟩ := by
  induction h with
  | refl a => exact ⟨[], rfl, .inl rfl, .refl _⟩
  | @cons a c b p ps first others ih =>
      obtain ⟨inString, text⟩ := c
      obtain ⟨front, rfl, hturns, hothers⟩ := ih ends
      -- Behind this piece the text is inside of the string, or the quote that opens it still
      -- follows.
      have hends : Unseen settings other ∨ inString = true ∨ '\'' ∈ front := by
        rcases ends with hunseen | hinside
        · exact .inl hunseen
        · exact .inr (hturns.imp_left fun hsame => hsame.symm.trans hinside)
      obtain ⟨span, htext, hspan, hfirst⟩ := first.replace_end hends
      refine ⟨span ++ front, ?_, ?_, ?_⟩
      · rw [htext, List.append_assoc]
      · rw [List.mem_append]
        rcases hturns with hsame | hmem
        · rw [hsame]
          exact hspan.imp_right .inl
        · exact .inr (.inr hmem)
      · rw [List.append_assoc]
        exact .cons hfirst hothers

/-! ## A blank behind a text -/

/-- A blank is a piece of its own. -/
theorem cutsOff_blank (marker_ne : settings.marker ≠ ' ') (escape_ne : settings.escape ≠ ' ')
    (more : List Char) :
    CutsOff settings compile ⟨false, ' ' :: more⟩ (.char ' ') ⟨false, more⟩ :=
  .char (fun h => absurd h.symm marker_ne) fun h _ => absurd h.symm escape_ne

/-- Cutting goes on behind a text that ends outside of strings and a blank. -/
theorem pieces_append_blank {cs : List Char} {ps : List (Piece Code)}
    (h : Reaches settings compile ⟨false, cs⟩ ps ⟨false, []⟩) (marker_ne : settings.marker ≠ ' ')
    (escape_ne : settings.escape ≠ ' ') (more : List Char) :
    pieces settings compile false (cs ++ ' ' :: more)
      = (pieces settings compile false more).map (ps ++ .char ' ' :: ·) := by
  obtain ⟨front, hfront, -, hreaches⟩ := h.replace_end (.inl (unseen_blank marker_ne more))
  obtain rfl : cs = front := hfront.trans (List.append_nil front)
  have hblank := hreaches.append (Reaches.single (cutsOff_blank marker_ne escape_ne more))
  have heq := hblank.pieces_eq
  rw [heq]
  simp only [List.append_assoc, List.cons_append, List.nil_append]

/-! ## Scanning one text behind the other -/

/-- Up to joining literals, the parts of pieces with a blank between them are the parts of both with
the blank between them. -/
theorem joinLiterals_gather_blank (marker : Char) (ps qs : List (Piece Code)) :
    joinLiterals ((gather marker [] (ps ++ .char ' ' :: qs)).map Part.toNode)
      = joinLiterals
          ((gather marker [] ps ++ .literal " " :: gather marker [] qs).map Part.toNode) := by
  have hrest : joinLiterals ((.char ' ' :: qs).map (Piece.toNode marker))
      = joinLiterals ((.literal " " :: gather marker [] qs).map Part.toNode) := by
    rw [List.map_cons, List.map_cons, Piece.toNode, Part.toNode, joinLiterals, joinLiterals,
      joinLiterals_parts]
  rw [joinLiterals_parts, List.map_append, List.map_append]
  exact joinLiterals_append_congr (joinLiterals_parts marker ps).symm hrest

/-- A failure is another one with its position moved by so many characters: they are of the same
kind, and either none of them has details or both quote the same text from their positions on. -/
structure ScanFailure.MovedBy (shift : Int) (f f' : ScanFailure) : Prop where
  kind : f'.kind = f.kind
  subexpression : f'.details?.map Details.subexpression = f.details?.map Details.subexpression
  position : f'.details?.map Details.position
    = f.details?.map fun details => details.position.map (· + shift)

/-- With more text in front, a failure moves by the length of that text. -/
theorem movedBy_failure_append (front : String) {text : String} {e : ScanError}
    (h : e.suffix <:+ text.toList) :
    ScanFailure.MovedBy front.length (e.failure text) (e.failure (front ++ text)) := by
  have hlong : e.suffix <:+ (front ++ text).toList := by
    rw [String.toList_append]
    exact h.trans (List.suffix_append front.toList text.toList)
  have hlength : ((front ++ text).toList.length : Int)
      = front.length + text.toList.length := by
    rw [String.length_toList, String.length_append, String.length_toList, Nat.cast_add]
  cases hfailure : e.failure text with
  | refused refusal =>
      obtain ⟨refusal', hfailure', hkind⟩ : ∃ refusal',
          e.failure (front ++ text) = .refused refusal' ∧ refusal'.kind = refusal.kind := by
        obtain ⟨_ | ⟨reason | out⟩, suffix⟩ := e
        · exact ⟨_, rfl, by rw [← ScanFailure.refused.inj hfailure]; rfl⟩
        · exact ⟨_, rfl, by rw [← ScanFailure.refused.inj hfailure]; rfl⟩
        · cases hfailure
      rw [hfailure']
      refine ⟨hkind, ?_, ?_⟩
      · simp only [ScanFailure.details?, Option.map_some, details_of_failure_eq hlong hfailure',
          details_of_failure_eq h hfailure]
      · simp only [ScanFailure.details?, Option.map_some, details_of_failure_eq hlong hfailure',
          details_of_failure_eq h hfailure, hlength]
        congr 2
        ring
  | exhausted out =>
      have hfailure' : e.failure (front ++ text) = .exhausted out := by
        obtain ⟨_ | ⟨reason | out'⟩, suffix⟩ := e
        · cases hfailure
        · cases hfailure
        · exact hfailure
      rw [hfailure']
      exact ⟨rfl, rfl, rfl⟩

/-- The pieces of a text whose literal text has an even number of quotes are followed by a blank and
the pieces of the text behind it. -/
theorem exists_pieces_append_blank (marker_ne : settings.marker ≠ ' ')
    (escape_ne : settings.escape ≠ ' ') {text : String} {parts : List (Part Code)}
    (scanned : scan settings compile text = .ok parts)
    (even : literalQuotes (parts.map Part.toNode) % 2 = 0) :
    ∃ ps, parts = gather settings.marker [] ps ∧ ∀ other : String,
      pieces settings compile false (text ++ " " ++ other).toList
        = (pieces settings compile false other.toList).map (ps ++ .char ' ' :: ·) := by
  obtain ⟨ps, hreaches, hparts⟩ := exists_reaches_of_scan scanned even
  refine ⟨ps, hparts, fun other => ?_⟩
  rw [String.toList_append, String.toList_append, List.append_assoc]
  exact pieces_append_blank hreaches marker_ne escape_ne other.toList

/-- Behind a text whose strings are closed, a text that is scanned alone is scanned to its parts. -/
theorem exists_scan_append_blank (marker_ne : settings.marker ≠ ' ')
    (escape_ne : settings.escape ≠ ' ') {text other : String} {parts others : List (Part Code)}
    (scanned : scan settings compile text = .ok parts)
    (even : literalQuotes (parts.map Part.toNode) % 2 = 0)
    (scannedOther : scan settings compile other = .ok others) :
    ∃ whole, scan settings compile (text ++ " " ++ other) = .ok whole ∧
      joinLiterals (whole.map Part.toNode)
        = joinLiterals ((parts ++ .literal " " :: others).map Part.toNode) := by
  obtain ⟨ps, rfl, hcut⟩ := exists_pieces_append_blank marker_ne escape_ne scanned even
  obtain ⟨qs, hqs, rfl⟩ := scan_eq_ok_iff.mp scannedOther
  have hwhole := hcut other
  rw [pieces_eq_ok_iff.mpr hqs] at hwhole
  exact ⟨_, scan_eq_ok_iff.mpr ⟨_, pieces_eq_ok_iff.mp hwhole, rfl⟩,
    joinLiterals_gather_blank settings.marker ps qs⟩

/-- Behind a text whose strings are closed, a text that is refused alone is refused, where it stands
then. -/
theorem exists_scan_append_blank_error (marker_ne : settings.marker ≠ ' ')
    (escape_ne : settings.escape ≠ ' ') {text other : String} {parts : List (Part Code)}
    {e' : ScanFailure} (scanned : scan settings compile text = .ok parts)
    (even : literalQuotes (parts.map Part.toNode) % 2 = 0)
    (refused : scan settings compile other = .error e') :
    ∃ e, scan settings compile (text ++ " " ++ other) = .error e ∧
      ScanFailure.MovedBy (text.length + 1) e' e := by
  obtain ⟨ps, -, hcut⟩ := exists_pieces_append_blank marker_ne escape_ne scanned even
  obtain ⟨failure, hfailure, rfl⟩ := scan_eq_error_iff.mp refused
  have hwhole := hcut other
  rw [hfailure] at hwhole
  have hmoved := movedBy_failure_append (text ++ " ") (suffix_of_pieces_eq_error hfailure)
  have hlength : ((text ++ " ").length : Int) = text.length + 1 := by
    rw [String.length_append]
    rfl
  rw [hlength] at hmoved
  exact ⟨_, scan_eq_error_iff.mpr ⟨failure, hwhole, rfl⟩, hmoved⟩

/-- Scanning is compositional.  Behind a text that is scanned and whose literal text has an even
number of quotes, and a blank, another text is scanned if and only if it is scanned alone.  Up to
joining literals that stand side by side, the parts are those of the first text, the blank, and
those of the other text; and a failure is the one of the other text, moved by the length of the text
in front of it. -/
theorem scan_append_blank (marker_ne : settings.marker ≠ ' ')
    (escape_ne : settings.escape ≠ ' ') {text : String} {parts : List (Part Code)}
    (scanned : scan settings compile text = .ok parts)
    (even : literalQuotes (parts.map Part.toNode) % 2 = 0) (other : String) :
    ((∃ whole, scan settings compile (text ++ " " ++ other) = .ok whole) ↔
        ∃ others, scan settings compile other = .ok others) ∧
      (∀ whole others, scan settings compile (text ++ " " ++ other) = .ok whole →
        scan settings compile other = .ok others →
          joinLiterals (whole.map Part.toNode)
            = joinLiterals ((parts ++ .literal " " :: others).map Part.toNode)) ∧
      ∀ e e', scan settings compile (text ++ " " ++ other) = .error e →
        scan settings compile other = .error e' →
          ScanFailure.MovedBy (text.length + 1) e' e := by
  cases hother : scan settings compile other with
  | ok others =>
      obtain ⟨whole, hwhole, hjoined⟩ :=
        exists_scan_append_blank marker_ne escape_ne scanned even hother
      rw [hwhole]
      refine ⟨iff_of_true ⟨whole, rfl⟩ ⟨others, rfl⟩, ?_, nofun⟩
      rintro _ _ ⟨⟩ ⟨⟩
      exact hjoined
  | error e' =>
      obtain ⟨e, hwhole, hmoved⟩ :=
        exists_scan_append_blank_error marker_ne escape_ne scanned even hother
      rw [hwhole]
      refine ⟨iff_of_false (fun h => nomatch h) (fun h => nomatch h), nofun, ?_⟩
      rintro _ _ ⟨⟩ ⟨⟩
      exact hmoved

/-- Behind a string and a name, a name is read as it is alone, and a marker at the end is refused
where it stands. -/
theorem scan_append_blank_behind_name :
    (∃ whole, scan {} Room.standard.compile ("'a' $x" ++ " " ++ "$x") = .ok whole ∧
        joinLiterals (whole.map Part.toNode)
          = [.literal "'a' ", .argument ⟨"x", false, .name "x"⟩, .literal " ",
              .argument ⟨"x", false, .name "x"⟩]) ∧
      ∃ e, scan {} Room.standard.compile ("'a' $x" ++ " " ++ "$") = .error e ∧
        e.kind = "MalformedExpressionError" ∧
          e.details?.map Details.subexpression = some (some "$") ∧
          e.details?.map Details.position = some (some 7) := by
  have hx : Site.read Room.standard.compile ['x'] = .ok (⟨"x", false, .name "x"⟩, []) := by cbv
  have hstring : Cuts {} Room.standard.compile false "'a' $x".toList
      [.char '\'', .char 'a', .char '\'', .char ' ', .site ⟨"x", false, .name "x"⟩ ['x']] := by
    refine .char (by decide) (by decide) (.char (by decide) (by decide) ?_)
    refine .char (by decide) (by decide) (.char (by decide) (by decide) ?_)
    exact @Cuts.site _ _ _ _ ['x'] [] _ hx (.nil _)
  have hfront : scan {} Room.standard.compile "'a' $x"
      = .ok [.literal "'a' ", .site ⟨"x", false, .name "x"⟩] :=
    scan_eq_ok_iff.mpr ⟨_, hstring, rfl⟩
  have hname : scan {} Room.standard.compile "$x" = .ok [.site ⟨"x", false, .name "x"⟩] :=
    scan_eq_ok_iff.mpr ⟨[.site _ ['x']], @Cuts.site _ _ _ _ ['x'] [] _ hx (.nil _), rfl⟩
  have hmarker : scan {} Room.standard.compile "$"
      = .error (.refused (.malformed "$" 0 .missing)) :=
    scan_eq_error_iff.mpr ⟨⟨.unread (.malformed .missing), ['$']⟩,
      @Refused.pieces_eq _ {} _ _ _ (.unread rfl), rfl⟩
  have happend := scan_append_blank (by decide) (by decide) hfront (by decide)
  obtain ⟨hiff, hparts, -⟩ := happend "$x"
  obtain ⟨hiff', -, herrors⟩ := happend "$"
  obtain ⟨whole, hwhole⟩ := hiff.mpr ⟨_, hname⟩
  refine ⟨⟨whole, hwhole, ?_⟩, ?_⟩
  · rw [hparts whole _ hwhole hname]
    rfl
  · cases hfailed : scan {} Room.standard.compile ("'a' $x" ++ " " ++ "$") with
    | ok parts =>
        obtain ⟨others, hothers⟩ := hiff'.mp ⟨parts, hfailed⟩
        rw [hmarker] at hothers
        cases hothers
    | error e =>
        obtain ⟨hkind, hsubexpression, hposition⟩ := herrors e _ hfailed hmarker
        exact ⟨e, rfl, hkind, hsubexpression, hposition⟩

end BoundSql.Template
