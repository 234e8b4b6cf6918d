import BoundSql.Proofs.Lexing
set_option autoImplicit false

/-!
# Quotes in comments and in quoted identifiers

The reader of templates takes every single quote for an end of an SQL string.  The language itself
has places where a single quote is text of another kind: identifiers in double quotes and comments.
The two differ about a marker just where an odd number of such quotes stands in front of it, and
then a marker outside of all strings is left as text, and the value that it was meant for is lost.

The places of SQL text are given by a small lexer of its own, which goes from character to character
and knows code, strings, quoted identifiers and both kinds of comments (`Place`, `Place.next`).
Which comments there are is a parameter, since dialects differ (`CommentRules`).  What stands
between it and the reader of templates is a count: being inside of a string for the reader is the
parity of all quotes, for the lexer that of the quotes which are not hidden (`inside_behind`).

So the theorem holds for every text, and a text with an identifier in quotes shows that the
difference is not an empty one.
-/

namespace BoundSql.Template

/-! ## Where SQL text stands -/

/-- What the dialects of SQL choose about comments: whether block comments nest, and which
characters end a line. -/
structure CommentRules where
  nested : Bool
  endsLine : Char → Bool
  quote_stays : endsLine '\'' = false

/-- Where SQL text stands. -/
inductive Place where
  | code
  /-- in code, behind a dash with which a line comment may begin -/
  | dash
  /-- in code, behind a slash with which a block comment may begin -/
  | slash
  | string
  | identifier
  | lineComment
  /-- in so many block comments around the innermost one, and behind a character that may begin a
  sign -/
  | blockComment (around : Nat) (previous : Option Char)
  deriving DecidableEq, Repr, Inhabited

namespace Place

/-- Whether a single quote is text there, and neither opens nor closes a string. -/
def hidesQuotes : Place → Bool
  | identifier | lineComment | blockComment _ _ => true
  | _ => false

/-- The place behind a character of code that no comment begins with. -/
def ofCode (c : Char) : Place :=
  if c = '\'' then string
  else if c = '"' then identifier
  else if c = '-' then dash
  else if c = '/' then slash
  else code

/-- The place behind a character of a block comment. -/
def inBlock (nested : Bool) (around : Nat) (previous : Option Char) (c : Char) : Place :=
  if previous = some '*' ∧ c = '/' then
    match around with
    | 0 => code
    | around + 1 => blockComment around none
  else if nested ∧ previous = some '/' ∧ c = '*' then blockComment (around + 1) none
  else blockComment around (some c)

/-- The place behind a character. -/
def next (rules : CommentRules) (c : Char) : Place → Place
  | code => ofCode c
  | dash => if c = '-' then lineComment else ofCode c
  | slash => if c = '*' then blockComment 0 none else ofCode c
  | string => if c = '\'' then code else string
  | identifier => if c = '"' then code else identifier
  | lineComment => if rules.endsLine c then code else lineComment
  | blockComment around previous => inBlock rules.nested around previous c

/-- The place behind a site, which no sign of the language goes across. -/
def behindSite : Place → Place
  | dash | slash => code
  | blockComment around _ => blockComment around none
  | place => place

/-- One in a string, zero elsewhere. -/
def inside (p : Place) : Nat := if p = string then 1 else 0

/-- A single quote that is hidden leaves the place outside of strings; any other one opens or closes
a string. -/
theorem inside_next_quote (rules : CommentRules) (p : Place) :
    ((p.next rules '\'').inside + if p.hidesQuotes then 1 else 0) % 2 = (p.inside + 1) % 2 := by
  cases p with
  | string => simp [next, inside, hidesQuotes]
  | lineComment => simp [next, rules.quote_stays, inside, hidesQuotes]
  | blockComment around previous => simp [next, inBlock, inside, hidesQuotes]
  | _ => rfl

/-- No other character opens or closes a string. -/
theorem inside_next (rules : CommentRules) (p : Place) {c : Char} (hc : c ≠ '\'') :
    (p.next rules c).inside = p.inside := by
  have hcode : (ofCode c).inside = 0 := by
    unfold ofCode
    rw [if_neg hc]
    split_ifs <;> rfl
  cases p with
  | code => exact hcode
  | dash =>
      rw [next]
      split_ifs
      · rfl
      · exact hcode
  | slash =>
      rw [next]
      split_ifs
      · rfl
      · exact hcode
  | string => rw [next, if_neg hc]
  | identifier =>
      rw [next]
      split_ifs <;> rfl
  | lineComment =>
      rw [next]
      split_ifs <;> rfl
  | blockComment around previous =>
      rw [next]
      unfold inBlock
      split_ifs
      · cases around <;> rfl
      · rfl
      · rfl

@[simp] theorem inside_behindSite (p : Place) : p.behindSite.inside = p.inside := by
  cases p <;> rfl

end Place

/-! ## Templates as SQL text -/

variable {Code : Type} {settings : Settings} {compile : List Char → Verdict Code}

/-- The characters that a piece brings into the SQL text; a site brings none. -/
def Piece.character? (settings : Settings) : Piece Code → Option Char
  | .char c => some c
  | .escapedMarker => some settings.marker
  | .site _ _ => none

/-- The place behind a piece. -/
def Place.behind (rules : CommentRules) (settings : Settings) (p : Place) (piece : Piece Code) :
    Place :=
  match piece.character? settings with
  | some c => p.next rules c
  | none => p.behindSite

/-- The place behind pieces at the beginning of a text. -/
def placeBehind (rules : CommentRules) (settings : Settings) (ps : List (Piece Code)) : Place :=
  ps.foldl (Place.behind rules settings) .code

/-- The single quotes among pieces that stand in identifiers or in comments, where the first piece
stands at a place. -/
def hiddenFrom (rules : CommentRules) (settings : Settings) : Place → List (Piece Code) → Nat
  | _, [] => 0
  | p, piece :: ps =>
      (if piece.character? settings = some '\'' ∧ p.hidesQuotes then 1 else 0)
        + hiddenFrom rules settings (p.behind rules settings piece) ps

/-- The single quotes in identifiers and comments of a text. -/
def hiddenQuotes (rules : CommentRules) (settings : Settings) (ps : List (Piece Code)) : Nat :=
  hiddenFrom rules settings .code ps

/-- A piece that is a marker, of a site or by itself; an escaped one is none. -/
def Piece.IsMarker (settings : Settings) (piece : Piece Code) : Prop :=
  piece = .char settings.marker ∨ ∃ site span, piece = .site site span

/-- The quotes of a piece that count for the reader of templates are those of its character. -/
theorem quotesOutside_piece (piece : Piece Code) :
    quotesOutside (piece.labelled settings)
      = if piece.character? settings = some '\'' then 1 else 0 := by
  cases piece with
  | char c => simp [Piece.labelled, Piece.character?, quotesOutside, List.countP_cons]
  | escapedMarker =>
      simp [Piece.labelled, Piece.character?, quotesOutside, settings.escape_ne_quote,
        settings.marker_ne_quote]
  | site site span =>
      have hspan := quotesOutside_span span
      rw [quotesOutside] at hspan ⊢
      simp [Piece.labelled, Piece.character?, settings.marker_ne_quote, hspan]

/-- What one piece changes: a hidden quote counts for the reader of templates and for nothing
else. -/
theorem inside_behind (rules : CommentRules) (p : Place) (piece : Piece Code) :
    ((p.behind rules settings piece).inside
        + if piece.character? settings = some '\'' ∧ p.hidesQuotes then 1 else 0) % 2
      = (p.inside + quotesOutside (piece.labelled settings)) % 2 := by
  rw [quotesOutside_piece, Place.behind]
  cases hc : piece.character? settings with
  | none => simp
  | some c =>
      by_cases hquote : c = '\''
      · subst hquote
        simpa using p.inside_next_quote rules
      · simp [hquote, p.inside_next rules hquote]

/-- What pieces change: the quotes that count for the reader of templates are those that open and
close strings and the hidden ones. -/
theorem inside_foldl_behind (rules : CommentRules) (p : Place) (ps : List (Piece Code)) :
    ((ps.foldl (Place.behind rules settings) p).inside + hiddenFrom rules settings p ps) % 2
      = (p.inside + quotesOutside (labelled settings ps)) % 2 := by
  induction ps generalizing p with
  | nil => rfl
  | cons piece ps ih =>
      have hstep := @inside_behind _ settings rules p piece
      have htail := ih (p.behind rules settings piece)
      rw [List.foldl_cons, hiddenFrom, labelled_cons, quotesOutside_append]
      omega

/-- A marker begins a site just if an even number of quotes stands in front of it. -/
theorem Factors.site_iff_even {cs : List Char} {before after : List (Piece Code)}
    {piece : Piece Code} (h : Factors settings compile [] cs (before ++ piece :: after))
    (marker : piece.IsMarker settings) :
    (∃ site span, piece = .site site span) ↔
      quotesOutside (labelled settings before) % 2 = 0 := by
  have hrule : ∀ role ls, piece.labelled settings = (settings.marker, role) :: ls →
      role ≠ .span → MarkerRule settings (labelled settings before) role := by
    intro role ls hpiece hrole
    have hlabels : labelled settings (before ++ piece :: after)
        = labelled settings before
          ++ (settings.marker, role) :: (ls ++ labelled settings after) := by
      rw [labelled, List.flatMap_append, ← labelled, ← labelled, labelled_cons, hpiece]
      rfl
    have hmarker := h.markers (labelled settings before).length role
      (by rw [hlabels, List.getElem?_append_right (Nat.le_refl _), Nat.sub_self]; rfl) hrole
    rwa [hlabels, List.take_left, List.nil_append] at hmarker
  rcases marker with rfl | ⟨site, span, rfl⟩
  · have hodd := markerRule_text_iff.mp (hrule .text [] rfl nofun)
    rw [hodd]
    simp
  · have heven := (markerRule_marker_iff.mp (hrule .marker _ rfl nofun)).1
    exact iff_of_true ⟨site, span, rfl⟩ heven

/-- Which markers are sites, if scanning leaves markers inside strings alone.  A marker that SQL
places outside of all strings is a site just if an even number of hidden quotes stands in front of
it, and one that it places inside of a string is a site just if the number is odd.  So a marker
outside of strings is left as text if and only if an odd number of single quotes stands in
identifiers and comments in front of it. -/
theorem marker_is_site_iff_even_hidden_quotes (rules : CommentRules)
    (lenient : settings.allowMarkersInStrings = true) {text : String} {parts : List (Part Code)}
    (scanned : scan settings compile text = .ok parts) :
    ∃ ps, Factors settings compile [] text.toList ps ∧
      (∀ qs, Factors settings compile [] text.toList qs → qs = ps) ∧
      parts = gather settings.marker [] ps ∧
      ∀ before piece after, ps = before ++ piece :: after → piece.IsMarker settings →
        (placeBehind rules settings before ≠ .string →
          ((∃ site span, piece = .site site span) ↔
            hiddenQuotes rules settings before % 2 = 0)) ∧
        (placeBehind rules settings before = .string →
          ((∃ site span, piece = .site site span) ↔
            hiddenQuotes rules settings before % 2 = 1)) := by
  obtain ⟨ps, hcuts, rfl⟩ := scan_eq_ok_iff.mp scanned
  have hfactors := (factors_iff_cuts lenient).mpr hcuts
  refine ⟨ps, hfactors, fun qs hqs => cuts_unique ((factors_iff_cuts lenient).mp hqs) hcuts, rfl,
    ?_⟩
  rintro before piece after rfl hmarker
  have hparity :
      ((placeBehind rules settings before).inside + hiddenQuotes rules settings before) % 2
        = (0 + quotesOutside (labelled settings before)) % 2 :=
    inside_foldl_behind rules .code before
  rw [hfactors.site_iff_even hmarker]
  constructor
  · intro houtside
    rw [Place.inside, if_neg houtside] at hparity
    omega
  · intro hstring
    rw [Place.inside, if_pos hstring] at hparity
    omega

/-- Two single quotes in a quoted identifier, and a site behind it. -/
theorem marker_is_site_iff_even_hidden_quotes_of_identifier :
    let rules : CommentRules := ⟨true, (· == '\n'), rfl⟩
    ∃ ps, Factors {} Room.standard.compile [] "\"''\"$x".toList ps ∧
      ∀ before piece after, ps = before ++ piece :: after → piece.IsMarker {} →
        placeBehind rules {} before ≠ .string →
          ((∃ site span, piece = .site site span) ↔ hiddenQuotes rules {} before % 2 = 0) := by
  intro rules
  have hx : Site.read Room.standard.compile ['x'] = .ok (⟨"x", false, .name "x"⟩, []) := by cbv
  have hsite : Cuts {} Room.standard.compile false ['$', 'x']
      [.site ⟨"x", false, .name "x"⟩ ['x']] :=
    @Cuts.site _ _ _ _ ['x'] [] _ hx (.nil _)
  have hcuts : Cuts {} Room.standard.compile false "\"''\"$x".toList
      [.char '"', .char '\'', .char '\'', .char '"', .site ⟨"x", false, .name "x"⟩ ['x']] := by
    refine .char (by decide) (by decide) (.char (by decide) (by decide) ?_)
    exact .char (by decide) (by decide) (.char (by decide) (by decide) hsite)
  obtain ⟨ps, hfactors, -, -, hmarkers⟩ :=
    marker_is_site_iff_even_hidden_quotes rules rfl (scan_eq_ok_iff.mpr ⟨_, hcuts, rfl⟩)
  exact ⟨ps, hfactors, fun before piece after hps hmarker =>
    (hmarkers before piece after hps hmarker).1⟩

/-- A marker behind a quoted identifier with one single quote: SQL places it in code, in every
dialect, and it is left as text. -/
theorem marker_behind_quoted_identifier_is_text :
    scan {} Room.standard.compile "select \"it's\" = $x" = .ok [.literal "select \"it's\" = $x"] ∧
    ∃ before : List (Piece Expr.Tree),
      Factors {} Room.standard.compile [] "select \"it's\" = $x".toList
        (before ++ .char '$' :: [.char 'x']) ∧
      ∀ rules, placeBehind rules {} before = .code := by
  have hpieces : pieces {} Room.standard.compile false "select \"it's\" = $x".toList
      = .ok ("select \"it's\" = ".toList.map .char ++ .char '$' :: [.char 'x']) := by cbv
  refine ⟨?_, _, (factors_iff_cuts rfl).mpr (pieces_eq_ok_iff.mp hpieces), fun rules => rfl⟩
  exact scan_eq_ok_iff.mpr ⟨_, pieces_eq_ok_iff.mp hpieces, rfl⟩

end BoundSql.Template
