import BoundSql.Proofs.Cutting
import BoundSql.Template.Room
set_option autoImplicit false

/-!
# Scanning is lexing

What each character of a template is there for can be said by looking at the text alone: a marker
begins a site if an even number of single quotes stands in front of it and no escape stands right in
front of it, where the text that earlier sites take up does not count.  A text has at most one
factorisation of this kind.  Scanning succeeds if it has one, and the parts are its pieces in order.

`Factors` is that factorisation: a role for each character (`Role`), with rules that speak of the
quotes and escapes in front of a character in the whole text (`MarkerRule`), and of no state that
somebody keeps.  The scanner keeps a flag instead.  `Tracks` says that the flag is the parity of the
quotes, and by it a text is factored exactly as it is cut (`factors_iff_cuts`), in one way at most
(`cuts_unique`).

Parts are larger than pieces: literal characters that follow each other are one part, without the
escapes of its markers.  `Grouped` describes this from the pieces, and gathering does it
(`gather_grouped`).
-/

namespace BoundSql.Template

variable {Code : Type} {settings : Settings} {compile : List Char → Verdict Code}

/-! ## What characters are there for -/

/-- What a character of a template is there for. -/
inductive Role where
  /-- it stands for itself -/
  | text
  /-- it takes the meaning of the marker behind it away -/
  | escape
  /-- it is a marker that was escaped -/
  | escaped
  /-- it is the marker of a site -/
  | marker
  /-- it belongs to the expression of a site -/
  | span
  deriving DecidableEq, Repr, Inhabited

/-- A character with its role. -/
abbrev Labelled : Type := Char × Role

/-- The characters of a piece with their roles. -/
def Piece.labelled (settings : Settings) : Piece Code → List Labelled
  | .char c => [(c, .text)]
  | .escapedMarker => [(settings.escape, .escape), (settings.marker, .escaped)]
  | .site _ span => (settings.marker, .marker) :: span.map fun c => (c, .span)

/-- The characters of pieces with their roles. -/
def labelled (settings : Settings) (ps : List (Piece Code)) : List Labelled :=
  ps.flatMap (Piece.labelled settings)

/-- The text that pieces are cut from. -/
def sourceText (settings : Settings) (ps : List (Piece Code)) : List Char :=
  (labelled settings ps).map Prod.fst

/-- The number of single quotes outside the expressions of sites. -/
def quotesOutside (ls : List Labelled) : Nat :=
  ls.countP fun l => l.1 == '\'' && l.2 != .span

/-- The text ends with an escape character that belongs to no expression. -/
def EndsWithEscape (settings : Settings) (ls : List Labelled) : Prop :=
  ∃ role, ls.getLast? = some (settings.escape, role) ∧ role ≠ .span

/-- The role that a marker outside the expressions of sites has behind a text: it begins a site if
an even number of quotes and no escape stands in front of it, it is an escaped one if an escape does
so, and otherwise it stands for itself. -/
def MarkerRule (settings : Settings) (front : List Labelled) (role : Role) : Prop :=
  (role = .marker ↔ quotesOutside front % 2 = 0 ∧ ¬ EndsWithEscape settings front) ∧
    (role = .escaped ↔ quotesOutside front % 2 = 0 ∧ EndsWithEscape settings front)

/-- All markers of a text outside the expressions of sites have the role that the text in front of
them gives them. -/
def MarkersFollow (settings : Settings) (front ls : List Labelled) : Prop :=
  ∀ (i : Nat) (role : Role), ls[i]? = some (settings.marker, role) → role ≠ .span →
    MarkerRule settings (front ++ ls.take i) role

/-- A factorisation of text into pieces, behind text that has its roles already.  Each site takes
up what its reader consumes, and markers have the roles that follow from the text. -/
structure Factors (settings : Settings) (compile : List Char → Verdict Code)
    (front : List Labelled) (cs : List Char) (ps : List (Piece Code)) : Prop where
  covers : sourceText settings ps = cs
  reads : ∀ (before : List (Piece Code)) (site : Site Code) (span : List Char)
    (after : List (Piece Code)), ps = before ++ .site site span :: after →
      Site.read compile (span ++ sourceText settings after)
        = .ok (site, sourceText settings after)
  markers : MarkersFollow settings front (labelled settings ps)

/-! ## Small facts about roles -/

@[simp] theorem labelled_cons (p : Piece Code) (ps : List (Piece Code)) :
    labelled settings (p :: ps) = p.labelled settings ++ labelled settings ps := rfl

@[simp] theorem sourceText_cons (p : Piece Code) (ps : List (Piece Code)) :
    sourceText settings (p :: ps)
      = (p.labelled settings).map Prod.fst ++ sourceText settings ps := by
  rw [sourceText, labelled_cons, List.map_append, sourceText]

theorem map_fst_span (span : List Char) :
    (span.map fun c => (c, Role.span)).map Prod.fst = span := by
  rw [List.map_map]
  exact List.map_id span

theorem quotesOutside_append (ls ms : List Labelled) :
    quotesOutside (ls ++ ms) = quotesOutside ls + quotesOutside ms :=
  List.countP_append

theorem quotesOutside_span (span : List Char) :
    quotesOutside (span.map fun c => (c, Role.span)) = 0 := by
  rw [quotesOutside, List.countP_map, List.countP_eq_zero]
  intro c _
  simp

@[simp] theorem endsWithEscape_append_singleton (ls : List Labelled) (c : Char) (role : Role) :
    EndsWithEscape settings (ls ++ [(c, role)]) ↔ c = settings.escape ∧ role ≠ .span := by
  simp only [EndsWithEscape, List.getLast?_append, List.getLast?_singleton, Option.some_or,
    Option.some.injEq, Prod.mk.injEq]
  constructor
  · rintro ⟨r, ⟨hc, rfl⟩, hr⟩
    exact ⟨hc, hr⟩
  · rintro ⟨hc, hr⟩
    exact ⟨role, ⟨hc, rfl⟩, hr⟩

/-- No escape stands right behind a site, whatever its expression ends with. -/
theorem not_endsWithEscape_site (ls : List Labelled) (site : Site Code) (span : List Char) :
    ¬ EndsWithEscape settings (ls ++ (Piece.site site span).labelled settings) := by
  rcases List.eq_nil_or_concat span with rfl | ⟨span, c, rfl⟩
  · rw [Piece.labelled, List.map_nil, endsWithEscape_append_singleton]
    exact fun h => settings.marker_ne_escape h.1
  · have hlast : ls ++ (Piece.site site (span.concat c)).labelled settings
        = (ls ++ (settings.marker, .marker) :: span.map fun c => (c, .span)) ++ [(c, .span)] := by
      simp [Piece.labelled]
    rw [hlast, endsWithEscape_append_singleton]
    exact fun h => h.2 rfl

/-- The first character of a text is neither an escaped marker nor part of an expression. -/
theorem role_of_head {ps : List (Piece Code)} {c : Char} {role : Role}
    (h : (labelled settings ps)[0]? = some (c, role)) : role ≠ .escaped ∧ role ≠ .span := by
  cases ps with
  | nil => cases h
  | cons p ps =>
      cases p with
      | char d =>
          obtain ⟨-, rfl⟩ := Prod.mk.inj (Option.some.inj h)
          exact ⟨nofun, nofun⟩
      | escapedMarker =>
          obtain ⟨-, rfl⟩ := Prod.mk.inj (Option.some.inj h)
          exact ⟨nofun, nofun⟩
      | site s span =>
          obtain ⟨-, rfl⟩ := Prod.mk.inj (Option.some.inj h)
          exact ⟨nofun, nofun⟩

/-! ## Markers one after the other -/

theorem markersFollow_nil (front : List Labelled) : MarkersFollow settings front [] :=
  fun _ _ h => nomatch h

/-- The rule for a text is the rule for its first character and the rule for the others behind
it. -/
theorem markersFollow_cons {front ls : List Labelled} {c : Char} {role : Role} :
    MarkersFollow settings front ((c, role) :: ls) ↔
      (c = settings.marker → role ≠ .span → MarkerRule settings front role) ∧
        MarkersFollow settings (front ++ [(c, role)]) ls := by
  constructor
  · intro h
    refine ⟨fun hc hrole => ?_, fun i r hi hr => ?_⟩
    · have hzero := h 0 role (by rw [← hc]; rfl) hrole
      rwa [List.take_zero, List.append_nil] at hzero
    · have hsucc := h (i + 1) r hi hr
      rwa [List.take_succ_cons, List.append_cons] at hsucc
  · rintro ⟨hhead, htail⟩ i r hi hr
    cases i with
    | zero =>
        obtain ⟨hc, rfl⟩ := Prod.mk.inj (Option.some.inj hi)
        rw [List.take_zero, List.append_nil]
        exact hhead hc hr
    | succ i =>
        rw [List.take_succ_cons, List.append_cons]
        exact htail i r hi hr

/-- The characters of an expression are no markers of the template. -/
theorem markersFollow_span (span : List Char) {front ls : List Labelled} :
    MarkersFollow settings front ((span.map fun c => (c, .span)) ++ ls) ↔
      MarkersFollow settings (front ++ span.map fun c => (c, .span)) ls := by
  induction span generalizing front with
  | nil => rw [List.map_nil, List.nil_append, List.append_nil]
  | cons c span ih =>
      have hfront : front ++ (c, Role.span) :: span.map (fun c => (c, .span))
          = front ++ [(c, .span)] ++ span.map fun c => (c, .span) := List.append_cons _ _ _
      rw [List.map_cons, List.cons_append, markersFollow_cons, ih, hfront]
      exact and_iff_right fun _ h => absurd rfl h

/-- A marker that stands for itself stands inside an SQL string. -/
theorem markerRule_text_iff {front : List Labelled} :
    MarkerRule settings front .text ↔ quotesOutside front % 2 = 1 := by
  unfold MarkerRule
  simp only [reduceCtorEq, false_iff, not_and, Classical.not_not]
  constructor
  · rintro ⟨hmarker, hescaped⟩
    rcases Nat.mod_two_eq_zero_or_one (quotesOutside front) with heven | hodd
    · exact absurd (hmarker heven) (hescaped heven)
    · exact hodd
  · intro hodd
    refine ⟨fun heven => ?_, fun heven => ?_⟩
    · rw [hodd] at heven
      exact absurd heven Nat.one_ne_zero
    · rw [hodd] at heven
      exact absurd heven Nat.one_ne_zero

theorem markerRule_marker_iff {front : List Labelled} :
    MarkerRule settings front .marker ↔
      quotesOutside front % 2 = 0 ∧ ¬ EndsWithEscape settings front := by
  unfold MarkerRule
  simp only [true_iff, reduceCtorEq, false_iff, not_and]
  exact ⟨And.left, fun h => ⟨h, fun _ => h.2⟩⟩

theorem markerRule_escaped_iff {front : List Labelled} :
    MarkerRule settings front .escaped ↔
      quotesOutside front % 2 = 0 ∧ EndsWithEscape settings front := by
  unfold MarkerRule
  simp only [true_iff, reduceCtorEq, false_iff, not_and, Classical.not_not]
  exact ⟨And.right, fun h => ⟨fun _ => h.2, h⟩⟩

/-! ## Factorisations one piece after the other -/

/-- The sites of a row of pieces are read as they should be if the first piece is, in case it is a
site, and the sites behind it are. -/
theorem reads_cons {p : Piece Code} {ps : List (Piece Code)} :
    (∀ (before : List (Piece Code)) (site : Site Code) (span : List Char)
      (after : List (Piece Code)), p :: ps = before ++ .site site span :: after →
        Site.read compile (span ++ sourceText settings after)
          = .ok (site, sourceText settings after)) ↔
      (∀ (site : Site Code) (span : List Char), p = .site site span →
        Site.read compile (span ++ sourceText settings ps)
          = .ok (site, sourceText settings ps)) ∧
      ∀ (before : List (Piece Code)) (site : Site Code) (span : List Char)
        (after : List (Piece Code)), ps = before ++ .site site span :: after →
          Site.read compile (span ++ sourceText settings after)
            = .ok (site, sourceText settings after) := by
  constructor
  · intro h
    refine ⟨fun site span hp => ?_, fun before site span after hps => ?_⟩
    · exact h [] site span ps (by rw [hp, List.nil_append])
    · exact h (p :: before) site span after (by rw [hps, List.cons_append])
  · rintro ⟨hhead, htail⟩ before site span after heq
    cases before with
    | nil =>
        obtain ⟨hp, rfl⟩ := List.cons.inj heq
        exact hhead site span hp
    | cons b before =>
        obtain ⟨-, hps⟩ := List.cons.inj heq
        exact htail before site span after hps

theorem factors_nil_iff {front : List Labelled} {cs : List Char} :
    Factors settings compile front cs [] ↔ cs = [] := by
  constructor
  · intro h
    exact h.covers.symm
  · rintro rfl
    exact ⟨rfl, fun before _ _ _ h => by simp at h, markersFollow_nil front⟩

theorem factors_char_iff {front : List Labelled} {cs : List Char} {c : Char}
    {ps : List (Piece Code)} :
    Factors settings compile front cs (.char c :: ps) ↔
      ∃ rest, cs = c :: rest ∧ (c = settings.marker → quotesOutside front % 2 = 1) ∧
        Factors settings compile (front ++ [(c, .text)]) rest ps := by
  constructor
  · rintro ⟨hcovers, hreads, hmarkers⟩
    obtain ⟨hc, hrest⟩ := markersFollow_cons.mp hmarkers
    refine ⟨sourceText settings ps, hcovers.symm, fun hm => ?_, rfl, (reads_cons.mp hreads).2,
      hrest⟩
    exact markerRule_text_iff.mp (hc hm nofun)
  · rintro ⟨rest, rfl, hc, hcovers, hreads, hmarkers⟩
    refine ⟨by rw [sourceText_cons, hcovers]; rfl, reads_cons.mpr ⟨nofun, hreads⟩, ?_⟩
    exact markersFollow_cons.mpr ⟨fun hm _ => markerRule_text_iff.mpr (hc hm), hmarkers⟩

theorem factors_escapedMarker_iff {front : List Labelled} {cs : List Char}
    {ps : List (Piece Code)} :
    Factors settings compile front cs (.escapedMarker :: ps) ↔
      ∃ rest, cs = settings.escape :: settings.marker :: rest ∧ quotesOutside front % 2 = 0 ∧
        Factors settings compile
          (front ++ [(settings.escape, .escape), (settings.marker, .escaped)]) rest ps := by
  have hquotes : quotesOutside (front ++ [(settings.escape, .escape)]) = quotesOutside front := by
    rw [quotesOutside_append]
    simp [quotesOutside, settings.escape_ne_quote]
  have hends : EndsWithEscape settings (front ++ [(settings.escape, .escape)]) :=
    (endsWithEscape_append_singleton front settings.escape .escape).mpr ⟨rfl, nofun⟩
  constructor
  · rintro ⟨hcovers, hreads, hmarkers⟩
    obtain ⟨-, hmarkers⟩ := markersFollow_cons.mp hmarkers
    obtain ⟨hmarker, hrest⟩ := markersFollow_cons.mp hmarkers
    refine ⟨sourceText settings ps, hcovers.symm, ?_, rfl, (reads_cons.mp hreads).2, ?_⟩
    · rw [← hquotes]
      exact (markerRule_escaped_iff.mp (hmarker rfl nofun)).1
    · rwa [List.append_assoc] at hrest
  · rintro ⟨rest, rfl, heven, hcovers, hreads, hmarkers⟩
    refine ⟨by rw [sourceText_cons, hcovers]; rfl, reads_cons.mpr ⟨nofun, hreads⟩, ?_⟩
    refine markersFollow_cons.mpr ⟨fun h => absurd h settings.marker_ne_escape.symm, ?_⟩
    refine markersFollow_cons.mpr ⟨fun _ _ => markerRule_escaped_iff.mpr ⟨?_, hends⟩, ?_⟩
    · rw [hquotes]
      exact heven
    · rwa [List.append_assoc]

theorem factors_site_iff {front : List Labelled} {cs : List Char} {site : Site Code}
    {span : List Char} {ps : List (Piece Code)} :
    Factors settings compile front cs (.site site span :: ps) ↔
      ∃ rest, cs = settings.marker :: (span ++ rest) ∧
        Site.read compile (span ++ rest) = .ok (site, rest) ∧
        quotesOutside front % 2 = 0 ∧ ¬ EndsWithEscape settings front ∧
        Factors settings compile (front ++ (Piece.site site span).labelled settings) rest ps := by
  constructor
  · rintro ⟨hcovers, hreads, hmarkers⟩
    obtain ⟨hmarker, hrest⟩ := markersFollow_cons.mp hmarkers
    obtain ⟨heven, hescape⟩ := markerRule_marker_iff.mp (hmarker rfl nofun)
    refine ⟨sourceText settings ps, ?_, (reads_cons.mp hreads).1 site span rfl, heven, hescape,
      rfl, (reads_cons.mp hreads).2, ?_⟩
    · rw [← hcovers, sourceText_cons, Piece.labelled, List.map_cons, map_fst_span]
      rfl
    · have hbehind := (markersFollow_span span).mp hrest
      rwa [List.append_assoc] at hbehind
  · rintro ⟨rest, rfl, hread, heven, hescape, hcovers, hreads, hmarkers⟩
    refine ⟨?_, reads_cons.mpr ⟨?_, hreads⟩, ?_⟩
    · rw [sourceText_cons, Piece.labelled, List.map_cons, map_fst_span, hcovers]
      rfl
    · intro site' span' h
      obtain ⟨rfl, rfl⟩ := Piece.site.inj h
      rw [hcovers]
      exact hread
    · refine markersFollow_cons.mpr
        ⟨fun _ _ => markerRule_marker_iff.mpr ⟨heven, hescape⟩, ?_⟩
      refine (markersFollow_span span).mpr ?_
      rw [List.append_assoc]
      exact hmarkers

/-! ## Cutting and factorisations -/

/-- The flag of the cutting says whether an odd number of quotes was passed. -/
def Tracks (inString : Bool) (front : List Labelled) : Prop :=
  inString = true ↔ quotesOutside front % 2 = 1

theorem Tracks.even_of_eq_false {front : List Labelled} (h : Tracks false front) :
    quotesOutside front % 2 = 0 := by
  rcases Nat.mod_two_eq_zero_or_one (quotesOutside front) with heven | hodd
  · exact heven
  · exact absurd (h.mpr hodd) Bool.false_ne_true

theorem tracks_false_of_even {front : List Labelled} (h : quotesOutside front % 2 = 0) :
    Tracks false front :=
  ⟨nofun, fun hodd => by rw [h] at hodd; exact absurd hodd Nat.zero_ne_one⟩

theorem Tracks.eq_false_of_even {inString : Bool} {front : List Labelled}
    (h : Tracks inString front) (even : quotesOutside front % 2 = 0) : inString = false := by
  cases inString with
  | false => rfl
  | true =>
      have hodd := h.mp rfl
      omega

theorem Tracks.char {inString : Bool} {front : List Labelled} (h : Tracks inString front)
    (c : Char) : Tracks (if c = '\'' then !inString else inString) (front ++ [(c, .text)]) := by
  unfold Tracks at h ⊢
  rw [quotesOutside_append]
  by_cases hc : c = '\''
  · have hone : quotesOutside [(c, Role.text)] = 1 := by simp [quotesOutside, hc]
    rw [if_pos hc, hone]
    cases inString with
    | false =>
        have heven := Tracks.even_of_eq_false h
        simp only [Bool.not_false, true_iff]
        omega
    | true =>
        have hodd := h.mp rfl
        simp only [Bool.not_true, Bool.false_eq_true, false_iff]
        omega
  · have hzero : quotesOutside [(c, Role.text)] = 0 := by simp [quotesOutside, hc]
    rw [if_neg hc, hzero, Nat.add_zero]
    exact h

theorem Tracks.escapedMarker {front : List Labelled} (h : Tracks false front) :
    Tracks false (front ++ [(settings.escape, .escape), (settings.marker, .escaped)]) := by
  have hpair : quotesOutside [(settings.escape, .escape), (settings.marker, .escaped)] = 0 := by
    simp [quotesOutside, settings.escape_ne_quote, settings.marker_ne_quote]
  refine tracks_false_of_even ?_
  rw [quotesOutside_append, hpair]
  exact h.even_of_eq_false

theorem Tracks.site {front : List Labelled} (h : Tracks false front) (site : Site Code)
    (span : List Char) :
    Tracks false (front ++ (Piece.site site span).labelled settings) := by
  have hmarker : quotesOutside [(settings.marker, Role.marker)] = 0 := by
    simp [quotesOutside, settings.marker_ne_quote]
  refine tracks_false_of_even ?_
  rw [Piece.labelled, List.append_cons, quotesOutside_append, quotesOutside_append, hmarker,
    quotesOutside_span]
  exact h.even_of_eq_false

/-- What is cut by the rules is a factorisation, unless it begins with a marker whose escape was
passed already. -/
theorem factors_of_cuts {inString : Bool} {cs : List Char} {ps : List (Piece Code)}
    (h : Cuts settings compile inString cs ps) {front : List Labelled}
    (tracks : Tracks inString front)
    (fresh : EndsWithEscape settings front → inString = false →
      cs.head? ≠ some settings.marker) :
    Factors settings compile front cs ps := by
  induction h generalizing front with
  | nil => exact factors_nil_iff.mpr rfl
  | @char inString c rest ps quoted single tail ih =>
      refine factors_char_iff.mpr ⟨rest, rfl, fun hc => tracks.mp (quoted hc).1, ?_⟩
      refine ih (tracks.char c) fun hends hout => ?_
      -- Behind a character that stands for itself, only an escape could matter.
      obtain ⟨hc, -⟩ := (endsWithEscape_append_singleton front c .text).mp hends
      have hquote : c ≠ '\'' := hc ▸ settings.escape_ne_quote
      rw [if_neg hquote] at hout
      exact single hc hout
  | @escapedMarker rest ps tail ih =>
      refine factors_escapedMarker_iff.mpr ⟨rest, rfl, tracks.even_of_eq_false, ?_⟩
      refine ih tracks.escapedMarker fun hends _ => ?_
      rw [List.append_cons, endsWithEscape_append_singleton] at hends
      exact absurd hends.1 settings.marker_ne_escape
  | @site site span rest ps reads tail ih =>
      refine factors_site_iff.mpr ⟨rest, rfl, reads, tracks.even_of_eq_false, ?_, ?_⟩
      · intro hends
        exact fresh hends rfl rfl
      · exact ih (tracks.site site span) fun hends _ =>
          absurd hends (not_endsWithEscape_site front site span)

/-- The first character of a factorisation behind an escape outside a string is no marker. -/
theorem head?_ne_marker_of_factors {front : List Labelled} {cs : List Char}
    {ps : List (Piece Code)} (h : Factors settings compile front cs ps)
    (even : quotesOutside front % 2 = 0) (escape : EndsWithEscape settings front) :
    cs.head? ≠ some settings.marker := by
  intro hhead
  have hfirst : ((labelled settings ps)[0]?).map Prod.fst = some settings.marker := by
    rw [← List.getElem?_map, ← List.head?_eq_getElem?, ← sourceText, h.covers]
    exact hhead
  obtain ⟨⟨c, role⟩, hlabel, rfl⟩ := Option.map_eq_some_iff.mp hfirst
  obtain ⟨hescaped, hspan⟩ := role_of_head hlabel
  have hrule := h.markers 0 role hlabel hspan
  rw [List.take_zero, List.append_nil] at hrule
  exact hescaped (hrule.2.mpr ⟨even, escape⟩)

/-- A factorisation is cut by the rules. -/
theorem cuts_of_factors (lenient : settings.allowMarkersInStrings = true) {inString : Bool}
    {front : List Labelled} {cs : List Char} {ps : List (Piece Code)}
    (h : Factors settings compile front cs ps) (tracks : Tracks inString front) :
    Cuts settings compile inString cs ps := by
  induction ps generalizing front cs inString with
  | nil =>
      obtain rfl := factors_nil_iff.mp h
      exact .nil inString
  | cons p ps ih =>
      cases p with
      | char c =>
          obtain ⟨rest, rfl, hc, hrest⟩ := factors_char_iff.mp h
          refine .char (fun hm => ⟨tracks.mpr (hc hm), lenient⟩) (fun he hout => ?_)
            (ih hrest (tracks.char c))
          subst hout
          refine head?_ne_marker_of_factors hrest ?_ ?_
          · have hquote : c ≠ '\'' := he ▸ settings.escape_ne_quote
            have htail := tracks.char c
            rw [if_neg hquote] at htail
            exact htail.even_of_eq_false
          · exact (endsWithEscape_append_singleton front c .text).mpr ⟨he, nofun⟩
      | escapedMarker =>
          obtain ⟨rest, rfl, heven, hrest⟩ := factors_escapedMarker_iff.mp h
          obtain rfl := tracks.eq_false_of_even heven
          exact .escapedMarker (ih hrest tracks.escapedMarker)
      | site site span =>
          obtain ⟨rest, rfl, hread, heven, -, hrest⟩ := factors_site_iff.mp h
          obtain rfl := tracks.eq_false_of_even heven
          exact .site hread (ih hrest (tracks.site site span))

theorem tracks_nil : Tracks false [] := tracks_false_of_even rfl

/-- The factorisations of a text are the ways in which the rules cut it. -/
theorem factors_iff_cuts (lenient : settings.allowMarkersInStrings = true) {cs : List Char}
    {ps : List (Piece Code)} :
    Factors settings compile [] cs ps ↔ Cuts settings compile false cs ps := by
  constructor
  · intro h
    exact cuts_of_factors lenient h tracks_nil
  · intro h
    refine factors_of_cuts h tracks_nil fun hends _ => ?_
    obtain ⟨role, hrole, -⟩ := hends
    cases hrole

/-- A text falls into pieces in at most one way. -/
theorem cuts_unique {inString : Bool} {cs : List Char} {ps qs : List (Piece Code)}
    (hps : Cuts settings compile inString cs ps) (hqs : Cuts settings compile inString cs qs) :
    ps = qs := by
  have heq := (pieces_eq_ok_iff.mpr hps).symm.trans (pieces_eq_ok_iff.mpr hqs)
  exact Except.ok.inj heq

/-! ## Parts and the pieces they are made of -/

/-- Whether a part is literal text. -/
def Part.isLiteral : Part Code → Bool
  | .literal _ => true
  | .site _ => false

/-- What a run of pieces spells: a run of characters, of which an escaped marker may be the first,
spells its text without the escape, and a site spells itself. -/
inductive Spells (settings : Settings) : Part Code → List (Piece Code) → Prop where
  | chars (c : Char) (cs : List Char) :
      Spells settings (.literal (String.ofList (c :: cs))) ((c :: cs).map .char)
  | escapedMarker (cs : List Char) :
      Spells settings (.literal (String.ofList (settings.marker :: cs)))
        (.escapedMarker :: cs.map .char)
  | site (site : Site Code) (span : List Char) :
      Spells settings (.site site) [.site site span]

/-- Parts with the runs of pieces that they are made of. -/
abbrev Groups (Code : Type) : Type := List (Part Code × List (Piece Code))

/-- The text of a part: literal text as it is, and a site with its marker. -/
def written (settings : Settings) : Part Code × List (Piece Code) → List Char
  | (.literal text, _) => text.toList
  | (.site _, run) => sourceText settings run

/-- The parts of a template are groups of its pieces in order, and two literal parts meet only
where the second one begins with an escaped marker. -/
structure Grouped (settings : Settings) (ps : List (Piece Code)) (parts : List (Part Code))
    (groups : Groups Code) : Prop where
  parts_eq : groups.map Prod.fst = parts
  pieces_eq : groups.flatMap Prod.snd = ps
  spells : ∀ g ∈ groups, Spells settings g.1 g.2
  apart : ∀ (before : Groups Code) (g h : Part Code × List (Piece Code)) (after : Groups Code),
    groups = before ++ g :: h :: after → g.1.isLiteral = true → h.1.isLiteral = true →
      h.2.head? = some .escapedMarker

theorem Spells.run_ne_nil {part : Part Code} {run : List (Piece Code)}
    (h : Spells settings part run) : run ≠ [] := by
  cases h with
  | chars c cs => exact List.cons_ne_nil _ _
  | escapedMarker cs => exact List.cons_ne_nil _ _
  | site site span => exact List.cons_ne_nil _ _

/-- The first group begins with the first piece. -/
theorem Grouped.head?_run {ps : List (Piece Code)} {parts : List (Part Code)}
    {g : Part Code × List (Piece Code)} {groups : Groups Code}
    (h : Grouped settings ps parts (g :: groups)) : g.2.head? = ps.head? := by
  have hne := (h.spells g List.mem_cons_self).run_ne_nil
  obtain ⟨p, run, hrun⟩ := List.exists_cons_of_ne_nil hne
  rw [← h.pieces_eq, List.flatMap_cons, hrun]
  rfl

theorem Grouped.nil : Grouped settings ([] : List (Piece Code)) [] [] where
  parts_eq := rfl
  pieces_eq := rfl
  spells _ h := nomatch h
  apart before _ _ _ h := by simp at h

/-- Groups go on with a group in front of them.  Where two literal parts meet, the second one has
to begin with an escaped marker. -/
theorem Grouped.cons {ps : List (Piece Code)} {parts : List (Part Code)} {groups : Groups Code}
    (h : Grouped settings ps parts groups) {part : Part Code} {run : List (Piece Code)}
    (spells : Spells settings part run)
    (apart : part.isLiteral = true → ps.head? = some .escapedMarker ∨
      ∀ g ∈ groups.head?, g.1.isLiteral = false) :
    Grouped settings (run ++ ps) (part :: parts) ((part, run) :: groups) where
  parts_eq := by rw [List.map_cons, h.parts_eq]
  pieces_eq := by rw [List.flatMap_cons, h.pieces_eq]
  spells g hg := by
    rcases List.mem_cons.mp hg with rfl | hg
    · exact spells
    · exact h.spells g hg
  apart before g k after heq hg hk := by
    cases before with
    | nil =>
        obtain ⟨rfl, rfl⟩ := List.cons.inj heq
        rcases apart hg with hhead | hsite
        · rw [h.head?_run, hhead]
        · exact absurd hk (by rw [hsite k rfl]; exact Bool.false_ne_true)
    | cons b before =>
        obtain ⟨-, htail⟩ := List.cons.inj heq
        exact h.apart before g k after htail hg hk

/-- The pieces that a run of literal text was collected from, the last one first. -/
def CollectedFrom (settings : Settings) (run : List Char) (pending : List (Piece Code)) : Prop :=
  pending = run.reverse.map .char ∨
    ∃ cs, run.reverse = settings.marker :: cs ∧ pending = .escapedMarker :: cs.map .char

theorem CollectedFrom.nil : CollectedFrom settings [] ([] : List (Piece Code)) := .inl rfl

theorem CollectedFrom.escapedMarker :
    CollectedFrom settings [settings.marker] [(.escapedMarker : Piece Code)] :=
  .inr ⟨[], rfl, rfl⟩

theorem CollectedFrom.char {run : List Char} {pending : List (Piece Code)}
    (h : CollectedFrom settings run pending) (c : Char) :
    CollectedFrom settings (c :: run) (pending ++ [.char c]) := by
  rcases h with rfl | ⟨cs, hrun, rfl⟩
  · exact .inl (by rw [List.reverse_cons, List.map_append]; rfl)
  · refine .inr ⟨cs ++ [c], ?_, ?_⟩
    · rw [List.reverse_cons, hrun, List.cons_append]
    · rw [List.map_append, List.cons_append]
      rfl

/-- Behind a run of literal text there is one more group, unless the run is empty. -/
theorem Grouped.flush {ps : List (Piece Code)} {parts : List (Part Code)} {groups : Groups Code}
    (h : Grouped settings ps parts groups) {run : List Char} {pending : List (Piece Code)}
    (collected : CollectedFrom settings run pending)
    (apart : ps.head? = some .escapedMarker ∨ ∀ g ∈ groups.head?, g.1.isLiteral = false) :
    ∃ groups', Grouped settings (pending ++ ps) (literalPart run ++ parts) groups' := by
  cases run with
  | nil =>
      rcases collected with rfl | ⟨cs, hrun, -⟩
      · exact ⟨groups, h⟩
      · cases hrun
  | cons c run =>
      have hspells : Spells settings (.literal (String.ofList (c :: run).reverse)) pending := by
        rcases collected with rfl | ⟨cs, hrun, rfl⟩
        · obtain ⟨d, ds, hds⟩ := List.exists_cons_of_ne_nil
            (List.reverse_ne_nil_iff.mpr (List.cons_ne_nil c run))
          rw [hds]
          exact .chars d ds
        · rw [hrun]
          exact .escapedMarker cs
      exact ⟨_, h.cons hspells fun _ => apart⟩

/-- Gathering groups the pieces.  `pending` are the pieces that the run was collected from. -/
theorem gather_grouped (ps : List (Piece Code)) {run : List Char} {pending : List (Piece Code)}
    (collected : CollectedFrom settings run pending) :
    ∃ groups, Grouped settings (pending ++ ps) (gather settings.marker run ps) groups := by
  induction ps generalizing run pending with
  | nil =>
      have hflush := Grouped.nil.flush collected (.inr fun g hg => nomatch hg)
      rwa [List.append_nil (literalPart run)] at hflush
  | cons p ps ih =>
      cases p with
      | char c =>
          have hchar := ih (collected.char c)
          rwa [← List.append_cons] at hchar
      | escapedMarker =>
          obtain ⟨groups, hgroups⟩ := ih CollectedFrom.escapedMarker
          exact hgroups.flush collected (.inl rfl)
      | site site span =>
          obtain ⟨groups, hgroups⟩ := ih CollectedFrom.nil
          have hsite := hgroups.cons (.site site span) nofun
          exact hsite.flush collected (.inr fun g hg => by obtain rfl := Option.some.inj hg; rfl)

/-! ## What the parts are made of -/

/-- The characters of pieces without the escapes of escaped markers. -/
def withoutEscapes (settings : Settings) (ps : List (Piece Code)) : List Char :=
  ((labelled settings ps).filter (·.2 != .escape)).map Prod.fst

theorem withoutEscapes_cons (p : Piece Code) (ps : List (Piece Code)) :
    withoutEscapes settings (p :: ps)
      = ((p.labelled settings).filter (·.2 != .escape)).map Prod.fst
        ++ withoutEscapes settings ps := by
  rw [withoutEscapes, labelled_cons, List.filter_append, List.map_append, ← withoutEscapes]

theorem withoutEscapes_append (ps qs : List (Piece Code)) :
    withoutEscapes settings (ps ++ qs)
      = withoutEscapes settings ps ++ withoutEscapes settings qs := by
  induction ps with
  | nil => rfl
  | cons p ps ih =>
      rw [List.cons_append, withoutEscapes_cons, withoutEscapes_cons, ih, List.append_assoc]

theorem withoutEscapes_chars (cs : List Char) :
    withoutEscapes settings (cs.map (.char : Char → Piece Code)) = cs := by
  induction cs with
  | nil => rfl
  | cons c cs ih =>
      rw [List.map_cons, withoutEscapes_cons, ih]
      rfl

/-- A part is written as its pieces without the escapes. -/
theorem Spells.written_eq {part : Part Code} {run : List (Piece Code)}
    (h : Spells settings part run) :
    written settings (part, run) = withoutEscapes settings run := by
  cases h with
  | chars c cs => rw [written, String.toList_ofList, withoutEscapes_chars]
  | escapedMarker cs =>
      rw [written, String.toList_ofList, withoutEscapes_cons, withoutEscapes_chars]
      rfl
  | site site span =>
      have hspan : (span.map fun c => (c, Role.span)).filter (·.2 != .escape)
          = span.map fun c => (c, .span) := by
        rw [List.filter_eq_self]
        intro l hl
        obtain ⟨c, -, rfl⟩ := List.mem_map.mp hl
        rfl
      rw [written, sourceText_cons, withoutEscapes_cons, Piece.labelled, List.filter_cons_of_pos,
        hspan]
      · rfl
      · rfl

/-- The parts are written as the text without the escapes of escaped markers. -/
theorem Grouped.written_eq {ps : List (Piece Code)} {parts : List (Part Code)}
    {groups : Groups Code} (h : Grouped settings ps parts groups) :
    groups.flatMap (written settings) = withoutEscapes settings ps := by
  have hall : ∀ gs : Groups Code, (∀ g ∈ gs, Spells settings g.1 g.2) →
      gs.flatMap (written settings) = withoutEscapes settings (gs.flatMap Prod.snd) := by
    intro gs hgs
    induction gs with
    | nil => rfl
    | cons g gs ih =>
        rw [List.flatMap_cons, List.flatMap_cons, withoutEscapes_append,
          ih fun k hk => hgs k (List.mem_cons_of_mem g hk),
          ← (hgs g List.mem_cons_self).written_eq]
  rw [hall groups h.spells, h.pieces_eq]

/-- No literal part is empty. -/
theorem Grouped.literal_ne_empty {ps : List (Piece Code)} {parts : List (Part Code)}
    {groups : Groups Code} (h : Grouped settings ps parts groups) {text : String}
    (mem : .literal text ∈ parts) : text ≠ "" := by
  rw [← h.parts_eq] at mem
  obtain ⟨⟨part, run⟩, hg, hpart⟩ := List.mem_map.mp mem
  have hspells : Spells settings part run := h.spells _ hg
  obtain rfl : part = .literal text := hpart
  intro hempty
  have htext : text.toList = [] := by rw [hempty]; rfl
  cases hspells with
  | chars c cs => exact nomatch String.toList_ofList.symm.trans htext
  | escapedMarker cs => exact nomatch String.toList_ofList.symm.trans htext

/-! ## Scanning -/

/-- Scanning that leaves markers inside SQL strings alone succeeds on a text if and only if the text
has a factorisation.  The factorisation is the only one, and the parts are its pieces in order:
they are written as the text without the escapes of its escaped markers, no literal part is empty,
and two literal parts meet only where the second one begins with an escaped marker. -/
theorem scan_is_lexing (lenient : settings.allowMarkersInStrings = true) (text : String) :
    ((∃ parts, scan settings compile text = .ok parts) ↔
        ∃ ps, Factors settings compile [] text.toList ps) ∧
      ∀ parts, scan settings compile text = .ok parts →
        ∃ ps groups, Factors settings compile [] text.toList ps ∧
          (∀ qs, Factors settings compile [] text.toList qs → qs = ps) ∧
          Grouped settings ps parts groups ∧
          groups.flatMap (written settings)
            = ((labelled settings ps).filter (·.2 != .escape)).map Prod.fst ∧
          ∀ fragment, .literal fragment ∈ parts → fragment ≠ "" := by
  refine ⟨⟨?_, ?_⟩, ?_⟩
  · rintro ⟨parts, hscan⟩
    obtain ⟨ps, hps, -⟩ := scan_eq_ok_iff.mp hscan
    exact ⟨ps, (factors_iff_cuts lenient).mpr hps⟩
  · rintro ⟨ps, hps⟩
    exact ⟨_, scan_eq_ok_iff.mpr ⟨ps, (factors_iff_cuts lenient).mp hps, rfl⟩⟩
  · intro parts hscan
    obtain ⟨ps, hps, rfl⟩ := scan_eq_ok_iff.mp hscan
    obtain ⟨groups, hgroups⟩ := gather_grouped ps CollectedFrom.nil
    rw [List.nil_append] at hgroups
    refine ⟨ps, groups, (factors_iff_cuts lenient).mpr hps, fun qs hqs => ?_, hgroups,
      hgroups.written_eq, fun fragment hmem => hgroups.literal_ne_empty hmem⟩
    exact cuts_unique ((factors_iff_cuts lenient).mp hqs) hps

/-- An escaped marker, a marker inside a string, and a site. -/
theorem scan_is_lexing_of_three_markers :
    ∃ ps groups, Factors {} Room.standard.compile [] "\\$ '$' $x".toList ps ∧
      (∀ qs, Factors {} Room.standard.compile [] "\\$ '$' $x".toList qs → qs = ps) ∧
      Grouped {} ps [.literal "$ '$' ", .site ⟨"x", false, .name "x"⟩] groups := by
  have hx : Site.read Room.standard.compile ['x'] = .ok (⟨"x", false, .name "x"⟩, []) := by cbv
  have hsite : Cuts {} Room.standard.compile false ['$', 'x']
      [.site ⟨"x", false, .name "x"⟩ ['x']] :=
    @Cuts.site _ _ _ _ ['x'] [] _ hx (.nil _)
  have hstring : Cuts {} Room.standard.compile false [' ', '\'', '$', '\'', ' ', '$', 'x']
      [.char ' ', .char '\'', .char '$', .char '\'', .char ' ',
        .site ⟨"x", false, .name "x"⟩ ['x']] := by
    refine .char (by decide) (by decide) (.char (by decide) (by decide) ?_)
    refine .char (by decide) (by decide) (.char (by decide) (by decide) ?_)
    exact .char (by decide) (by decide) hsite
  have hcuts : Cuts {} Room.standard.compile false "\\$ '$' $x".toList
      [.escapedMarker, .char ' ', .char '\'', .char '$', .char '\'', .char ' ',
        .site ⟨"x", false, .name "x"⟩ ['x']] := .escapedMarker hstring
  have hscan : scan {} Room.standard.compile "\\$ '$' $x"
      = .ok [.literal "$ '$' ", .site ⟨"x", false, .name "x"⟩] :=
    scan_eq_ok_iff.mpr ⟨_, hcuts, rfl⟩
  obtain ⟨ps, groups, hfactors, hunique, hgrouped, -⟩ :=
    (scan_is_lexing rfl "\\$ '$' $x").2 _ hscan
  exact ⟨ps, groups, hfactors, hunique, hgrouped⟩

end BoundSql.Template
