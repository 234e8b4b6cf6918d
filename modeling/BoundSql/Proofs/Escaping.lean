import BoundSql.Proofs.Filling
import BoundSql.Proofs.Lexing
import BoundSql.Proofs.Stepping
import BoundSql.Query.Compiler
set_option autoImplicit false

/-!
# Any text as a template

SQL text becomes a template that stands for itself if an escape is put in front of each marker that
would begin a site.  Where markers inside strings are left alone, this is a bijection between texts
and the templates that have no sites: escaping and then compiling gives the text back, and a
template without sites is the escaped form of what it compiles to.

Which markers have to be escaped depends on the quotes in front of them, so escaping carries the
count of the quotes along (`escapedBehind`), as the scanner does.  The converse needs to know of a
template without sites that no other escapes were dropped from it (`escapedBehind_withoutEscapes`),
which is an induction over its pieces.

A marker inside of a string is left as it is in both directions, and so is an escape there.  That is
why the statement is about lenient scanning; a strict scan refuses such texts.
-/

namespace BoundSql.Template

open BoundSql.Query (Compiler Element Sql)
open BoundSql.Value (Store Val)

variable {Code : Type} {settings : Settings} {compile : List Char → Verdict Code}

/-- Text with an escape in front of each marker that has an even number of single quotes in front of
it.  The text stands behind `front`. -/
def escapedBehind (settings : Settings) (front : List Char) : List Char → List Char
  | [] => []
  | c :: cs =>
      if c = settings.marker ∧ front.count '\'' % 2 = 0 then
        settings.escape :: c :: escapedBehind settings (front ++ [c]) cs
      else c :: escapedBehind settings (front ++ [c]) cs

/-- A text with an escape in front of each marker that has an even number of single quotes in front
of it. -/
def escaped (settings : Settings) (text : String) : String :=
  String.ofList (escapedBehind settings [] text.toList)

/-- No piece is a site. -/
def SiteFree (ps : List (Piece Code)) : Prop :=
  ∀ (site : Site Code) (span : List Char), .site site span ∉ ps

/-- Whether text ends inside an SQL string. -/
def endsInString (front : List Char) : Bool := decide (front.count '\'' % 2 = 1)

/-! ## Quotes in front of a character -/

theorem endsInString_eq_false_iff {front : List Char} :
    endsInString front = false ↔ front.count '\'' % 2 = 0 := by
  rw [endsInString, decide_eq_false_iff_not]
  omega

theorem endsInString_append_singleton (front : List Char) (c : Char) :
    endsInString (front ++ [c]) = quoteTurns (endsInString front) c := by
  unfold endsInString quoteTurns
  rw [List.count_append]
  by_cases hc : c = '\''
  · have hone : List.count '\'' [c] = 1 := by rw [hc]; rfl
    rw [if_pos hc, hone, ← decide_not, decide_eq_decide]
    omega
  · have hzero : List.count '\'' [c] = 0 :=
      List.count_eq_zero.mpr fun h => hc (List.mem_singleton.mp h).symm
    rw [if_neg hc, hzero, Nat.add_zero]

/-- A character that is no quote changes nothing. -/
theorem quoteTurns_of_ne {inString : Bool} {c : Char} (h : c ≠ '\'') :
    quoteTurns inString c = inString := if_neg h

/-! ## Pieces without sites -/

theorem siteFree_nil : SiteFree ([] : List (Piece Code)) := fun _ _ => List.not_mem_nil

theorem SiteFree.tail {p : Piece Code} {ps : List (Piece Code)} (h : SiteFree (p :: ps)) :
    SiteFree ps :=
  fun site span hmem => h site span (List.mem_cons_of_mem p hmem)

theorem SiteFree.cons {p : Piece Code} {ps : List (Piece Code)} (h : SiteFree ps)
    (plain : ∀ (site : Site Code) (span : List Char), .site site span ≠ p) :
    SiteFree (p :: ps) := by
  intro site span hmem
  rcases List.mem_cons.mp hmem with heq | htail
  · exact plain site span heq
  · exact h site span htail

theorem withoutEscapes_char_cons (c : Char) (ps : List (Piece Code)) :
    withoutEscapes settings (.char c :: ps) = c :: withoutEscapes settings ps := by
  rw [withoutEscapes_cons]
  rfl

theorem withoutEscapes_escapedMarker_cons (ps : List (Piece Code)) :
    withoutEscapes settings (.escapedMarker :: ps)
      = settings.marker :: withoutEscapes settings ps := by
  rw [withoutEscapes_cons]
  rfl

/-- The parts of a template have all of its sites. -/
theorem site_mem_gather {site : Site Code} {span : List Char} {ps : List (Piece Code)}
    (h : .site site span ∈ ps) (marker : Char) (run : List Char) :
    .site site ∈ gather marker run ps := by
  induction ps generalizing run with
  | nil => cases h
  | cons p ps ih =>
      cases p with
      | char c =>
          rcases List.mem_cons.mp h with heq | htail
          · cases heq
          · exact ih htail (c :: run)
      | escapedMarker =>
          rcases List.mem_cons.mp h with heq | htail
          · cases heq
          · exact List.mem_append_right _ (ih htail [marker])
      | site other span' =>
          refine List.mem_append_right _ ?_
          rcases List.mem_cons.mp h with heq | htail
          · obtain ⟨rfl, -⟩ := Piece.site.inj heq
            exact List.mem_cons_self
          · exact List.mem_cons_of_mem _ (ih htail [])

/-- A run of literal text is a row of literal parts, at most one. -/
theorem exists_fragments_literalPart (run : List Char) :
    ∃ fragments : List String, (literalPart run : List (Part Code)) = fragments.map .literal ∧
      String.join fragments = String.ofList run.reverse := by
  cases run with
  | nil => exact ⟨[], rfl, rfl⟩
  | cons c run =>
      refine ⟨[String.ofList (c :: run).reverse], rfl, ?_⟩
      rw [String.join_cons, String.join_nil, String.append_empty]

/-- Pieces without sites are gathered into literal parts with the text of the pieces, less the
escapes. -/
theorem gather_of_siteFree {ps : List (Piece Code)} (h : SiteFree ps) (run : List Char) :
    ∃ fragments : List String, gather settings.marker run ps = fragments.map .literal ∧
      String.join fragments = String.ofList (run.reverse ++ withoutEscapes settings ps) := by
  induction ps generalizing run with
  | nil =>
      obtain ⟨fragments, hparts, hjoin⟩ := exists_fragments_literalPart run
      have hnil : withoutEscapes settings ([] : List (Piece Code)) = [] := rfl
      rw [hnil, List.append_nil]
      exact ⟨fragments, hparts, hjoin⟩
  | cons p ps ih =>
      cases p with
      | char c =>
          obtain ⟨fragments, hparts, hjoin⟩ := ih h.tail (c :: run)
          refine ⟨fragments, hparts, ?_⟩
          rw [hjoin, List.reverse_cons, ← List.append_cons, withoutEscapes_char_cons]
      | escapedMarker =>
          obtain ⟨before, hbefore, hjoin⟩ := exists_fragments_literalPart run
          obtain ⟨after, hafter, hjoin'⟩ := ih h.tail [settings.marker]
          refine ⟨before ++ after, ?_, ?_⟩
          · rw [gather, hbefore, hafter, List.map_append]
          · rw [String.join_append, hjoin, hjoin', ← String.ofList_append,
              withoutEscapes_escapedMarker_cons, List.reverse_singleton, List.cons_append,
              List.nil_append]
      | site site span => exact absurd List.mem_cons_self (h site span)

/-- Pieces that are gathered into literal parts have no sites. -/
theorem siteFree_of_gather_eq {marker : Char} {run : List Char} {ps : List (Piece Code)}
    {fragments : List String} (h : gather marker run ps = fragments.map .literal) :
    SiteFree ps := by
  intro site span hmem
  have hsite := site_mem_gather hmem marker run
  rw [h] at hsite
  obtain ⟨fragment, -, heq⟩ := List.mem_map.mp hsite
  cases heq

/-! ## Escaping and cutting -/

/-- Outside of strings, escaped text does not begin with a marker. -/
theorem head?_escapedBehind {front : List Char} (even : front.count '\'' % 2 = 0)
    (cs : List Char) : (escapedBehind settings front cs).head? ≠ some settings.marker := by
  cases cs with
  | nil => exact nofun
  | cons c cs =>
      rw [escapedBehind]
      split
      · exact fun h => settings.marker_ne_escape (Option.some.inj h).symm
      · rename_i hplain
        exact fun h => hplain ⟨Option.some.inj h, even⟩

/-- Escaped text falls into pieces without sites, which spell the text. -/
theorem cuts_escapedBehind (lenient : settings.allowMarkersInStrings = true)
    (front cs : List Char) :
    ∃ ps : List (Piece Code),
      Cuts settings compile (endsInString front) (escapedBehind settings front cs) ps ∧
        SiteFree ps ∧ withoutEscapes settings ps = cs := by
  induction cs generalizing front with
  | nil => exact ⟨[], .nil _, siteFree_nil, rfl⟩
  | cons c cs ih =>
      obtain ⟨ps, hcuts, hfree, hspell⟩ := ih (front ++ [c])
      rw [endsInString_append_singleton] at hcuts
      rw [escapedBehind]
      split
      · rename_i hmarker
        obtain ⟨rfl, heven⟩ := hmarker
        rw [quoteTurns_of_ne settings.marker_ne_quote, endsInString_eq_false_iff.mpr heven] at hcuts
        refine ⟨.escapedMarker :: ps, ?_, hfree.cons nofun, ?_⟩
        · rw [endsInString_eq_false_iff.mpr heven]
          exact .escapedMarker hcuts
        · rw [withoutEscapes_escapedMarker_cons, hspell]
      · rename_i hplain
        refine ⟨.char c :: ps, .char ?_ ?_ hcuts, hfree.cons nofun, ?_⟩
        · intro hc
          refine ⟨?_, lenient⟩
          rw [← Bool.not_eq_false, endsInString_eq_false_iff]
          exact fun heven => hplain ⟨hc, heven⟩
        · -- Behind an escape outside of strings, a marker gets an escape of its own.
          intro hc hout
          have hquote : c ≠ '\'' := hc ▸ settings.escape_ne_quote
          refine head?_escapedBehind ?_ cs
          rw [← endsInString_eq_false_iff, endsInString_append_singleton, quoteTurns_of_ne hquote]
          exact hout
        · rw [withoutEscapes_char_cons, hspell]

/-- A text that falls into pieces without sites is what the pieces spell with its markers
escaped. -/
theorem escapedBehind_withoutEscapes {inString : Bool} {cs : List Char} {ps : List (Piece Code)}
    (h : Cuts settings compile inString cs ps) (hfree : SiteFree ps) {front : List Char}
    (hfront : inString = endsInString front) :
    escapedBehind settings front (withoutEscapes settings ps) = cs := by
  induction h generalizing front with
  | nil => rfl
  | @char inString c rest ps quoted single tail ih =>
      have hplain : ¬ (c = settings.marker ∧ front.count '\'' % 2 = 0) := by
        rintro ⟨hc, heven⟩
        have hout := hfront.trans (endsInString_eq_false_iff.mpr heven)
        exact Bool.false_ne_true (hout.symm.trans (quoted hc).1)
      rw [withoutEscapes_char_cons, escapedBehind, if_neg hplain]
      refine congrArg (c :: ·) (ih hfree.tail ?_)
      rw [endsInString_append_singleton, hfront]
      rfl
  | @escapedMarker rest ps tail ih =>
      have heven := endsInString_eq_false_iff.mp hfront.symm
      rw [withoutEscapes_escapedMarker_cons, escapedBehind, if_pos ⟨rfl, heven⟩]
      refine congrArg (settings.escape :: settings.marker :: ·) (ih hfree.tail ?_)
      rw [endsInString_append_singleton, quoteTurns_of_ne settings.marker_ne_quote]
      exact hfront
  | @site site span rest ps reads tail ih => exact absurd List.mem_cons_self (hfree site span)

/-! ## Templates that are literal text -/

/-- Parts that are literal text need no evaluation. -/
theorem fills_literals {ε σ V : Type} (ev : Evaluator (EStateM ε σ) Code V)
    (fragments : List String) (s : σ) :
    Fills ev (fragments.map .literal) s (fragments.map .literal) s := by
  induction fragments with
  | nil => exact .nil s
  | cons fragment fragments ih => exact .literal ih

/-- Literal text is written out as it is and has no parameters. -/
theorem compile_literals {V : Type} (p : Query.Placeholder) (fragments : List String) :
    Compiler.compile ⟨p, none⟩ (Sql.ofElements (fragments.map (.literal : String → Element V)))
      = ⟨String.join fragments, []⟩ := by
  have hargs : Query.flattenAll (fragments.map (.literal : String → Element V))
      = fragments.map .literal := by
    induction fragments with
    | nil => rfl
    | cons fragment fragments ih =>
        rw [List.map_cons, Query.flattenAll, ih]
        rfl
  have htexts : ∀ (next : Nat) (ss : List String),
      Compiler.texts ⟨p, none⟩ next (ss.map (.literal : String → Query.Node V)) = ss := by
    intro next ss
    induction ss with
    | nil => rfl
    | cons s ss ih =>
        rw [List.map_cons, Compiler.texts, ih]
        rfl
  have hparams : (fragments.map (.literal : String → Query.Node V)).filterMap Query.Node.value?
      = [] := by
    rw [List.filterMap_map]
    exact List.filterMap_eq_nil_iff.mpr fun _ _ => rfl
  rw [Compiler.compile, Sql.ofElements, Sql.params, hargs, htexts, hparams]

/-! ## Escaping and scanning -/

/-- An escaped text is scanned into literal parts that put together are the text again. -/
theorem scan_escaped (lenient : settings.allowMarkersInStrings = true)
    (compile : List Char → Verdict Code) (text : String) :
    ∃ fragments : List String,
      scan settings compile (escaped settings text) = .ok (fragments.map .literal) ∧
        String.join fragments = text := by
  obtain ⟨ps, hcuts, hfree, hspell⟩ :=
    cuts_escapedBehind lenient [] text.toList
  obtain ⟨fragments, hparts, hjoin⟩ := gather_of_siteFree hfree []
  refine ⟨fragments, scan_eq_ok_iff.mpr ⟨ps, ?_, hparts.symm⟩, ?_⟩
  · rw [escaped, String.toList_ofList]
    exact hcuts
  · rw [hjoin, hspell, List.reverse_nil, List.nil_append, String.ofList_toList]

/-- A text that is scanned into literal parts is those parts put together and escaped. -/
theorem escaped_join_of_scan {text : String} {fragments : List String}
    (h : scan settings compile text = .ok (fragments.map .literal)) :
    escaped settings (String.join fragments) = text := by
  obtain ⟨ps, hcuts, hparts⟩ := scan_eq_ok_iff.mp h
  have hfree := siteFree_of_gather_eq hparts.symm
  obtain ⟨fragments', hparts', hjoin⟩ := gather_of_siteFree hfree []
  have hinj : Function.Injective (Part.literal : String → Part Code) := fun _ _ => Part.literal.inj
  obtain rfl : fragments = fragments' :=
    List.map_injective_iff.mpr hinj (hparts.trans hparts')
  rw [escaped, hjoin, List.reverse_nil, List.nil_append, String.toList_ofList,
    escapedBehind_withoutEscapes hcuts hfree rfl, String.ofList_toList]

/-- A template that has no sites is bound without evaluating anything. -/
theorem exists_templateOf_of_literals {room : Room} {text : String} {fragments : List String}
    (h : scan settings room.compile text = .ok (fragments.map .literal)) :
    ∃ t : ExprTemplate, (∀ s : Store, templateOf room settings text s = .ok t s) ∧
      ∀ (layers : List Names) (s : Store),
        bindTemplate t layers s
          = .ok (Sql.ofElements (fragments.map .literal)) (bindingStore layers s) := by
  refine ⟨⟨text, fragments.map .literal⟩, fun s => ?_, fun layers s => ?_⟩
  · exact templateOf_eq_ok_iff.mpr ⟨h, rfl, rfl⟩
  · refine bindTemplate_eq_ok_iff.mpr ⟨_, fills_literals _ fragments (bindingStore layers s), ?_⟩
    rw [List.map_map]
    rfl

/-- Escaping is a two-way encoding of texts, where markers inside strings are left alone.  Each
text, escaped, is scanned into literal parts that put together are the text again, and is a template
that is bound without evaluating anything to a query of just that text.  Each text that is scanned
into literal parts is those parts put together and escaped. -/
theorem escaped_two_way (lenient : settings.allowMarkersInStrings = true) :
    (∀ text : String, ∃ fragments : List String,
        scan settings compile (escaped settings text) = .ok (fragments.map .literal) ∧
          String.join fragments = text) ∧
      (∀ (room : Room) (text : String), ∃ t : ExprTemplate,
        (∀ s : Store, templateOf room settings (escaped settings text) s = .ok t s) ∧
          ∀ (layers : List Names) (s : Store), ∃ q : Sql Val,
            bindTemplate t layers s = .ok q (bindingStore layers s) ∧
              ∀ p, Compiler.compile ⟨p, none⟩ q = ⟨text, []⟩) ∧
      ∀ (text : String) (fragments : List String),
        scan settings compile text = .ok (fragments.map .literal) →
          escaped settings (String.join fragments) = text := by
  refine ⟨scan_escaped lenient compile, fun room text => ?_,
    fun text fragments => escaped_join_of_scan⟩
  obtain ⟨fragments, hscan, rfl⟩ := scan_escaped lenient room.compile text
  obtain ⟨t, htemplate, hbind⟩ := exists_templateOf_of_literals hscan
  exact ⟨t, htemplate, fun layers s => ⟨_, hbind layers s, fun p => compile_literals p fragments⟩⟩

/-- A marker behind an escape, one inside a string, and one behind a string. -/
theorem escaped_two_way_of_three_markers :
    escaped {} "\\$ '$' $" = "\\\\$ '$' \\$" ∧
      (∃ fragments : List String,
        scan {} Room.standard.compile "\\\\$ '$' \\$" = .ok (fragments.map .literal) ∧
          String.join fragments = "\\$ '$' $" ∧
            escaped {} (String.join fragments) = "\\\\$ '$' \\$") ∧
      ∃ (t : ExprTemplate) (q : Sql Val), templateOf .standard {} "\\\\$ '$' \\$" {} = .ok t {} ∧
        bindTemplate t [] {} = .ok q (bindingStore [] {}) ∧
          Compiler.compile {} q = ⟨"\\$ '$' $", []⟩ := by
  have hescaped : escaped {} "\\$ '$' $" = "\\\\$ '$' \\$" := by decide
  obtain ⟨hscan, hcompile, hback⟩ := @escaped_two_way Expr.Tree {} Room.standard.compile rfl
  obtain ⟨fragments, hparts, hjoin⟩ := hscan "\\$ '$' $"
  obtain ⟨t, htemplate, hbind⟩ := hcompile .standard "\\$ '$' $"
  obtain ⟨q, hq, hwritten⟩ := hbind [] {}
  rw [hescaped] at hparts htemplate
  exact ⟨hescaped, ⟨fragments, hparts, hjoin, hback _ _ hparts⟩, t, q, htemplate {}, hq,
    hwritten _⟩

end BoundSql.Template
