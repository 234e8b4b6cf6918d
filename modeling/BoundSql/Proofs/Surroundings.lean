import BoundSql.Proofs.Identifiers
set_option autoImplicit false

/-!
# Sites and the text around them

Reading a site looks at nothing but the text that the site takes up.  The text in front of the
offset may be made longer, which moves the end of the site and nothing else (`siteAt_append_left`).
The text behind the end may be replaced: by any text if the site stands in parentheses, and
otherwise by text in which the name with its accesses does not go on (`siteAt_replace`, `EndsPath`).

So a site can be read without the template that it stands in, as an editor does that asks for the
site under its cursor.  The outcome is that of the same site in the template, its source and its
code included; and where something runs out over the expression, it runs out in both places.
-/

namespace BoundSql.Template

open BoundSql.Expr (Tree)
open BoundSql.Value (Store)

/-- Text in which a name with accesses does not go on: it begins with no character of a name, with
no subscript, and with no dot that a name stands behind. -/
structure EndsPath (cs : List Char) : Prop where
  noName : cs.head?.any isNameChar = false
  noAccess : NoAccess cs

theorem EndsPath.endsAlike {other : List Char} (h : EndsPath other) (rest : List Char) :
    EndsAlike rest other where
  noAccess := h.noAccess
  noName goesOn := absurd (h.noName.symm.trans goesOn) Bool.false_ne_true

section Sites

variable {Code : Type} {compile : List Char → Verdict Code} {site : Site Code} {text : String}
  {start stop : Nat}

/-- A site that is read at an offset cuts the text in three: what stands in front of the offset,
what the site takes up, and what stands behind it. -/
theorem exists_span_of_siteAt (h : siteAt compile text start = .ok (site, stop)) :
    ∃ front span rest, text.toList = front ++ (span ++ rest) ∧ front.length = start ∧
      stop = start + span.length ∧ Site.read compile (span ++ rest) = .ok (site, rest) := by
  cases hread : Site.read compile (text.toList.drop start) with
  | error reason =>
      rw [siteAt, hread] at h
      cases h
  | ok found =>
      obtain ⟨site', rest⟩ := found
      obtain ⟨span, hspan⟩ := Site.read_suffix hread
      have hsite := siteAt_eq_ok hspan.symm (hspan.symm ▸ hread)
      obtain ⟨rfl, rfl⟩ := Prod.mk.inj (Except.ok.inj (h.symm.trans hsite))
      -- Nothing is read behind the end of a text, so the offset lies inside.
      have hinside := Site.read_length_lt hread
      rw [List.length_drop] at hinside
      refine ⟨text.toList.take start, span, rest, ?_, ?_, rfl, hspan.symm ▸ hread⟩
      · rw [hspan, List.take_append_drop]
      · exact List.length_take_of_le (by omega)

/-- The text behind a site can be replaced. -/
theorem siteAt_replace (h : siteAt compile text start = .ok (site, stop)) (other : String)
    (ends : text.toList[start]? ≠ some '(' → EndsPath other.toList) :
    siteAt compile (String.ofList (text.toList.take stop) ++ other) start = .ok (site, stop) := by
  obtain ⟨front, span, rest, htext, rfl, rfl, hread⟩ := exists_span_of_siteAt h
  have hfirst : text.toList[front.length]? = (span ++ rest).head? := by
    rw [htext, List.getElem?_append_right (Nat.le_refl _), Nat.sub_self, List.head?_eq_getElem?]
  have hspan : span ≠ [] := by
    rintro rfl
    exact absurd (Site.read_length_lt hread) (Nat.lt_irrefl _)
  rw [hfirst, List.head?_append_of_ne_nil span hspan] at ends
  have hother := Site.read_replace hread fun hparen => (ends hparen).endsAlike rest
  have htake : text.toList.take (front.length + span.length) = front ++ span := by
    rw [htext, ← List.append_assoc, ← List.length_append, List.take_left]
  have hdrop : (String.ofList (text.toList.take (front.length + span.length)) ++ other).toList.drop
      front.length = span ++ other.toList := by
    rw [htake, String.toList_append, String.toList_ofList, List.append_assoc, List.drop_left]
  exact siteAt_eq_ok hdrop hother

/-- Text in front moves a site. -/
theorem siteAt_append_left (h : siteAt compile text start = .ok (site, stop)) (front : String) :
    siteAt compile (front ++ text) (start + front.length) = .ok (site, stop + front.length) := by
  obtain ⟨before, span, rest, htext, rfl, rfl, hread⟩ := exists_span_of_siteAt h
  have hdrop : (front ++ text).toList.drop (before.length + front.length) = span ++ rest := by
    rw [String.toList_append, htext, ← List.append_assoc, Nat.add_comm, ← String.length_toList,
      ← List.length_append, List.drop_left]
  rw [siteAt_eq_ok hdrop hread]
  congr 2
  omega

end Sites

/-- A site is what it is wherever it stands.  If one is read at an offset of a text, the same one is
read there when the text behind its end is replaced, by any text behind a parenthesis and otherwise
by text in which the name with its accesses does not go on; and the same one is read further behind
when there is more text in front. -/
theorem site_independent_of_surroundings {room : Room} {text : String} {start stop : Nat}
    {site : Site Tree} {s s' : Store} (reads : readSite room text start s = .ok (site, stop) s') :
    (∀ (other : String) (u : Store),
      (text.toList[start]? = some '(' ∨ EndsPath other.toList) →
        readSite room (String.ofList (text.toList.take stop) ++ other) start u
          = .ok (site, stop) u) ∧
    ∀ (front : String) (u : Store),
      readSite room (front ++ text) (start + front.length) u
        = .ok (site, stop + front.length) u := by
  obtain ⟨hsite, -⟩ := readSite_eq_ok_iff.mp reads
  refine ⟨fun other u ends => ?_, fun front u => ?_⟩
  · have hreplaced := siteAt_replace hsite other fun hparen => ends.resolve_left hparen
    exact readSite_eq_ok_iff.mpr ⟨hreplaced, rfl⟩
  · exact readSite_eq_ok_iff.mpr ⟨siteAt_append_left hsite front, rfl⟩

set_option maxRecDepth 2000 in
/-- A subscript with an empty string inside, in front of a quote: a third quote in a row would open
a longer string, and a dot behind the site is followed by no name. -/
theorem site_independent_of_surroundings_of_subscript :
    let site : Site Tree := ⟨"x['']", false, .subscript (.name "x") (.const (.str []))⟩
    (∀ s, readSite .standard "$x['']'" 1 s = .ok (site, 6) s) ∧ EndsPath ". ''".toList ∧
      (∀ u, readSite .standard (String.ofList ("$x['']'".toList.take 6) ++ ". ''") 1 u
        = .ok (site, 6) u) ∧
        ∀ u, readSite .standard ("'a' = " ++ "$x['']'") (1 + "'a' = ".length) u
          = .ok (site, 6 + "'a' = ".length) u := by
  intro site
  have hcode : Room.standard.compile "x['']".toList
      = .code (.subscript (.name "x") (.const (.str []))) := by cbv
  have hbracket : afterBracket '[' "'']'".toList = .ok "'".toList := by cbv
  have hafter : afterAccesses (afterName ("['']".toList ++ "'".toList)) = .ok "'".toList :=
    (afterAccesses_subscript hbracket).trans (afterAccesses_of_noAccess ⟨by decide, by simp⟩)
  have hread : Site.read Room.standard.compile ("x['']".toList ++ "'".toList)
      = .ok (site, "'".toList) := by
    have hx : isNameStart 'x' = true := by decide +kernel
    refine (Site.read_named (by decide) hx hafter).trans ?_
    exact map_fst_eq_ok_iff.mpr ⟨(Site.make_eq_ok_iff (by decide)).mpr ⟨_, hcode, rfl⟩, rfl⟩
  have hdrop : "$x['']'".toList.drop 1 = "x['']".toList ++ "'".toList := by decide
  have hreads : ∀ s, readSite .standard "$x['']'" 1 s = .ok (site, 6) s := fun s =>
    readSite_eq_ok_iff.mpr ⟨siteAt_eq_ok hdrop hread, rfl⟩
  have hends : EndsPath ". ''".toList := by
    refine ⟨by decide +kernel, by decide, fun c rest heq => ?_⟩
    obtain rfl : ' ' = c := (List.cons.inj (List.cons.inj heq).2).1
    decide +kernel
  obtain ⟨hbehind, hfront⟩ := site_independent_of_surroundings (hreads {})
  exact ⟨hreads, hends, fun u => hbehind ". ''" u (.inr hends), hfront "'a' = "⟩

end BoundSql.Template
