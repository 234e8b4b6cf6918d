import BoundSql.Proofs.Stepping
set_option autoImplicit false

/-!
# Strict and lenient scanning

A lenient scan takes a marker inside an SQL string as text, where a strict one refuses it.  Up to
the first such marker both scans do the same, so that a strict scan either comes to the outcome of
the lenient one or stops at the first marker that the lenient one passes over.

A piece that a strict scan cuts off is cut off by a lenient one too (`CutsOff.lenient`), and a
lenient scan that has passed over no marker so far stands where a strict one does
(`Reaches.reaches_quoted`).  `PassesOver` is the place of such a marker.  There may be several, and
the strict scan stops at the least one; there may be none, and then the two fail at the same place
for the same reason or succeed with the same parts (`scan_strict_cases`).

The two settings are the only difference: which characters mark a site and escape it is the same for
both.
-/

namespace BoundSql.Template

variable {Code : Type}

namespace Settings

/-- The settings with markers inside strings left as text. -/
def lenient (settings : Settings) : Settings := { settings with allowMarkersInStrings := true }

/-- The settings with markers inside strings refused. -/
def strict (settings : Settings) : Settings := { settings with allowMarkersInStrings := false }

end Settings

variable {settings : Settings} {compile : List Char → Verdict Code}

/-- The lenient scan of a text comes to a marker inside a string, which it takes as text, at an
offset. -/
def PassesOver (settings : Settings) (compile : List Char → Verdict Code) (text : String)
    (offset : Nat) : Prop :=
  ∃ (ps : List (Piece Code)) (rest : List Char),
    Reaches settings.lenient compile ⟨false, text.toList⟩ ps ⟨true, settings.marker :: rest⟩ ∧
      offset + (settings.marker :: rest).length = text.toList.length

/-! ## Steps -/

/-- What a strict scan cuts off, a lenient one does. -/
theorem CutsOff.lenient {a b : Remainder} {p : Piece Code}
    (h : CutsOff settings.strict compile a p b) : CutsOff settings.lenient compile a p b := by
  cases h with
  | char quoted single => exact .char (fun hc => ⟨(quoted hc).1, rfl⟩) single
  | escapedMarker => exact .escapedMarker
  | site reads => exact .site reads

theorem Reaches.lenient {a b : Remainder} {ps : List (Piece Code)}
    (h : Reaches settings.strict compile a ps b) : Reaches settings.lenient compile a ps b := by
  induction h with
  | refl a => exact .refl a
  | cons first others ih => exact .cons first.lenient ih

/-- Where no site is read behind a marker, both stop. -/
theorem Refused.lenient {a : Remainder} {why : Unread}
    (h : Refused settings.strict compile a (.unread why)) :
    Refused settings.lenient compile a (.unread why) := by
  cases h with
  | unread fails => exact .unread fails

/-- Nothing is cut off where a marker is refused. -/
theorem Refused.not_cutsOff {a b : Remainder} {cause : ScanCause} {p : Piece Code}
    (h : Refused settings compile a cause) : ¬ CutsOff settings compile a p b := by
  intro hcut
  have heq := hcut.pieces_eq
  rw [h.pieces_eq] at heq
  cases hrest : pieces settings compile b.inString b.text with
  | ok ps =>
      rw [hrest] at heq
      cases heq
  | error e =>
      -- The text that an error carries along is part of the text that is left.
      rw [hrest] at heq
      have hsuffix := (suffix_of_pieces_eq_error hrest).length_le
      obtain rfl : ScanError.mk cause a.text = e := Except.error.inj heq
      exact absurd hcut.length_lt (Nat.not_lt.mpr hsuffix)

/-- A strict scan comes past no marker inside a string: what a lenient scan takes as text lies
behind what the strict one has cut off. -/
theorem Reaches.reaches_quoted {a b : Remainder} {ps qs : List (Piece Code)} {rest : List Char}
    (h : Reaches settings.strict compile a ps b)
    (hquoted : Reaches settings.lenient compile a qs ⟨true, settings.marker :: rest⟩) :
    ∃ rs, Reaches settings.lenient compile b rs ⟨true, settings.marker :: rest⟩ := by
  induction h generalizing qs with
  | refl a => exact ⟨qs, hquoted⟩
  | @cons a b' b p ps first others ih =>
      cases hquoted with
      | refl =>
          have hrefused : Refused settings.strict compile ⟨true, settings.marker :: rest⟩
              .quotedMarker := .quotedMarker rfl
          exact absurd first hrefused.not_cutsOff
      | cons first' others' =>
          obtain ⟨-, rfl⟩ := first.lenient.unique first'
          exact ih others'

/-- What a lenient scan takes as text lies behind what a strict one has cut off, and is left at the
same offset. -/
theorem PassesOver.reaches {text : String} {n : Nat} (h : PassesOver settings compile text n)
    {ps : List (Piece Code)} {b : Remainder}
    (hreaches : Reaches settings.strict compile ⟨false, text.toList⟩ ps b) :
    ∃ (qs : List (Piece Code)) (rest : List Char),
      Reaches settings.lenient compile b qs ⟨true, settings.marker :: rest⟩ ∧
        n + (settings.marker :: rest).length = text.toList.length := by
  obtain ⟨qs, rest, hquoted, hoffset⟩ := h
  obtain ⟨rs, hrs⟩ := hreaches.reaches_quoted hquoted
  exact ⟨rs, rest, hrs, hoffset⟩

/-! ## Outcomes -/

/-- Only a marker inside a string is a violation of quoting. -/
theorem Unread.kind_failure_ne (why : Unread) (text : String) (position : Int) :
    (why.failure text position).kind ≠ "QuotingViolationError" := by
  cases why with
  | malformed reason =>
      have hkinds : "MalformedExpressionError" ≠ "QuotingViolationError" := by decide
      exact hkinds
  | exhausted e =>
      have hkinds : e.kind ≠ "QuotingViolationError" := by cases e <;> decide
      exact hkinds

theorem scan_strict_eq_of_pieces_eq {text : String}
    (h : pieces settings.strict compile false text.toList
      = pieces settings.lenient compile false text.toList) :
    scan settings.strict compile text = scan settings.lenient compile text := by
  unfold scan scanChars
  rw [h]
  rfl

/-- A strict scan that comes to the end of the text has the outcome of the lenient one. -/
theorem scan_strict_of_reaches_end {text : String} {ps : List (Piece Code)} {b : Remainder}
    (h : Reaches settings.strict compile ⟨false, text.toList⟩ ps b) (ending : b.text = []) :
    scan settings.strict compile text = scan settings.lenient compile text ∧
      (∃ parts, scan settings.strict compile text = .ok parts) ∧
        ∀ n, ¬ PassesOver settings compile text n := by
  have hstrict := h.pieces_eq
  have hlenient := h.lenient.pieces_eq
  rw [ending, pieces_nil] at hstrict hlenient
  refine ⟨scan_strict_eq_of_pieces_eq (hstrict.trans hlenient.symm), ?_, fun n hover => ?_⟩
  · unfold scan scanChars
    rw [hstrict]
    exact ⟨_, rfl⟩
  · obtain ⟨qs, rest, hquoted, -⟩ := hover.reaches h
    have hsuffix := hquoted.suffix
    rw [ending] at hsuffix
    exact List.cons_ne_nil _ _ (List.suffix_nil.mp hsuffix)

/-- A strict scan that comes to a marker behind which no site is read has the outcome of the lenient
one. -/
theorem scan_strict_of_unread {text : String} {ps : List (Piece Code)} {b : Remainder}
    {why : Unread} (h : Reaches settings.strict compile ⟨false, text.toList⟩ ps b)
    (refused : Refused settings.strict compile b (.unread why)) :
    scan settings.strict compile text = scan settings.lenient compile text ∧
      (∃ position, scan settings.strict compile text = .error (why.failure text position)) ∧
        ∀ n, ¬ PassesOver settings compile text n := by
  have hstrict := h.pieces_eq
  have hlenient := h.lenient.pieces_eq
  rw [refused.pieces_eq] at hstrict
  rw [refused.lenient.pieces_eq] at hlenient
  refine ⟨scan_strict_eq_of_pieces_eq (hstrict.trans hlenient.symm), ?_, fun n hover => ?_⟩
  · exact ⟨_, scan_eq_error_iff.mpr ⟨_, hstrict, rfl⟩⟩
  · obtain ⟨qs, rest, hquoted, -⟩ := hover.reaches h
    cases hquoted with
    | refl => cases refused
    | cons first others => exact refused.lenient.not_cutsOff first

/-- A strict scan that comes to a marker inside a string stops at the first marker that the lenient
one passes over. -/
theorem scan_strict_of_quotedMarker {text : String} {ps : List (Piece Code)} {rest : List Char}
    (h : Reaches settings.strict compile ⟨false, text.toList⟩ ps
      ⟨true, settings.marker :: rest⟩) :
    ∃ n : Nat, scan settings.strict compile text = .error (.refused (.quotedMarker text n)) ∧
      IsLeast {n | PassesOver settings compile text n} n := by
  have hlength : (settings.marker :: rest).length ≤ text.toList.length := h.suffix.length_le
  obtain ⟨n, hn⟩ := Nat.exists_eq_add_of_le' hlength
  have hrefused : Refused settings.strict compile ⟨true, settings.marker :: rest⟩ .quotedMarker :=
    .quotedMarker rfl
  have hstrict := h.pieces_eq
  rw [hrefused.pieces_eq] at hstrict
  refine ⟨n, scan_eq_error_iff.mpr ⟨_, hstrict, ?_⟩, ⟨ps, rest, h.lenient, hn.symm⟩, ?_⟩
  · have hposition : (n : Int) = text.toList.length - (settings.marker :: rest).length := by omega
    rw [hposition]
    rfl
  · intro m hover
    obtain ⟨qs, rest', hquoted, hm⟩ := hover.reaches h
    have hle : (settings.marker :: rest').length ≤ (settings.marker :: rest).length :=
      hquoted.suffix.length_le
    omega

/-- A strict scan has the outcome of the lenient one, which passes over no marker then, or stops at
the first marker that the lenient one passes over. -/
theorem scan_strict_cases (settings : Settings) (compile : List Char → Verdict Code)
    (text : String) :
    (scan settings.strict compile text = scan settings.lenient compile text ∧
        (∀ f, scan settings.strict compile text = .error f → f.kind ≠ "QuotingViolationError") ∧
        ∀ n, ¬ PassesOver settings compile text n) ∨
      ∃ n : Nat, scan settings.strict compile text = .error (.refused (.quotedMarker text n)) ∧
        IsLeast {n | PassesOver settings compile text n} n := by
  obtain ⟨ps, b, hreaches, hend⟩ :=
    exists_reaches_end_or_refused settings.strict compile ⟨false, text.toList⟩
  rcases hend with htext | ⟨cause, hrefused⟩
  · left
    obtain ⟨heq, ⟨parts, hok⟩, hover⟩ := scan_strict_of_reaches_end hreaches htext
    refine ⟨heq, fun f hf => ?_, hover⟩
    rw [hok] at hf
    cases hf
  · cases cause with
    | quotedMarker =>
        right
        cases hrefused
        exact scan_strict_of_quotedMarker hreaches
    | unread why =>
        left
        obtain ⟨heq, ⟨position, herror⟩, hover⟩ := scan_strict_of_unread hreaches hrefused
        refine ⟨heq, fun f hf => ?_, hover⟩
        rw [herror] at hf
        obtain rfl := Except.error.inj hf
        exact why.kind_failure_ne text position

/-- Strict scanning refines lenient scanning.  A strict scan refuses the marker at an offset for
standing inside a string if and only if it is the first marker that the lenient scan passes over;
otherwise both scans have the same outcome, be it the parts, the refusal with its details, or that
something ran out over an expression.  So a text that a strict scan accepts has the same parts in a
lenient one. -/
theorem strict_refines_lenient (settings : Settings) (compile : List Char → Verdict Code)
    (text : String) :
    (∀ position : Int,
        (∃ e, scan settings.strict compile text = .error (.refused e) ∧
            e.kind = "QuotingViolationError" ∧ e.details.position = some position) ↔
          ∃ n : Nat, position = n ∧ IsLeast {n | PassesOver settings compile text n} n) ∧
      ((∀ f, scan settings.strict compile text = .error f → f.kind ≠ "QuotingViolationError") →
        scan settings.strict compile text = scan settings.lenient compile text) ∧
      ∀ parts, scan settings.strict compile text = .ok parts →
        scan settings.lenient compile text = .ok parts := by
  rcases scan_strict_cases settings compile text with ⟨heq, hkind, hover⟩ | ⟨n, herror, hleast⟩
  · refine ⟨fun position => iff_of_false ?_ ?_, fun _ => heq, fun parts hparts => heq ▸ hparts⟩
    · rintro ⟨e, he, hquoting, -⟩
      exact hkind _ he hquoting
    · rintro ⟨n, -, hmem, -⟩
      exact hover n hmem
  · refine ⟨fun position => ⟨?_, ?_⟩, fun hkind => absurd rfl (hkind _ herror),
      fun parts hparts => ?_⟩
    · rintro ⟨e, he, -, hposition⟩
      rw [herror] at he
      obtain rfl := ScanFailure.refused.inj (Except.error.inj he)
      exact ⟨n, (Option.some.inj hposition).symm, hleast⟩
    · rintro ⟨m, rfl, hm⟩
      obtain rfl := hm.unique hleast
      exact ⟨_, herror, rfl, rfl⟩
    · rw [herror] at hparts
      cases hparts

end BoundSql.Template
