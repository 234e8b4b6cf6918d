import BoundSql.Proofs.Locality
import BoundSql.Proofs.Stepping
import BoundSql.Template.Room
set_option autoImplicit false

/-!
# Rooms compared

What a scan comes to depends on the room for expressions, since something may run out over one of
them.  It does not depend on the room in any other way, and this module is what makes that precise:
for a site, for the pieces of a text, for a scan and for the reader of a single site, a room either
leaves the outcome as it is in a roomier one, or it puts running out in its place (`Site.read_room`,
`pieces_room`, `scan_room`, `siteAt_room`).

The roomiest of all is the ample room, where nothing ever runs out (`Room.within_ample`).  So
whatever is shown of the ample room, which is a statement about the language alone, holds of every
room as far as it speaks of texts that are taken or refused.  And fewer calls leave more room
(`Room.behind_within`): a template that can be made somewhere in a program comes to the same
wherever fewer calls stand in front of it (`scan_behind_fewer_calls`).
-/

namespace BoundSql.Template

open BoundSql.Expr (Tree)

/-! ## Sites -/

section Sites

variable {room roomier : Room} {shown source : List Char} {splat : Bool}

/-- A site is made of every source that is an expression, as far as there is room for it. -/
theorem Site.make_room_eq_ok_iff {site : Site Tree} (hshown : shown ≠ []) :
    Site.make room.compile shown source splat = .ok site ↔
      room.exhausts source = none ∧
        ∃ t, Expr.compile source = some t ∧ site = ⟨String.ofList shown, splat, t⟩ := by
  simp only [Site.make_eq_ok_iff hshown, Room.compile_eq_code_iff, and_assoc, exists_and_left]

/-- No site is made of a source over which something runs out. -/
theorem Site.make_of_exhausts {e : Exhaustion} (hshown : shown ≠ [])
    (h : room.exhausts source = some e) :
    Site.make room.compile shown source splat = .error (.exhausted e) := by
  rw [Site.make, List.isEmpty_eq_false_iff.mpr hshown, Room.compile, h]
  rfl

theorem Site.make_room (within : room.Within roomier) (shown source : List Char) (splat : Bool) :
    Site.make room.compile shown source splat = Site.make roomier.compile shown source splat ∨
      ∃ e, Site.make room.compile shown source splat = .error (.exhausted e) := by
  by_cases hshown : shown = []
  · subst hshown
    exact .inl rfl
  · cases hroom : room.exhausts source with
    | none =>
        left
        unfold Site.make
        rw [within.compile_eq hroom]
    | some e => exact .inr ⟨e, Site.make_of_exhausts hshown hroom⟩

theorem Site.ofInner_room (within : room.Within roomier) (inner : List Char) :
    Site.ofInner room.compile inner = Site.ofInner roomier.compile inner ∨
      ∃ e, Site.ofInner room.compile inner = .error (.exhausted e) := by
  unfold Site.ofInner
  dsimp only
  split_ifs <;> exact Site.make_room within _ _ _

/-- A site is read as it is in a roomier room, unless something runs out over its expression. -/
theorem Site.read_room (within : room.Within roomier) (cs : List Char) :
    Site.read room.compile cs = Site.read roomier.compile cs ∨
      ∃ e, Site.read room.compile cs = .error (.exhausted e) := by
  unfold Site.read
  cases cs with
  | nil => exact .inl rfl
  | cons c rest =>
      dsimp only
      split_ifs
      · cases afterBracket '(' rest with
        | error reason => exact .inl rfl
        | ok after =>
            dsimp only
            obtain hsame | ⟨e, hout⟩ := Site.ofInner_room within (spanBefore rest (')' :: after))
            · rw [hsame]
              exact .inl rfl
            · rw [hout]
              exact .inr ⟨e, rfl⟩
      · cases afterAccesses (afterName rest) with
        | error reason => exact .inl rfl
        | ok after =>
            dsimp only
            obtain hsame | ⟨e, hout⟩ := Site.make_room within (spanBefore (c :: rest) after)
              (spanBefore (c :: rest) after) false
            · rw [hsame]
              exact .inl rfl
            · rw [hout]
              exact .inr ⟨e, rfl⟩
      · exact .inl rfl

theorem Site.exhausts_of_make {e : Exhaustion}
    (h : Site.make room.compile shown source splat = .error (.exhausted e)) :
    room.exhausts source = some e := by
  unfold Site.make at h
  split at h
  · cases h
  · split at h
    next => cases h
    next => cases h
    next e' hcompile =>
      obtain rfl := Unread.exhausted.inj (Except.error.inj h)
      exact Room.compile_eq_exhausted_iff.mp hcompile

/-- Reading a site runs out over some source or not at all. -/
theorem Site.exists_exhausts_of_read {cs : List Char} {e : Exhaustion}
    (h : Site.read room.compile cs = .error (.exhausted e)) :
    ∃ source, room.exhausts source = some e := by
  unfold Site.read at h
  split at h
  · cases h
  · split_ifs at h
    · split at h
      · cases h
      · split at h
        next hmake =>
          obtain rfl := Except.error.inj h
          rw [Site.ofInner] at hmake
          split_ifs at hmake <;> exact ⟨_, Site.exhausts_of_make hmake⟩
        next => cases h
    · split at h
      · cases h
      · split at h
        next hmake =>
          obtain rfl := Except.error.inj h
          exact ⟨_, Site.exhausts_of_make hmake⟩
        next => cases h
    · cases h

/-- Whatever a room lets through is read in a roomier one. -/
theorem Site.read_of_within {cs : List Char} {answer : Site Tree × List Char}
    (within : room.Within roomier) (h : Site.read room.compile cs = .ok answer) :
    Site.read roomier.compile cs = .ok answer := by
  obtain hsame | ⟨e, hout⟩ := Site.read_room within cs
  · rw [← hsame, h]
  · rw [h] at hout
    cases hout

end Sites

/-! ## Texts -/

section Texts

variable {settings : Settings} {room roomier : Room} {a b : Remainder} {ps : List (Piece Tree)}

theorem CutsOff.within {p : Piece Tree} (within : room.Within roomier)
    (h : CutsOff settings room.compile a p b) : CutsOff settings roomier.compile a p b := by
  cases h with
  | char quoted single => exact .char quoted single
  | escapedMarker => exact .escapedMarker
  | site reads => exact .site (Site.read_of_within within reads)

theorem Reaches.within (within : room.Within roomier) (h : Reaches settings room.compile a ps b) :
    Reaches settings roomier.compile a ps b := by
  induction h with
  | refl a => exact .refl a
  | cons first others ih => exact .cons (first.within within) ih

/-- Cutting comes to what it comes to in a roomier room, unless it stops where something runs out.
-/
theorem pieces_room (settings : Settings) (within : room.Within roomier) (inString : Bool)
    (cs : List Char) :
    pieces settings room.compile inString cs = pieces settings roomier.compile inString cs ∨
      ∃ e suffix, pieces settings room.compile inString cs
        = .error ⟨.unread (.exhausted e), suffix⟩ := by
  obtain ⟨ps, b, hreaches, hend⟩ :=
    exists_reaches_end_or_refused settings room.compile ⟨inString, cs⟩
  have hroom := hreaches.pieces_eq
  have hroomier := (hreaches.within within).pieces_eq
  dsimp only at hroom hroomier
  rw [hroom, hroomier]
  rcases hend with htext | ⟨cause, hrefused⟩
  · left
    rw [htext, pieces_nil, pieces_nil]
  · cases hrefused with
    | @quotedMarker rest strict =>
        have hrefused : Refused settings roomier.compile ⟨true, settings.marker :: rest⟩
            .quotedMarker := .quotedMarker strict
        left
        rw [(Refused.quotedMarker strict).pieces_eq, hrefused.pieces_eq]
    | @unread rest why fails =>
        obtain hsame | ⟨e, hout⟩ := Site.read_room within rest
        · have hrefused : Refused settings roomier.compile ⟨false, settings.marker :: rest⟩
              (.unread why) := .unread (hsame ▸ fails)
          left
          rw [(Refused.unread fails).pieces_eq, hrefused.pieces_eq]
        · right
          rw [(Refused.unread hout).pieces_eq]
          exact ⟨e, _, rfl⟩

/-- A scan comes to what it comes to in a roomier room, unless something runs out. -/
theorem scan_room (settings : Settings) (within : room.Within roomier) (text : String) :
    scan settings room.compile text = scan settings roomier.compile text ∨
      ∃ e, scan settings room.compile text = .error (.exhausted e) := by
  unfold scan scanChars
  obtain hsame | ⟨e, suffix, hout⟩ := pieces_room settings within false text.toList
  · rw [hsame]
    exact .inl rfl
  · rw [hout]
    exact .inr ⟨e, rfl⟩

/-- A template that is made somewhere comes to the same behind fewer calls, and so does its refusal;
only what runs out may not run out there. -/
theorem scan_behind_fewer_calls (settings : Settings) {calls more : Nat} (h : calls ≤ more)
    (text : String) :
    scan settings (Room.behind more).compile text = scan settings (Room.behind calls).compile text ∨
      ∃ e, scan settings (Room.behind more).compile text = .error (.exhausted e) :=
  scan_room settings (Room.behind_within h) text

/-- A single site is read as it is in a roomier room, unless something runs out. -/
theorem siteAt_room (within : room.Within roomier) (text : String) (start : Nat) :
    siteAt room.compile text start = siteAt roomier.compile text start ∨
      ∃ e, siteAt room.compile text start = .error (.exhausted e) := by
  unfold siteAt
  obtain hsame | ⟨e, hout⟩ := Site.read_room within (text.toList.drop start)
  · rw [hsame]
    exact .inl rfl
  · rw [hout]
    exact .inr ⟨e, rfl⟩

end Texts

end BoundSql.Template
