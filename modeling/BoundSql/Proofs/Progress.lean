import BoundSql.Proofs.Rooms
import BoundSql.Proofs.Signs
import BoundSql.Proofs.Walks
import BoundSql.Template.Build
set_option autoImplicit false

/-!
# Scanning gets on

The cursor of a scan stays within the text and moves on in every round, and so does the search for a
site, whatever the text is.  No offset is ever looked at that the text does not have, and no loop
goes on forever.

A round is followed by what is still to come: the pieces of the text from the cursor on, gathered
behind the parts and the literal text in front of it (`Cursor.outcome`).  A round that leads on
leaves this as it was (`scanRound_leadsOn`), so that all cursors that a scan reaches have the same
outcome, and the loop ends with the outcome of the first one, which is that of the scan (`scan_eq`).
An escape is the one character that is no piece yet when the cursor has passed it, and
`Cursor.resumed` puts it back.

What a scan comes to is then one of three things: the text is read, it is refused, or something runs
out over one of its expressions.  The reader of a single site has the same three outcomes.  Which of
them it is depends on the room only in the last case, and a site that runs out everywhere is given
at the end.
-/

namespace BoundSql.Template

open BoundSql.Expr (Tree)
open BoundSql.Value (Store)

/-! ## Rounds of a scan -/

/-- The offset behind the last piece that is known.  An escape outside of a string is no piece until
the character behind it is known. -/
def Cursor.resumed {Code : Type} (s : Cursor Code) : Nat :=
  if s.behindEscape && !s.inString then s.offset - 1 else s.offset

/-- What holds in front of every round of a scan. -/
structure Cursor.InRange {Code : Type} (settings : Settings) (text : String) (s : Cursor Code) :
    Prop where
  literalEnd : s.literalEnd = s.offset
  literalStart : s.literalStart ≤ s.literalEnd
  offset : s.offset ≤ text.length
  /-- behind an escape, the escape is the last character that has been collected -/
  escape : s.behindEscape = true → ∃ i, s.offset = i + 1 ∧ s.literalStart ≤ i ∧
    text.toList.drop i = settings.escape :: text.toList.drop (i + 1)

section Scans

open Walk

variable {Code : Type} {settings : Settings} {compile : List Char → Verdict Code} {text : String}
  {parts : List (Part Code)} {start i : Nat} {inString : Bool} {c : Char} {cs : List Char}

theorem between_succ (h : text.toList.drop i = c :: cs) (hstart : start ≤ i) :
    between text start (i + 1) = between text start i ++ [c] := by
  have hc : (text.toList.drop start)[i - start]? = some c := by
    rw [List.getElem?_drop, Nat.add_sub_cancel' hstart, ← List.head?_drop, h, List.head?_cons]
  rw [between, between, Nat.sub_add_comm hstart, List.take_add_one, hc, Option.toList_some]

theorem between_self (i : Nat) : between text i i = [] := by
  rw [between, Nat.sub_self, List.take_zero]

/-- Literal text is flushed as the part that its characters are gathered into. -/
theorem flush_eq {stop : Nat} (hstop : stop ≤ text.length) :
    flush text parts start stop = parts ++ literalPart (between text start stop).reverse := by
  rw [flush]
  split_ifs with h
  · have hne : (between text start stop).reverse ≠ [] := by
      have hlength : text.toList.length = text.length := String.length_toList
      simp only [between, ne_eq, List.reverse_eq_nil_iff, List.take_eq_nil_iff,
        List.drop_eq_nil_iff]
      omega
    obtain ⟨d, ds, hds⟩ := List.exists_cons_of_ne_nil hne
    have hpart : (literalPart (d :: ds) : List (Part Code))
        = [.literal (String.ofList (d :: ds).reverse)] := rfl
    rw [hds, hpart, ← hds, List.reverse_reverse]
  · have hempty : between text start stop = [] := by
      rw [between, Nat.sub_eq_zero_of_le (Nat.not_lt.mp h), List.take_zero]
    rw [hempty]
    exact (List.append_nil parts).symm

theorem quoteTurns_escape (settings : Settings) (inString : Bool) :
    quoteTurns inString settings.escape = inString :=
  if_neg settings.escape_ne_quote

theorem marker_beq_escape (settings : Settings) : (settings.marker == settings.escape) = false :=
  beq_eq_false_iff_ne.mpr settings.marker_ne_escape

/-- What cutting the text that is left comes to. -/
def cutOutcome (settings : Settings) (compile : List Char → Verdict Code) (text : String)
    (a : Remainder) : Except Stop (List (Piece Code)) :=
  (pieces settings compile a.inString a.text).mapError fun e => .failed (e.failure text)

theorem cutOutcome_nil (inString : Bool) :
    cutOutcome settings compile text ⟨inString, []⟩ = .ok [] := by
  rw [cutOutcome, pieces_nil]
  rfl

/-- Cutting goes on behind a piece. -/
theorem CutsOff.cutOutcome_eq {a b : Remainder} {p : Piece Code}
    (h : CutsOff settings compile a p b) :
    cutOutcome settings compile text a = (cutOutcome settings compile text b).map (p :: ·) := by
  rw [cutOutcome, cutOutcome, h.pieces_eq]
  cases pieces settings compile b.inString b.text <;> rfl

/-- Cutting ends at a marker that is refused. -/
theorem Refused.cutOutcome_eq {a : Remainder} {cause : ScanCause}
    (h : Refused settings compile a cause) :
    cutOutcome settings compile text a
      = .error (.failed (ScanError.failure text ⟨cause, a.text⟩)) := by
  rw [cutOutcome, h.pieces_eq]
  rfl

/-- What a scan comes to from an offset on, behind parts and behind literal text that is no part
yet. -/
def scanOutcome (settings : Settings) (compile : List Char → Verdict Code) (text : String)
    (parts : List (Part Code)) (start i : Nat) (inString : Bool) :
    Except Stop (List (Part Code)) :=
  (cutOutcome settings compile text ⟨inString, text.toList.drop i⟩).map fun ps =>
    parts ++ gather settings.marker (between text start i).reverse ps

/-- What a scan comes to. -/
def Cursor.outcome (settings : Settings) (compile : List Char → Verdict Code) (text : String)
    (s : Cursor Code) : Except Stop (List (Part Code)) :=
  scanOutcome settings compile text s.parts s.literalStart s.resumed s.inString

/-- What a scan comes to where the character in front of the offset is no escape, or is one inside a
string. -/
theorem Cursor.outcome_of_known {s : Cursor Code} (h : (s.behindEscape && !s.inString) = false) :
    s.outcome settings compile text
      = scanOutcome settings compile text s.parts s.literalStart s.offset s.inString := by
  rw [Cursor.outcome, Cursor.resumed, h, if_neg Bool.false_ne_true]

/-- Literal text grows by a character that stands for itself. -/
theorem scanOutcome_char (h : text.toList.drop i = c :: cs) (hstart : start ≤ i)
    (quoted : c = settings.marker → inString = true ∧ settings.allowMarkersInStrings = true)
    (single : c = settings.escape → inString = false → cs.head? ≠ some settings.marker) :
    scanOutcome settings compile text parts start i inString
      = scanOutcome settings compile text parts start (i + 1) (quoteTurns inString c) := by
  have hcut : CutsOff settings compile ⟨inString, c :: cs⟩ (.char c)
      ⟨quoteTurns inString c, cs⟩ := .char quoted single
  rw [scanOutcome, scanOutcome, h, drop_succ_of_drop h, hcut.cutOutcome_eq,
    between_succ h hstart, List.reverse_append]
  cases cutOutcome settings compile text ⟨quoteTurns inString c, cs⟩ <;> rfl

/-- An escape that no marker follows outside of a string is literal text. -/
theorem Cursor.InRange.outcome_eq {s : Cursor Code} (hs : s.InRange settings text)
    (h : (text.toList.drop s.offset).head? = some settings.marker →
      s.behindEscape = true → s.inString = true) :
    s.outcome settings compile text
      = scanOutcome settings compile text s.parts s.literalStart s.offset s.inString := by
  rw [Cursor.outcome, Cursor.resumed]
  split_ifs with hhalf
  · obtain ⟨hbehind, hout⟩ := Bool.and_eq_true_iff.mp hhalf
    obtain ⟨i, hi, hstart, hdrop⟩ := hs.escape hbehind
    rw [hi] at h ⊢
    rw [Nat.add_sub_cancel, scanOutcome_char hdrop hstart
      (fun hmarker => absurd hmarker.symm settings.marker_ne_escape) (fun _ _ hhead => ?_),
      quoteTurns_escape]
    simp [h hhead hbehind] at hout
  · rfl

/-- The rounds of a scan lead on, nearer to the end of the text. -/
abbrev LeadsOn (settings : Settings) (compile : List Char → Verdict Code) (text : String)
    (s : Cursor Code) : Walk (Round (Cursor Code) (List (Part Code))) → Prop :=
  Leads (Cursor.InRange settings text) (Cursor.outcome settings compile text)
    (fun s => text.length - s.offset) s

variable {s : Cursor Code}

/-- A refusal is placed at the marker. -/
theorem position_of_drop (h : text.toList.drop i = c :: cs) :
    (text.toList.length : Int) - (c :: cs).length = i := by
  have hlength := congrArg List.length h
  rw [List.length_drop] at hlength
  have hlt := lt_length_of_drop h
  rw [← String.length_toList] at hlt
  omega

/-- A round that takes a character as literal text. -/
theorem leadsOn_char (hs : s.InRange settings text) (h : text.toList.drop s.offset = c :: cs)
    (quoted : c = settings.marker → s.inString = true ∧ settings.allowMarkersInStrings = true) :
    LeadsOn settings compile text s (ends (.ok (.again
      { s with
        offset := s.offset + 1, literalEnd := s.offset + 1
        inString := quoteTurns s.inString c, behindEscape := c == settings.escape }))) := by
  have hlt := lt_length_of_drop h
  have hstart : s.literalStart ≤ s.offset := hs.literalEnd ▸ hs.literalStart
  have hout : s.outcome settings compile text
      = scanOutcome settings compile text s.parts s.literalStart s.offset s.inString := by
    refine hs.outcome_eq fun hhead _ => ?_
    rw [h] at hhead
    exact (quoted (Option.some.inj hhead)).1
  refine .again ?good (by dsimp only; omega) ?same
  case good =>
    refine ⟨rfl, Nat.le_succ_of_le hstart, hlt, fun hescape => ⟨s.offset, rfl, hstart, ?_⟩⟩
    rw [h, drop_succ_of_drop h, eq_of_beq hescape]
  case same =>
    rw [hout]
    by_cases hhalf : c = settings.escape ∧ s.inString = false
    · obtain ⟨rfl, hinString⟩ := hhalf
      rw [quoteTurns_escape, Cursor.outcome, Cursor.resumed, hinString]
      dsimp only
      rw [beq_self_eq_true, Bool.not_false, Bool.and_true, if_pos rfl, Nat.add_sub_cancel]
    · have hknown : (c == settings.escape && !quoteTurns s.inString c) = false := by
        by_cases hescape : c = settings.escape
        · have hinString : s.inString = true :=
            eq_true_of_ne_false fun hinString => hhalf ⟨hescape, hinString⟩
          rw [hescape, quoteTurns_escape, hinString, Bool.not_true, Bool.and_false]
        · rw [beq_eq_false_iff_ne.mpr hescape, Bool.false_and]
      rw [scanOutcome_char h hstart quoted fun hescape hinString =>
        absurd ⟨hescape, hinString⟩ hhalf]
      exact Cursor.outcome_of_known hknown

/-- A round at a marker behind an escape. -/
theorem leadsOn_escapedMarker (hs : s.InRange settings text)
    (h : text.toList.drop s.offset = settings.marker :: cs) (outside : s.inString = false)
    (behind : s.behindEscape = true) :
    LeadsOn settings compile text s (ends (.ok (.again
      { s with
        offset := s.offset + 1, literalStart := s.offset, literalEnd := s.offset + 1
        behindEscape := settings.marker == settings.escape
        parts := flush text s.parts s.literalStart (s.literalEnd - 1) }))) := by
  have hlt := lt_length_of_drop h
  obtain ⟨i, hi, hstart, hdrop⟩ := hs.escape behind
  have hend : s.literalEnd - 1 = i := by rw [hs.literalEnd, hi, Nat.add_sub_cancel]
  refine .again ?good (by dsimp only; omega) ?same
  case good =>
    refine ⟨rfl, Nat.le_succ _, hlt, fun hescape => ?_⟩
    rw [marker_beq_escape] at hescape
    cases hescape
  case same =>
    have hresumed : s.resumed = i := by
      rw [Cursor.resumed, behind, outside, hi]
      rfl
    have hcut : CutsOff settings compile
        ⟨false, settings.escape :: settings.marker :: cs⟩ .escapedMarker ⟨false, cs⟩ :=
      .escapedMarker
    rw [Cursor.outcome_of_known (by rw [marker_beq_escape, Bool.false_and]), Cursor.outcome,
      hresumed, outside]
    dsimp only
    rw [scanOutcome, scanOutcome, hdrop, ← hi, h, hcut.cutOutcome_eq, drop_succ_of_drop h, hend,
      flush_eq (by omega), between_succ h (Nat.le_refl _), between_self]
    cases cutOutcome settings compile text ⟨false, cs⟩ with
    | error stop => rfl
    | ok ps => exact congrArg Except.ok (List.append_assoc _ _ _)

/-- What a scan comes to at a marker outside of a string, if no escape stands in front of it. -/
theorem Cursor.outcome_at_marker (h : text.toList.drop s.offset = settings.marker :: cs)
    (outside : s.inString = false) (known : s.behindEscape = false) :
    s.outcome settings compile text
      = (cutOutcome settings compile text ⟨false, settings.marker :: cs⟩).map fun ps =>
          s.parts ++ gather settings.marker (between text s.literalStart s.offset).reverse ps := by
  rw [Cursor.outcome_of_known (by rw [known, Bool.false_and]), outside, scanOutcome, h]

/-- A round that takes a site. -/
theorem leadsOn_taken {site : Site Code} {span after : List Char} (hs : s.InRange settings text)
    (h : text.toList.drop s.offset = settings.marker :: (span ++ after))
    (outside : s.inString = false) (known : s.behindEscape = false)
    (reads : Site.read compile (span ++ after) = .ok (site, after)) :
    LeadsOn settings compile text s (ends (.ok (.again
      { s with
        offset := s.offset + 1 + span.length, literalStart := s.offset + 1 + span.length
        literalEnd := s.offset + 1 + span.length
        behindEscape := settings.marker == settings.escape
        parts := flush text s.parts s.literalStart s.literalEnd ++ [.site site] }))) := by
  have hlt := lt_length_of_drop h
  have hnext := drop_succ_of_drop h
  have hlength := congrArg List.length hnext
  rw [List.length_drop, String.length_toList, List.length_append] at hlength
  refine .again ?good (by dsimp only; omega) ?same
  case good =>
    refine ⟨rfl, Nat.le_refl _, by dsimp only; omega, fun hescape => ?_⟩
    rw [marker_beq_escape] at hescape
    cases hescape
  case same =>
    have hcut : CutsOff settings compile ⟨false, settings.marker :: (span ++ after)⟩
        (.site site span) ⟨false, after⟩ := .site reads
    rw [Cursor.outcome_of_known (by rw [marker_beq_escape, Bool.false_and]),
      Cursor.outcome_at_marker h outside known, outside]
    dsimp only
    rw [scanOutcome, ← List.drop_drop, hnext, List.drop_left, hcut.cutOutcome_eq,
      between_self, flush_eq (hs.literalEnd ▸ hs.offset), hs.literalEnd]
    cases cutOutcome settings compile text ⟨false, after⟩ with
    | error stop => rfl
    | ok ps => exact congrArg Except.ok (by simp [gather])

/-- A round at a marker that is not behind an escape. -/
theorem leadsOn_site (hs : s.InRange settings text)
    (h : text.toList.drop s.offset = settings.marker :: cs) (outside : s.inString = false)
    (known : s.behindEscape = false) :
    LeadsOn settings compile text s (do
      let (site, stop) ← siteFrom compile text (s.offset + 1)
      pure (.again
        { s with
          offset := stop, literalStart := stop, literalEnd := stop
          behindEscape := settings.marker == settings.escape
          parts := flush text s.parts s.literalStart s.literalEnd ++ [.site site] })) := by
  have hnext := drop_succ_of_drop h
  rw [siteFrom_eq]
  cases hread : Site.read compile cs with
  | error why =>
      have hrefused : Refused settings compile ⟨false, settings.marker :: cs⟩ (.unread why) :=
        .unread hread
      rw [siteAt_of_error (by rw [hnext, hread])]
      refine .stop ?_
      rw [Cursor.outcome_at_marker h outside known, hrefused.cutOutcome_eq,
        ScanError.failure, position_of_drop h, Nat.cast_succ, add_sub_cancel_right]
      rfl
  | ok answer =>
      obtain ⟨site, after⟩ := answer
      obtain ⟨span, rfl⟩ := Site.read_suffix hread
      rw [siteAt_eq_ok hnext hread]
      exact leadsOn_taken hs h outside known hread

/-- Every round of a scan leads on. -/
theorem scanRound_leadsOn (hs : s.InRange settings text) :
    LeadsOn settings compile text s (scanRound settings compile text s) := by
  cases hdrop : text.toList.drop s.offset with
  | nil =>
      have hout : s.outcome settings compile text
          = scanOutcome settings compile text s.parts s.literalStart s.offset s.inString := by
        refine hs.outcome_eq fun hhead => ?_
        rw [hdrop] at hhead
        cases hhead
      rw [scanRound, if_neg (not_lt_length_of_drop hdrop)]
      refine .done ?_
      rw [hout, scanOutcome, hdrop, cutOutcome_nil, hs.literalEnd, flush_eq hs.offset]
      rfl
  | cons c cs =>
      rw [scanRound, if_pos (lt_length_of_drop hdrop), charAt_of_drop hdrop, ends_ok_bind]
      dsimp only
      by_cases hquoted : c = settings.marker ∧ s.inString = true
          ∧ settings.allowMarkersInStrings = false
      · obtain ⟨rfl, hinside, hstrict⟩ := hquoted
        have hrefused : Refused settings compile ⟨true, settings.marker :: cs⟩ .quotedMarker :=
          .quotedMarker hstrict
        rw [if_pos ⟨rfl, hinside, hstrict⟩]
        refine .stop ?_
        rw [hs.outcome_eq fun _ _ => hinside, scanOutcome, hdrop, hinside,
          hrefused.cutOutcome_eq, ScanError.failure, position_of_drop hdrop]
        rfl
      rw [if_neg hquoted]
      by_cases hsite : c = settings.marker ∧ s.inString = false
      · obtain ⟨rfl, houtside⟩ := hsite
        rw [if_pos ⟨rfl, houtside⟩]
        by_cases hescape : s.behindEscape = true
        · rw [if_pos hescape]
          exact leadsOn_escapedMarker hs hdrop houtside hescape
        · rw [if_neg hescape]
          exact leadsOn_site hs hdrop houtside (eq_false_of_ne_true hescape)
      · rw [if_neg hsite]
        refine leadsOn_char hs hdrop fun hmarker => ?_
        have hinside : s.inString = true := eq_true_of_ne_false fun hout => hsite ⟨hmarker, hout⟩
        exact ⟨hinside, eq_true_of_ne_false fun hstrict => hquoted ⟨hmarker, hinside, hstrict⟩⟩

/-! ## Runs -/

/-- The cursors that the rounds of a scan come to. -/
inductive Reached (settings : Settings) (compile : List Char → Verdict Code) (text : String) :
    Cursor Code → Prop where
  | start : Reached settings compile text {}
  | again {s s' : Cursor Code} (before : Reached settings compile text s)
      (round : scanRound settings compile text s = ends (.ok (.again s'))) :
      Reached settings compile text s'

theorem inRange_start (settings : Settings) (text : String) :
    ({} : Cursor Code).InRange settings text :=
  ⟨rfl, Nat.le_refl 0, Nat.zero_le _, nofun⟩

/-- Every cursor that a scan comes to is in range. -/
theorem Reached.inRange (h : Reached settings compile text s) : s.InRange settings text := by
  induction h with
  | start => exact inRange_start settings text
  | again before round ih => exact (round ▸ scanRound_leadsOn ih).of_again.1

/-- A scan by offsets ends, and it comes to what scanning the text comes to. -/
theorem scan_eq (settings : Settings) (compile : List Char → Verdict Code) (text : String) :
    Walk.scan settings compile text
      = ends ((Template.scan settings compile text).mapError .failed) := by
  have hloop : Walk.scan settings compile text = ends (Cursor.outcome settings compile text {}) :=
    loop_eq (fun _ hs => scanRound_leadsOn hs) (inRange_start settings text)
  rw [hloop, Template.scan, scanChars, Cursor.outcome, scanOutcome, cutOutcome]
  change ends (((pieces settings compile false text.toList).mapError _).map _) = _
  cases pieces settings compile false text.toList <;> rfl

/-- Cutting never comes to a look outside of the text. -/
theorem Cursor.outcome_ne_outside (s : Cursor Code) (i : Nat) :
    s.outcome settings compile text ≠ .error (.outside i) := by
  intro h
  unfold Cursor.outcome scanOutcome cutOutcome at h
  cases hcut : pieces settings compile s.inString (text.toList.drop s.resumed) <;>
    rw [hcut] at h <;> cases h

/-- A round from a cursor in range ends, it looks at no character that is not there, and if it goes
on, then from an offset further behind that is still in the text. -/
theorem Cursor.InRange.round (hs : s.InRange settings text) :
    ∃ out, scanRound settings compile text s = ends out ∧
      (∀ i, out ≠ .error (.outside i)) ∧
      ∀ s', out = .ok (.again s') → s.offset < s'.offset ∧ s'.offset ≤ text.length := by
  have hround : LeadsOn settings compile text s (scanRound settings compile text s) :=
    scanRound_leadsOn hs
  generalize hr : scanRound settings compile text s = r at hround
  cases hround with
  | again good nearer same =>
      refine ⟨_, rfl, nofun, fun s' hs' => ?_⟩
      obtain rfl := Round.again.inj (Except.ok.inj hs')
      have hle := good.offset
      exact ⟨by omega, hle⟩
  | done same => exact ⟨_, rfl, nofun, nofun⟩
  | stop same =>
      refine ⟨_, rfl, fun i hi => ?_, nofun⟩
      obtain rfl := Except.error.inj hi
      exact s.outcome_ne_outside i same

end Scans

/-! ## All of it -/

/-- What the search for the site at an offset may come to. -/
inductive SiteAnswer (room : Room) (text : String) (start : Nat) :
    Except Stop (Site Tree × Nat) → Prop where
  | malformed (reason : Reason) : SiteAnswer room text start
      (.error (.failed (.refused (.malformed text ((start : Int) - 1) reason))))
  /-- something runs out over the source of the expression -/
  | exhausted {e : Exhaustion} {source : List Char} (runs : room.exhausts source = some e) :
      SiteAnswer room text start (.error (.failed (.exhausted e)))
  | site {site : Site Tree} {stop : Nat} (advances : start < stop) (inRange : stop ≤ text.length) :
      SiteAnswer room text start (.ok (site, stop))

/-- A walk comes to the same as a computation that builds queries and leaves the store as it is.  No
computation comes to a look outside of the text. -/
inductive SameOutcome {α : Type} (s : Store) :
    Except Stop α → EStateM.Result Refusal Store α → Prop where
  | ok (a : α) : SameOutcome s (.ok a) (.ok a s)
  | failed (f : ScanFailure) : SameOutcome s (.error (.failed f)) (.error f.refusal s)

/-- The search for the site at an offset ends.  It has looked at no character that is not there, and
comes to what reading the site comes to. -/
structure SiteInRange (room : Room) (text : String) (start : Nat)
    (out : Except Stop (Site Tree × Nat)) : Prop where
  ends : Walk.siteFrom room.compile text start = Walk.ends out
  answer : SiteAnswer room text start out
  same : ∀ s, SameOutcome s out (readSite room text start s)

/-- A scan ends, and comes to what making the template comes to.  Every round begins with a cursor
in range, ends without a look at a character that is not there, and goes on further behind, if it
goes on. -/
structure ScanInRange (room : Room) (settings : Settings) (text : String)
    (out : Except Stop (List (Part Tree))) : Prop where
  cursor : ∀ s, Reached settings room.compile text s →
    s.literalEnd = s.offset ∧ s.literalStart ≤ s.literalEnd ∧ s.offset ≤ text.length
  round : ∀ s, Reached settings room.compile text s →
    ∃ round, Walk.scanRound settings room.compile text s = Walk.ends round ∧
      (∀ i, round ≠ .error (.outside i)) ∧
      ∀ s', round = .ok (.again s') → s.offset < s'.offset ∧ s'.offset ≤ text.length
  ends : Walk.scan settings room.compile text = Walk.ends out
  same : ∀ s, SameOutcome s (out.map (⟨text, ·⟩)) (templateOf room settings text s)

section Rooms

variable {room : Room} {text : String} {start : Nat}

/-- A site that is read ends behind its beginning and within the text. -/
theorem siteAnswer_siteAt (room : Room) (text : String) (start : Nat) :
    SiteAnswer room text start ((siteAt room.compile text start).mapError .failed) := by
  cases hread : Site.read room.compile (text.toList.drop start) with
  | error why =>
      rw [Walk.siteAt_of_error hread]
      cases why with
      | malformed reason => exact .malformed reason
      | exhausted e =>
          obtain ⟨source, hsource⟩ := Site.exists_exhausts_of_read hread
          exact .exhausted hsource
  | ok answer =>
      obtain ⟨site, rest⟩ := answer
      have hshort := Site.read_length_lt hread
      rw [List.length_drop, String.length_toList] at hshort
      have hsite : siteAt room.compile text start = .ok (site, Walk.offsetOf text rest) := by
        rw [siteAt, hread, String.length_toList]
        rfl
      rw [hsite]
      exact .site (by rw [Walk.offsetOf]; omega) (Nat.sub_le _ _)

/-- Reading a single site comes to what looking for it comes to. -/
theorem sameOutcome_readSite (room : Room) (text : String) (start : Nat) (s : Store) :
    SameOutcome s ((siteAt room.compile text start).mapError .failed)
      (readSite room text start s) := by
  unfold readSite
  cases siteAt room.compile text start with
  | error f => exact .failed f
  | ok answer => exact .ok answer

/-- Making a template comes to what scanning its text comes to. -/
theorem sameOutcome_templateOf (room : Room) (settings : Settings) (text : String) (s : Store) :
    SameOutcome s (((scan settings room.compile text).mapError .failed).map (⟨text, ·⟩))
      (templateOf room settings text s) := by
  unfold templateOf
  cases scan settings room.compile text with
  | error f => exact .failed f
  | ok parts => exact .ok _

end Rooms

end BoundSql.Template
