import BoundSql.Proofs.Filling
import BoundSql.Proofs.Signs
import BoundSql.Proofs.Unobserved
import BoundSql.Template.Watching
set_option autoImplicit false

/-!
# Observers that only watch

Observers that raise nothing make no difference, neither to the templates that are made before their
eyes nor to what executors answer and do.  What they are told of a template is what came of it, but
for one case: where something runs out over an expression, making the template fails with an error
that is not caught, and is told of as a success.

Making a template with observers and without is compared outcome by outcome (`watchedMaking`).
There are three of them (`outcome_cases`): the template, a refusal of its text, and running out.
The event that is told is made of the first two (`outcomeEvent`), and for the third one it says that
there are no parts and no error, which is what `RunsOut` marks.

For executors the comparison is that of whole runs with other observers, where the answers and the
calls on the driver stay the same.  A text over which something runs out is given at the end, with
what its observer is told.
-/

namespace BoundSql.Template

open BoundSql.Execution (Driver Executor Observers)
open BoundSql.Observe (ErrorInfo Event Metadata)
open BoundSql.Value (Store Val)

/-! ## What is told of a template -/

/-- The kind and the wording of an error. -/
def Unmade.info : Unmade → ErrorInfo
  | .refused r => ⟨r.kind, r.message?.getD ""⟩
  | .raised r => ⟨r.kind, r.message⟩

/-- The event that tells what came of making a template: the numbers of its parts and of its sites,
or no parts and the error. -/
def outcomeEvent (metadata : Metadata) : Except Unmade ExprTemplate → Event
  | .ok t => .scan metadata t.parts.length (siteCount t.parts) none
  | .error e => .scan metadata 0 0 (some e.info)

/-- Something ran out over an expression of the text. -/
def RunsOut (out : Except Unmade ExprTemplate) : Prop :=
  ∃ e : Exhaustion, out = .error (.refused (.fault e.fault))

/-- How a template is made before the eyes of observers, compared with how it is made without any.
-/
structure WatchedMaking (room : Room) (settings : Settings) (o : Observers) (v : Val) (s : Store) :
    Prop where
  outcome : (makeTemplate room settings o v s).outcome = (makeTemplate room settings {} v s).outcome
  store : (makeTemplate room settings o v s).store = (makeTemplate room settings {} v s).store
  /-- the scan of a text is told of once -/
  text : ∀ text, v = .str text → o.event.isSome = true →
    ∃ e, (makeTemplate room settings o v s).events = [e] ∧
      (e = outcomeEvent o.metadata (makeTemplate room settings {} v s).outcome ↔
        ¬RunsOut (makeTemplate room settings {} v s).outcome) ∧
      (RunsOut (makeTemplate room settings {} v s).outcome → e = .scan o.metadata 0 0 none)
  /-- nothing else is told -/
  silent : (∀ text, v ≠ .str text) ∨ o.event = none → (makeTemplate room settings o v s).events = []

/-- What making a template of a text can come to. -/
theorem outcome_cases (room : Room) (settings : Settings) (text : String) (s : Store) :
    let out := (Making.ofBuild (templateOf room settings text) s).outcome
    (∃ t, out = .ok t) ∨ (∃ e, out = .error (.refused (.template e))) ∨ RunsOut out := by
  unfold Making.ofBuild templateOf
  cases scan settings room.compile text with
  | ok parts => exact .inl ⟨_, rfl⟩
  | error f =>
      cases f with
      | refused e => exact .inr (.inl ⟨e, rfl⟩)
      | exhausted e => exact .inr (.inr ⟨e, rfl⟩)

/-- What is told of a scan is what came of it, unless something ran out. -/
theorem scanEvent_eq_iff (metadata : Metadata) {out : Except Unmade ExprTemplate}
    (h : (∃ t, out = .ok t) ∨ (∃ e, out = .error (.refused (.template e))) ∨ RunsOut out) :
    (scanEvent metadata out = outcomeEvent metadata out ↔ ¬RunsOut out)
      ∧ (RunsOut out → scanEvent metadata out = .scan metadata 0 0 none) := by
  rcases h with ⟨t, rfl⟩ | ⟨e, rfl⟩ | ⟨e, rfl⟩
  · have hmade : ¬RunsOut (.ok t) := by
      rintro ⟨e, h⟩
      cases h
    exact ⟨iff_of_true rfl hmade, fun h => absurd h hmade⟩
  · have hrefused : ¬RunsOut (.error (.refused (.template e))) := by
      rintro ⟨e', h⟩
      cases h
    exact ⟨iff_of_true rfl hrefused, fun h => absurd h hrefused⟩
  · have hne : scanEvent metadata (.error (.refused (.fault e.fault)))
        ≠ outcomeEvent metadata (.error (.refused (.fault e.fault))) := by
      intro h
      cases congrArg Event.success h
    exact ⟨iff_of_false hne fun h => h ⟨e, rfl⟩, fun _ => rfl⟩

/-- If nothing is raised at an event, nothing changes but what was told. -/
theorem Making.tell_of_eventRaises {o : Observers} {e : Event} (h : o.eventRaises e = none)
    (m : Making) :
    m.tell o e = { m with events := m.events ++ if o.event.isSome then [e] else [] } := by
  rw [Observers.eventRaises] at h
  rw [tell]
  cases hevent : o.event with
  | none => simp
  | some observer =>
      rw [hevent, Option.bind_some] at h
      simp [h]

/-- Observers that raise nothing change nothing but what they were told. -/
theorem Making.tell_of_quiet {o : Observers} (quiet : o.Quiet) (e : Event) (m : Making) :
    m.tell o e = { m with events := m.events ++ if o.event.isSome then [e] else [] } :=
  tell_of_eventRaises (quiet.event e) m

theorem Making.events_ofBuild (x : Build ExprTemplate) (s : Store) :
    (Making.ofBuild x s).events = [] := by
  unfold ofBuild
  split <;> rfl

theorem makeTemplate_of_not_text {room : Room} {settings : Settings} {o : Observers} {v : Val}
    {s : Store}
    (h : ∀ text, v ≠ .str text) :
    makeTemplate room settings o v s = Making.ofBuild (scanValue room settings v) s := by
  unfold makeTemplate
  split
  · exact absurd rfl (h _)
  · rfl

/-- Making a template of a text before the eyes of observers that raise nothing at its scan. -/
theorem makeTemplate_of_eventRaises {room : Room} {o : Observers} {settings : Settings}
    {text : Text}
    {s : Store}
    (h : o.eventRaises (scanEvent o.metadata
      (Making.ofBuild (templateOf room settings (Text.plain text)) s).outcome) = none) :
    let m := Making.ofBuild (templateOf room settings (Text.plain text)) s
    makeTemplate room settings o (.str text) s
      = { m with events := if o.event.isSome then [scanEvent o.metadata m.outcome] else [] } := by
  intro m
  have htold := Making.tell_of_eventRaises h m
  rw [show m.events = [] from Making.events_ofBuild _ s, List.nil_append] at htold
  exact htold

/-- Making a template before the eyes of observers that raise nothing. -/
theorem watchedMaking {o : Observers} (quiet : o.Quiet) (room : Room) (settings : Settings)
    (v : Val) (s : Store) : WatchedMaking room settings o v s := by
  have hnobody : Observers.Quiet {} := ⟨fun _ => rfl, fun _ => rfl⟩
  by_cases htext : ∃ text, v = .str text
  · obtain ⟨text, rfl⟩ := htext
    let m := Making.ofBuild (templateOf room settings (Text.plain text)) s
    have hwatched : ∀ {p : Observers}, p.Quiet → makeTemplate room settings p (.str text) s
        = { m with events := if p.event.isSome then [scanEvent p.metadata m.outcome] else [] } :=
      fun hp => makeTemplate_of_eventRaises (hp.event _)
    have hevent := scanEvent_eq_iff o.metadata (outcome_cases room settings (Text.plain text) s)
    constructor
    case outcome => rw [hwatched quiet, hwatched hnobody]
    case store => rw [hwatched quiet, hwatched hnobody]
    case text =>
      intro _ _ listens
      rw [hwatched quiet, hwatched hnobody, if_pos listens]
      exact ⟨_, rfl, hevent⟩
    case silent =>
      rintro (hno | hnone)
      · exact absurd rfl (hno text)
      · rw [hwatched quiet, hnone]
        rfl
  · have hno : ∀ text, v ≠ .str text := fun text h => htext ⟨text, h⟩
    constructor
    case outcome => rw [makeTemplate_of_not_text hno, makeTemplate_of_not_text hno]
    case store => rw [makeTemplate_of_not_text hno, makeTemplate_of_not_text hno]
    case text => exact fun text h => absurd h (hno text)
    case silent =>
      intro _
      rw [makeTemplate_of_not_text hno, Making.events_ofBuild]

/-! ## All of it -/

/-- Observers that raise nothing are transparent, whatever metadata goes with them.  A template
comes out as it does without them; they are told once of the scan of a text, and of what came of it
unless something ran out over an expression, which is told of as a success.  An executor answers
every request as it does without them and makes the same calls on the driver. -/
theorem quiet_observers_are_transparent {o : Observers} (quiet : o.Quiet) :
    (∀ room settings v s, WatchedMaking room settings o v s) ∧
      ∀ (x : Executor) (d : Driver) rs, x.LookAlike o {} d rs :=
  ⟨watchedMaking quiet, fun x d rs => Executor.lookAlike quiet ⟨fun _ => rfl, fun _ => rfl⟩ x d rs⟩

/-- Observers that take notice of everything and raise nothing. -/
theorem quiet_observers_are_transparent_of_listeners :
    let o : Observers := {
      query := some fun _ => none
      event := some fun _ => none
      metadata := [("app", .str (Text.ofChars "web".toList))] }
    o.Quiet ∧ (∀ room settings v s, WatchedMaking room settings o v s) ∧
      ∀ (x : Executor) (d : Driver) rs, x.LookAlike o {} d rs := by
  intro o
  have quiet : o.Quiet := ⟨fun _ => rfl, fun _ => rfl⟩
  exact ⟨quiet, quiet_observers_are_transparent quiet⟩

/-! ## An expression that does not fit -/

/-- A template over whose expression the stack runs out, behind any number of calls, is not made,
but is told of as a success. -/
theorem exhausted_scan_told_as_success :
    let o : Observers := { event := some fun _ => none }
    let making calls :=
      makeTemplate (.behind calls) {} o (.str (Text.ofString (signedTemplate 1500))) {}
    (∀ calls, (making calls).outcome = .error (.refused (.fault .tooDeep))) ∧
      ∀ calls, ∃ e, (making calls).events = [e] ∧ e.success = true := by
  intro o making
  have quiet : o.Quiet := ⟨fun _ => rfl, fun _ => rfl⟩
  have hmaking : ∀ calls, making calls
      = ⟨.error (.refused (.fault .tooDeep)), {}, [.scan [] 0 0 none]⟩ := by
    intro calls
    have hscan : scan {} (Room.behind calls).compile (signedTemplate 1500)
        = .error (.exhausted .stack) :=
      scan_signed (Room.behind_exhausts_stack calls (by decide) (by decide))
    have hmade : scanValue (.behind calls) {} (.str (Text.ofString (signedTemplate 1500))) {}
        = .error (.fault .tooDeep) {} := by
      rw [scanValue, Text.plain_ofString, templateOf_of_scan_error hscan]
      rfl
    have hm : making calls = (Making.ofBuild (scanValue (.behind calls) {}
        (.str (Text.ofString (signedTemplate 1500)))) {}).tell o _ := rfl
    rw [hm, Making.tell_of_quiet quiet, Making.ofBuild, hmade]
    rfl
  refine ⟨fun calls => ?_, fun calls => ?_⟩
  · rw [hmaking]
  · rw [hmaking]
    exact ⟨_, rfl, rfl⟩

end BoundSql.Template
