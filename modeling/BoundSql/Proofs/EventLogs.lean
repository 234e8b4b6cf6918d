import BoundSql.Execution.Logging
import BoundSql.Proofs.Loggable
import BoundSql.Proofs.Transparency
set_option autoImplicit false

/-!
# The log of events

A record of an event is logged as one line if it can be logged, and otherwise logging fails and
writes nothing.  Whether it can be logged is decided by its metadata alone, since all other fields
of an event are texts, small numbers or nothing (`Event.loggable_data_iff`).  The line is JSON if
all floating point numbers in it are finite.

A log is one more observer, and what it raises goes to whoever told of the event.  So it is of
interest when it raises nothing: as an observer, a log is silent about events whose metadata can be
logged (`logObserver_eq_none_iff`), and then makes no difference to templates and executors
(`noDifference`).

The metadata of an event is any dictionary that a caller hands over.  Keys of different kinds in one
dictionary, and values that are nested too deeply, are the two reasons why an event is not logged;
both are shown to be the only ones, and the first one on an event.
-/

namespace BoundSql.Observe

open BoundSql.Value

/-! ## Records -/

/-- The data that the fields of a record are, by their names. -/
def Record.Of (s : Store) (r : Record) (es : List (Val × Data)) : Prop :=
  Data.EntriesOf s [] es (r.entries.map fun e => (Val.str e.1, e.2))

/-- Fields can be logged: they are not nested too deeply, and the keys of all dictionaries in them
agree. -/
structure Loggable (es : List (Val × Data)) : Prop where
  depth : Data.entriesDepth es ≤ depthLimit
  sortable : Data.EntriesSortable es

section Records

variable {s s' : Store} {r : Record} {es : List (Val × Data)}

/-- The names of the fields are texts. -/
theorem Record.Of.allTexts (of : r.Of s es) : AllTexts (es.map (·.1)) := by
  rw [← Data.keys_of_entriesOf of, List.map_map]
  intro k hk
  obtain ⟨e, -, rfl⟩ := List.mem_map.mp hk
  rfl

/-- Fields that can be logged are written as an object. -/
theorem exists_logLine (of : r.Of s es) (h : Loggable es) :
    ∃ sorted, logLine r s = .ok (String.ofList (LogTree.object sorted).text) s ∧
      (Data.dict es).Written (.object sorted) := by
  have htexts := of.allTexts
  have hkeys := Data.keys_of_entriesOf of
  obtain ⟨ms, hms, hwritten⟩ := Data.exists_members of h.depth h.sortable
    fun e he => by rw [htexts e.1 (List.mem_map_of_mem he)]; exact KeyKind.noConfusion
  obtain ⟨sorted, hsorted, hperm, horder⟩ :=
    membersOf_of_agree (.inl (hkeys ▸ htexts)) hms
  exact ⟨sorted, bind_of_ok hsorted _, sorted, rfl, ms, hwritten, hperm, hkeys ▸ horder⟩

/-- Fields that are written can be logged. -/
theorem loggable_of_logLine (of : r.Of s es) {line : String} (h : logLine r s = .ok line s') :
    Loggable es := by
  obtain ⟨ms, s₁, hms, -⟩ := bind_eq_ok_iff.mp h
  obtain ⟨hdepth, -, hsort⟩ := (Data.onlyLoggable s depthLimit []).entries of hms
  exact ⟨hdepth, hsort⟩

/-- What comes of logging a record. -/
structure Logging (threshold level : Int) (s : Store) (r : Record) (es : List (Val × Data)) :
    Prop where
  /-- it returns if and only if the fields can be logged -/
  returns : (∃ lines s', logged threshold level r s = .ok lines s') ↔ Loggable es
  /-- then it adds one line if the log takes any, which is JSON if and only if all numbers are
  finite -/
  line : Loggable es → ∃ line,
    logged threshold level r s = .ok (if isEnabled threshold level then [line] else []) s ∧
      ((LogTree.read? line.toList).isSome ↔ Data.EntriesFinite es)

theorem logging (of : r.Of s es) (threshold level : Int) : Logging threshold level s r es := by
  have hline : Loggable es → ∃ line,
      logged threshold level r s = .ok (if isEnabled threshold level then [line] else []) s ∧
        ((LogTree.read? line.toList).isSome ↔ Data.EntriesFinite es) := by
    intro h
    obtain ⟨sorted, hline, hwritten⟩ := exists_logLine of h
    refine ⟨_, bind_of_ok hline _, ?_⟩
    rw [String.toList_ofList, LogTree.isSome_read?_text hwritten.numbers]
    exact hwritten.numerals_iff
  refine ⟨⟨?_, fun h => ?_⟩, hline⟩
  · rintro ⟨lines, s', h⟩
    obtain ⟨line, s₁, hline, -⟩ := bind_eq_ok_iff.mp h
    exact loggable_of_logLine of hline
  · obtain ⟨line, hlogged, -⟩ := hline h
    exact ⟨_, _, hlogged⟩

end Records

/-! ## Events -/

/-- The store behind the making of a dictionary of metadata. -/
def storeWith (s : Store) (m : Metadata) : Store :=
  { s with objects := s.objects.push (.dict m.entries.toArray) }

/-- The data that metadata is in a store, as a dictionary that is made behind all objects. -/
def Metadata.Of (s : Store) (m : Metadata) (es : List (Val × Data)) : Prop :=
  (Data.dict es).Of (storeWith s m) [] (.object s.objects.size)

/-- The counts that an event tells have texts. -/
structure Event.Countable (e : Event) : Prop where
  parts : ∀ n, e.partCount = some n → n < digitBound
  expressions : ∀ n, e.expressionCount = some n → n < digitBound
  params : ∀ n, e.paramCount = some n → n < digitBound

/-- To log an event is to log its record with a new dictionary as metadata. -/
theorem logEvent_eq (threshold level : Int) (stamp : Stamp) (e : Event) (s : Store) :
    logEvent threshold level stamp e s
      = logged threshold level (e.record (.str stamp.timestamp) (.float stamp.duration)
          (.object s.objects.size) stamp.queryText) (storeWith s e.metadata) := rfl

/-- The lines that logging adds, if it returns. -/
def addedLines? : EStateM.Result Fault Store (List String) → Option (List String)
  | .ok lines _ => some lines
  | .error .. => none

/-- What keeps logging from returning. -/
def fault? : EStateM.Result Fault Store (List String) → Option Fault
  | .ok .. => none
  | .error f _ => some f

/-- The data that an optional field is. -/
def optionalData {α : Type} (f : α → Data) : Option α → Data
  | some a => f a
  | none => .none

/-- The data that a count is. -/
def countData (n : Nat) : Data := .int n

/-- The data that the fields of an event are. -/
def Event.data (stamp : Stamp) (e : Event) (metadata : Data) : List (Val × Data) :=
  [(.str "timestamp", .text stamp.timestamp), (.str "event", .text e.event),
    (.str "component", .text e.component), (.str "success", .bool e.success),
    (.str "metadata", metadata), (.str "operation", optionalData .text e.operation),
    (.str "query_id", optionalData (fun n => .text (stamp.queryText n)) e.queryId),
    (.str "duration_ms", if e.timed then .float stamp.duration else .none),
    (.str "part_count", optionalData countData e.partCount),
    (.str "expression_count", optionalData countData e.expressionCount),
    (.str "param_count", optionalData countData e.paramCount),
    (.str "error_type", optionalData (fun i => .text i.kind) e.error),
    (.str "error_message", optionalData (fun i => .text i.message) e.error)]

section Events

variable {s : Store}

theorem hasText_str (t : Text) : HasText s (.str t) := ⟨_, rfl⟩

theorem Event.countable_queryStart {dialect operation : String} {m : Metadata} {id count : Nat}
    (h : count < digitBound) : (Event.queryStart dialect operation m id count).Countable := by
  refine ⟨nofun, nofun, ?_⟩
  rintro n ⟨⟩
  exact h

theorem of_optional {α : Type} {inside : List Nat} {f : α → Data} {g : α → Val} {a : Option α}
    (h : ∀ b, a = some b → (f b).Of s inside (g b)) :
    (optionalData f a).Of s inside (optionalVal g a) := by
  cases a with
  | none => rfl
  | some b => exact h b rfl

theorem of_count {inside : List Nat} {n : Option Nat} (h : ∀ m, n = some m → m < digitBound) :
    (optionalData countData n).Of s inside (optionalVal countVal n) :=
  of_optional fun m hm => ⟨rfl, hasText_int_iff.mpr (by rw [Int.natAbs_natCast]; exact h m hm)⟩

/-- The record of an event whose counts have texts. -/
theorem Event.record_of {e : Event} {m : Data} {v : Val} (stamp : Stamp) (countable : e.Countable)
    (of : m.Of s [] v) :
    (e.record (.str stamp.timestamp) (.float stamp.duration) v stamp.queryText).Of s
      (e.data stamp m) := by
  have hduration : (if e.timed then Data.float stamp.duration else .none).Of s []
      (if e.timed then .float stamp.duration else .none) := by
    split <;> rfl
  exact ⟨_, _, rfl, hasText_str _, rfl, _, _, rfl, hasText_str _, rfl,
    _, _, rfl, hasText_str _, rfl, _, _, rfl, hasText_str _, rfl, _, _, rfl, hasText_str _, of,
    _, _, rfl, hasText_str _, of_optional fun _ _ => rfl,
    _, _, rfl, hasText_str _, of_optional fun _ _ => rfl,
    _, _, rfl, hasText_str _, hduration,
    _, _, rfl, hasText_str _, of_count countable.parts,
    _, _, rfl, hasText_str _, of_count countable.expressions,
    _, _, rfl, hasText_str _, of_count countable.params,
    _, _, rfl, hasText_str _, of_optional fun _ _ => rfl,
    _, _, rfl, hasText_str _, of_optional fun _ _ => rfl, rfl⟩

/-- An optional field that is not nested. -/
theorem leaf_optional {α : Type} {f : α → Data} (h : ∀ a, (f a).depth = 1 ∧ (f a).Sortable)
    (a : Option α) : (optionalData f a).depth = 1 ∧ (optionalData f a).Sortable := by
  cases a with
  | none => exact ⟨rfl, trivial⟩
  | some a => exact h a

theorem leaf_text {α : Type} (f : α → Text) (a : Option α) :
    (optionalData (fun b => .text (f b)) a).depth = 1
      ∧ (optionalData (fun b => .text (f b)) a).Sortable :=
  leaf_optional (f := fun b => .text (f b)) (fun _ => ⟨rfl, trivial⟩) a

theorem leaf_count (n : Option Nat) :
    (optionalData countData n).depth = 1 ∧ (optionalData countData n).Sortable :=
  leaf_optional (f := countData) (fun _ => ⟨rfl, trivial⟩) n

/-- An event can be logged if its metadata can. -/
theorem Event.loggable_data_iff (stamp : Stamp) (e : Event) (m : Data) :
    Loggable (e.data stamp m) ↔ m.depth ≤ depthLimit ∧ m.Sortable := by
  have hpos := m.depth_pos
  have hduration : (if e.timed then Data.float stamp.duration else .none).depth = 1
      ∧ (if e.timed then Data.float stamp.duration else .none).Sortable := by
    split <;> exact ⟨rfl, trivial⟩
  have hoperation (o : Option Text) : (optionalData .text o).depth = 1
      ∧ (optionalData .text o).Sortable := leaf_text (fun t => t) o
  have hdepth : Data.entriesDepth (e.data stamp m) = m.depth := by
    simp only [Event.data, Data.entriesDepth, Data.depth, hduration, hoperation, leaf_text,
      leaf_count]
    omega
  have hsort : Data.EntriesSortable (e.data stamp m) ↔ m.Sortable := by
    simp only [Event.data, Data.EntriesSortable, Data.Sortable, hduration, hoperation, leaf_text,
      leaf_count, true_and, and_true]
  constructor
  · rintro ⟨hd, hs⟩
    exact ⟨hdepth ▸ hd, hsort.mp hs⟩
  · rintro ⟨hd, hs⟩
    exact ⟨hdepth.symm ▸ hd, hsort.mpr hs⟩

variable {e : Event} {es : List (Val × Data)} (threshold level : Int) (stamp : Stamp)

/-- Logging an event returns if and only if the metadata can be logged. -/
theorem logEvent_returns_iff (of : e.metadata.Of s es) (countable : e.Countable) :
    (∃ lines s', logEvent threshold level stamp e s = .ok lines s')
      ↔ (Data.dict es).depth ≤ depthLimit ∧ (Data.dict es).Sortable := by
  rw [logEvent_eq, ← Event.loggable_data_iff stamp e]
  exact (logging (Event.record_of stamp countable of) threshold level).returns

/-- An event whose metadata can be logged adds one line. -/
theorem exists_line_of_logEvent (of : e.metadata.Of s es) (countable : e.Countable)
    (h : (Data.dict es).depth ≤ depthLimit ∧ (Data.dict es).Sortable) :
    ∃ line, logEvent threshold level stamp e s
        = .ok (if isEnabled threshold level then [line] else []) (storeWith s e.metadata) ∧
      ((LogTree.read? line.toList).isSome ↔ Data.EntriesFinite (e.data stamp (.dict es))) := by
  rw [logEvent_eq]
  exact (logging (Event.record_of stamp countable of) threshold level).line
    ((Event.loggable_data_iff stamp e _).mpr h)

end Events

end BoundSql.Observe

namespace BoundSql.Execution

open BoundSql.Observe
open BoundSql.Value (Store Val)

/-! ## Logs as observers -/

section Observer

variable {threshold level : Int} {stamp : Event → Stamp} {s : Store} {m : Metadata}
  {es : List (Val × Data)}

/-- The observer that logs events raises something if and only if the metadata cannot be logged. -/
theorem logObserver_eq_none_iff (of : m.Of s es) {e : Event} (hm : e.metadata = m)
    (countable : e.Countable) :
    logObserver threshold level stamp s e = none
      ↔ (Data.dict es).depth ≤ Value.depthLimit ∧ (Data.dict es).Sortable := by
  subst hm
  rw [← logEvent_returns_iff threshold level (stamp e) of countable, logObserver]
  cases logEvent threshold level (stamp e) e s <;> simp

variable (threshold level stamp s m) in
/-- Observers with the log as the observer of events. -/
def logWatch (query : Option (Observation → Option Raised)) : Observers where
  query
  event := some (logObserver threshold level stamp s)
  metadata := m

/-- A request does not ask for a query with more parameters than have a count with a text. -/
def HasCount (x : Executor) (r : Executor.Request) : Prop :=
  ∀ op subject c, r = .query op subject → x.form? subject = some c →
    c.params.length < Value.digitBound

open Template in
/-- A log makes no difference as an observer: a template is made as it is without, and executors
answer and use their drivers as they do without. -/
structure NoDifference (o : Observers) : Prop where
  making : ∀ room settings v t,
    (∀ made, (makeTemplate room settings {} v t).outcome = .ok made →
      made.parts.length < Value.digitBound) →
    (makeTemplate room settings o v t).outcome = (makeTemplate room settings {} v t).outcome ∧
      (makeTemplate room settings o v t).store = (makeTemplate room settings {} v t).store
  running : ∀ (x : Executor) d rs, (∀ r ∈ rs, HasCount x r) →
    x.LookAlike o { o with event := none } d rs

open Template in
theorem countable_scanEvent {outcome : Except Unmade ExprTemplate} (m : Metadata)
    (h : ∀ made, outcome = .ok made → made.parts.length < Value.digitBound) :
    (scanEvent m outcome).Countable := by
  have hzero : 0 < Value.digitBound := Nat.lt_of_lt_of_le (by decide) ten_le_digitBound
  cases outcome with
  | error e =>
      refine ⟨?_, ?_, nofun⟩ <;>
        · intro n hn
          obtain rfl := Option.some.inj hn
          exact hzero
  | ok made =>
      have hparts := h made rfl
      refine ⟨?_, ?_, nofun⟩
      · intro n hn
        obtain rfl := Option.some.inj hn
        exact hparts
      · intro n hn
        obtain rfl := Option.some.inj hn
        exact Nat.lt_of_le_of_lt List.countP_le_length hparts

section Loggable

variable (of : m.Of s es)
  (loggable : (Data.dict es).depth ≤ Value.depthLimit ∧ (Data.dict es).Sortable)
  (query : Option (Observation → Option Raised))

include of loggable

open Template in
/-- A template is made before the eyes of a log as it is without. -/
theorem makeTemplate_logWatch (room : Room) (settings : Settings) (v : Val) (t : Store)
    (hcount : ∀ made, (makeTemplate room settings {} v t).outcome = .ok made →
      made.parts.length < Value.digitBound) :
    let o := logWatch threshold level stamp s m query
    (makeTemplate room settings o v t).outcome = (makeTemplate room settings {} v t).outcome ∧
      (makeTemplate room settings o v t).store = (makeTemplate room settings {} v t).store := by
  intro o
  by_cases htext : ∃ text, v = .str text
  · obtain ⟨text, rfl⟩ := htext
    let made := Making.ofBuild (templateOf room settings (Text.plain text)) t
    have hunwatched : makeTemplate room settings {} (.str text) t = { made with events := [] } :=
      makeTemplate_of_eventRaises rfl
    rw [hunwatched] at hcount ⊢
    have hquiet : o.eventRaises (scanEvent m made.outcome) = none := by
      refine (logObserver_eq_none_iff of ?_ (countable_scanEvent m hcount)).mpr loggable
      cases made.outcome <;> rfl
    rw [makeTemplate_of_eventRaises hquiet]
    exact ⟨rfl, rfl⟩
  · have hno : ∀ text, v ≠ .str text := fun text h => htext ⟨text, h⟩
    rw [makeTemplate_of_not_text hno, makeTemplate_of_not_text hno]
    exact ⟨rfl, rfl⟩

/-- Executors answer and use their drivers before the eyes of a log as they do without. -/
theorem lookAlike_logWatch (x : Executor) (d : Driver) (rs : List Executor.Request)
    (hcounts : ∀ r ∈ rs, HasCount x r) :
    let o := logWatch threshold level stamp s m query
    x.LookAlike o { o with event := none } d rs := by
  refine Executor.lookAlike_of_raiseAlike (fun r hr op subject c hquery form => ?_) d
  have hcount := hcounts r hr op subject c hquery form
  have hquiet : ∀ e : Event, e.metadata = m → e.partCount = none → e.expressionCount = none →
      e.paramCount = some c.params.length → logObserver threshold level stamp s e = none := by
    intro e hm hparts hexpressions hparams
    refine (logObserver_eq_none_iff of hm ⟨?_, ?_, ?_⟩).mpr loggable
    · rw [hparts]
      nofun
    · rw [hexpressions]
      nofun
    · rw [hparams]
      rintro n ⟨⟩
      exact hcount
  exact ⟨fun id => hquiet _ rfl rfl rfl rfl, fun failure => rfl,
    fun id failure => hquiet _ rfl rfl rfl rfl⟩

/-- Metadata that can be logged makes a log an observer without a difference. -/
theorem noDifference : NoDifference (logWatch threshold level stamp s m query) where
  making := makeTemplate_logWatch of loggable query
  running := lookAlike_logWatch of loggable query

end Loggable

end Observer

/-- Logging an event fails if and only if something in it is nested too deeply or the keys of a
dictionary in it do not agree.  Otherwise it leaves the state as it is and adds one line, if the
log takes any, which is JSON if and only if all floating point numbers are finite.  As an observer,
a log raises nothing at an event whose metadata can be logged, and then it makes no difference. -/
theorem logging_fails_for_keys_and_depth_alone (threshold level : Int) (stamp : Event → Stamp) :
    (∀ {s : Store} {r : Record} {es : List (Val × Data)}, r.Of s es →
      Logging threshold level s r es) ∧
    ∀ {s : Store} {m : Metadata} {es : List (Val × Data)}, m.Of s es →
      (∀ e : Event, e.metadata = m → e.Countable →
        (logObserver threshold level stamp s e = none
          ↔ (Data.dict es).depth ≤ Value.depthLimit ∧ (Data.dict es).Sortable)) ∧
      ((Data.dict es).depth ≤ Value.depthLimit ∧ (Data.dict es).Sortable →
        ∀ query, NoDifference (logWatch threshold level stamp s m query)) :=
  ⟨fun of => logging of threshold level, fun of =>
    ⟨fun _ hm countable => logObserver_eq_none_iff of hm countable, fun loggable query =>
      noDifference of loggable query⟩⟩

/-- Metadata with a list in a dictionary. -/
theorem logging_fails_for_keys_and_depth_alone_of_nested_metadata :
    let s : Store := { objects := #[.list #[.int 1, .none],
      .dict #[(.str "b", .object 0), (.str "a", .bool true)]] }
    let m : Metadata := [("d", .object 1)]
    let es : List (Val × Data) :=
      [(.str "d", .dict [(.str "b", .list [.int 1, .none]), (.str "a", .bool true)])]
    let stamp : Stamp := ⟨"now", 0, fun _ => "q"⟩
    let r := (Event.queryStart "sqlite" "execute" m 0 2).record (.str "now") (.float 0) (.object 2)
      fun _ => "q"
    m.Of s es ∧ NoDifference (logWatch 20 20 (fun _ => stamp) s m none) ∧
      ∃ line, logged 20 20 r (storeWith s m) = .ok [line] (storeWith s m) ∧
        (LogTree.read? line.toList).isSome := by
  intro s m es stamp r
  have hone {s : Store} : HasText s (.int 1) := hasText_digit (by decide)
  have of : m.Of s es := by
    refine ⟨2, _, rfl, rfl, nofun, _, _, rfl, hasText_str _, ?_, rfl⟩
    refine ⟨1, _, rfl, rfl, by decide, _, _, rfl, hasText_str _, ?_,
      _, _, rfl, hasText_str _, rfl, rfl⟩
    exact ⟨0, _, rfl, rfl, by decide, _, _, rfl, ⟨rfl, hone⟩, _, _, rfl, rfl, rfl⟩
  have loggable : (Data.dict es).depth ≤ Value.depthLimit ∧ (Data.dict es).Sortable := by
    refine ⟨by decide, .inl ?_, ⟨.inl ?_, ⟨trivial, trivial, trivial⟩, trivial, trivial⟩, trivial⟩
    · unfold AllTexts; decide
    · unfold AllTexts; decide
  have countable : (Event.queryStart "sqlite" "execute" m 0 2).Countable :=
    Event.countable_queryStart (Nat.lt_of_lt_of_le (by decide) ten_le_digitBound)
  obtain ⟨records, observers⟩ := logging_fails_for_keys_and_depth_alone 20 20 fun _ => stamp
  obtain ⟨line, hline, hjson⟩ := (records (Event.record_of stamp countable of)).line
    ((Event.loggable_data_iff stamp _ _).mpr loggable)
  refine ⟨of, (observers of).2 loggable none, line, hline, hjson.mpr ?_⟩
  simp [Event.data, Event.queryStart, optionalData, countData, Data.EntriesFinite, Data.Finite,
    Data.ItemsFinite, es]

set_option maxRecDepth 4000 in
/-- A dictionary with an integer and a text as keys keeps an event from being logged, and a value
that is no number makes a line that is no JSON. -/
theorem event_with_mixed_keys_is_not_logged :
    let stamp : Stamp := ⟨"now", 0, fun _ => "q"⟩
    let e (m : Metadata) := Event.queryStart "sqlite" "execute" m 0 2
    let s : Store := { objects := #[.dict #[(.int 1, .str "a"), (.str "b", .int 2)]] }
    let m : Metadata := [("d", .object 0)]
    let m' : Metadata := [("x", .nan 0)]
    m.Of s [(.str "d", .dict [(.int 1, .text "a"), (.str "b", .int 2)])] ∧
      (∃ s', logEvent 20 20 stamp (e m) s = .error .wrongType s') ∧
      m'.Of {} [(.str "x", .notANumber)] ∧
      ∃ line s', logEvent 20 20 stamp (e m') {} = .ok [line] s' ∧
        LogTree.read? line.toList = none := by
  intro stamp e s m m'
  have hfails : fault? (logEvent 20 20 stamp (e m) s) = some .wrongType := by cbv
  have countable {m : Metadata} : (e m).Countable :=
    Event.countable_queryStart (Nat.lt_of_lt_of_le (by decide) ten_le_digitBound)
  have of' : m'.Of {} [(.str "x", .notANumber)] :=
    ⟨0, _, rfl, rfl, List.not_mem_nil, _, _, rfl, hasText_str _, ⟨0, rfl⟩, rfl⟩
  refine ⟨?_, ?_, of', ?_⟩
  · refine ⟨1, _, rfl, rfl, List.not_mem_nil, _, _, rfl, hasText_str _, ?_, rfl⟩
    exact ⟨0, _, rfl, rfl, by decide, _, _, rfl, hasText_digit (by decide), rfl,
      _, _, rfl, hasText_str _, ⟨rfl, hasText_digit (by decide)⟩, rfl⟩
  · generalize logEvent 20 20 stamp (e m) s = result at hfails
    cases result with
    | ok lines s' => cases hfails
    | error f s' => exact ⟨s', congrArg (EStateM.Result.error · s') (Option.some.inj hfails)⟩
  · have loggable : (Data.dict [(.str "x", .notANumber)]).depth ≤ Value.depthLimit
        ∧ (Data.dict [(.str "x", .notANumber)]).Sortable := by
      refine ⟨by decide, .inl ?_, trivial, trivial⟩
      unfold AllTexts
      decide
    obtain ⟨line, hline, hjson⟩ := exists_line_of_logEvent 20 20 stamp of' countable loggable
    refine ⟨line, _, hline, ?_⟩
    rw [← Option.not_isSome_iff_eq_none, hjson]
    simp [Event.data, Data.EntriesFinite, Data.Finite]

end BoundSql.Execution
