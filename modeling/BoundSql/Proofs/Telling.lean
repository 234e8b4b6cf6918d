import BoundSql.Proofs.Sending
set_option autoImplicit false

/-!
# What observers are told

Observers are told of each query in a block of its own: an event at the begin, an observation of how
the query went, and an event at the end.  This module shows that the blocks of a run come one after
the other, in the order of the queries, as long as no observer fails and no error of the driver is
fatal (`Driver.Ordinary`).

What is told is a part of the trace (`Trace.notices`), between the calls on the driver.  A query
that goes in one of the ways of `Driven` adds its calls and one block around them
(`notices_of_driven`), and a request of any other kind tells nothing (`Answered.notices`), so that
the notices of a run are those of its queries in order (`History.notices_eq`).  The number of a
query is the number of queries before it, hence different queries have different numbers
(`History.queryId_pairwise`).

An observer that raises something is heard: what it raises takes the place of what the query came
to, and the event at the end may be missing.  `Hooked` says of a query in general when the end is
told, and a run in which an observer hides a refusal is given at the end.
-/

namespace BoundSql.Execution

open BoundSql.Observe (ErrorInfo Event Observation)
open BoundSql.Query (Compiled)
open BoundSql.Value (Val)

/-! ## Notices -/

/-- Whether an entry of a trace is something that an observer is told. -/
def Entry.isNotice : Entry → Bool
  | call _ => false
  | event _ | observation _ => true

/-- What observers are told, without the calls on the driver. -/
def Trace.notices (t : Trace) : Trace := t.filter Entry.isNotice

namespace Trace

@[simp] theorem notices_append (t u : Trace) : notices (t ++ u) = notices t ++ notices u :=
  List.filter_append t u

@[simp] theorem notices_map_call (cs : List Call) : notices (cs.map .call) = [] := by
  rw [notices, List.filter_eq_nil_iff]
  intro e he
  obtain ⟨c, -, rfl⟩ := List.mem_map.mp he
  exact Bool.false_ne_true

end Trace

namespace Observers

@[simp] theorem notices_told (o : Observers) (e : Event) : Trace.notices (o.told e) = o.told e := by
  rw [told]
  split <;> rfl

@[simp] theorem notices_shown (o : Observers) (seen : Observation) :
    Trace.notices (o.shown seen) = o.shown seen := by
  rw [shown]
  split <;> rfl

/-- An observer of events is told of nothing but the event. -/
theorem eq_of_mem_events_told {o : Observers} {e e' : Event}
    (h : e' ∈ Trace.events (o.told e)) : e' = e := by
  rw [told] at h
  split at h
  · exact List.mem_singleton.mp h
  · cases h

@[simp] theorem events_shown (o : Observers) (seen : Observation) :
    Trace.events (o.shown seen) = [] := by
  rw [shown]
  split <;> rfl

end Observers

@[simp] theorem Trace.events_map_call (cs : List Call) : Trace.events (cs.map .call) = [] := by
  rw [events, List.filterMap_eq_nil_iff]
  intro e he
  obtain ⟨c, -, rfl⟩ := List.mem_map.mp he
  rfl

/-! ## Ordinary failures -/

/-- A driver that raises nothing fatal. -/
def Driver.Ordinary (d : Driver) : Prop := ∀ before c r, d before c = .error r → r.fatal = false

theorem Failure.info?_raised {r : Raised} (h : r.fatal = false) :
    (raised r).info? = some ⟨r.kind, r.message⟩ := by
  obtain ⟨kind, message, fatal⟩ := r
  cases h
  rfl

theorem lockedDriver_ordinary : lockedDriver.Ordinary := by
  intro before c r h
  cases c with
  | execute on sql params =>
      rw [lockedDriver] at h
      split at h
      · cases h
        rfl
      · cases h
  | _ => cases h

namespace Executor

variable {x : Executor} {d : Driver}

/-- Observers are told of every failure of a query that nothing fatal caused. -/
theorem Driven.info? {op : Operation} {c : Compiled Val} {s : State} {calls : List Call}
    {f : Failure} (h : Driven x d op c s calls (.error f)) (ordinary : d.Ordinary)
    (unopenable : ∀ f, x.access = .own (.error f) → f = .noLibrary ∨ f = .unnamedOption) :
    f.info? = some ⟨f.kind, f.message⟩ := by
  have hreflects : Reflects d s.trace.calls calls (.error f : Except Failure Val) →
      f.info? = some ⟨f.kind, f.message⟩ := by
    intro reflects
    obtain ⟨q, hq, rfl⟩ := reflects.raises f rfl
    obtain ⟨before, hraises⟩ := exists_error_of_mem_failures (List.mem_of_getLast? hq)
    exact Failure.info?_raised (ordinary before q.1 q.2 hraises)
  cases h with
  | closed ended => rfl
  | unopenable alive access => rcases unopenable f access with rfl | rfl <;> rfl
  | lent alive access keeps reflects => exact hreflects reflects
  | refused alive access refuses => exact Failure.info?_raised (ordinary _ _ _ refuses)
  | own alive access opens keeps reflects => exact hreflects reflects

/-! ## Blocks -/

/-- The query that a request asks, if it asks one: the operation, and the text with its
parameters. -/
def asked? (x : Executor) : Request → Option (Operation × Compiled Val)
  | .query op subject => (x.form? subject).map (op, ·)
  | _ => none

/-- The failure that a caller receives, as observers are told of it. -/
def receivedError {α : Type} : Except Failure α → Option ErrorInfo
  | .ok _ => none
  | .error f => some ⟨f.kind, f.message⟩

/-- What the observers are told of a query that is answered with this reply. -/
def block {α : Type} (x : Executor) (op : Operation) (c : Compiled Val) (id : Nat)
    (reply : Except Failure α) : Trace :=
  let start : Event := {
    event := "query.start"
    component := x.component
    success := true
    metadata := x.observers.metadata
    operation := some op.name
    queryId := some id
    paramCount := some c.params.length }
  let seen : Observation := {
    dialect := x.component
    operation := op.name
    sql := c.sql
    paramCount := c.params.length
    succeeded := reply.isOk
    metadata := x.observers.metadata
    error := receivedError reply }
  let stop : Event := {
    event := "query.end"
    component := x.component
    success := reply.isOk
    metadata := x.observers.metadata
    operation := some op.name
    queryId := some id
    timed := true
    paramCount := some c.params.length
    error := receivedError reply }
  .event start :: ((if x.observers.query.isSome then [.observation seen] else []) ++ [.event stop])

/-- The blocks of the queries among turns, in order; the first query has the number `id`. -/
def blocks (x : Executor) : (id : Nat) → List Turn → Trace
  | _, [] => []
  | id, t :: ts =>
      match x.asked? t.request with
      | some (op, c) => x.block op c id t.reply ++ x.blocks (id + 1) ts
      | none => x.blocks id ts

theorem block_map {α β : Type} (g : α → β) (op : Operation) (c : Compiled Val) (id : Nat)
    (reply : Except Failure α) : x.block op c id (reply.map g) = x.block op c id reply := by
  cases reply <;> rfl

/-- Where the observers fail in nothing, and are told of every failure, a query leaves its
block. -/
theorem notices_of_driven {op : Operation} {c : Compiled Val} {id : Nat} {calls : List Call}
    {reply : Except Failure Val} (listens : x.observers.event.isSome = true)
    (informed : ∀ f, reply = .error f → f.info? = some ⟨f.kind, f.message⟩) :
    Trace.notices (x.observers.told (x.beginning op c id)
        ++ (calls.map .call ++ (x.observers.shown (x.account op c (failure? reply))
          ++ x.observers.told (x.conclusion op c id (failure? reply)))))
      = x.block op c id reply := by
  have hinfo : (failure? reply).bind Failure.info? = receivedError reply := by
    cases reply with
    | ok v => rfl
    | error f => exact informed f rfl
  have hok : (receivedError reply).isNone = reply.isOk := by
    cases reply <;> rfl
  simp only [Trace.notices_append, Trace.notices_map_call, Observers.notices_told,
    Observers.notices_shown, List.nil_append]
  rw [Observers.told, Observers.told, if_pos listens, if_pos listens, Observers.shown, account,
    conclusion, beginning, hinfo, Event.queryEnd, hok]
  rfl

/-- A turn tells the block of its query, with the number of queries before it, and another turn
nothing. -/
theorem Answered.notices {s u : State} {r : Request} {reply : Except Failure Reply}
    {entries : Trace} (h : Answered x d s r reply entries u) (quiet : x.observers.Quiet)
    (listens : x.observers.event.isSome = true) (ordinary : d.Ordinary)
    (unopenable : ∀ f, x.access = .own (.error f) → f = .noLibrary ∨ f = .unnamedOption)
    (ts : List Turn) :
    entries.notices ++ x.blocks u.queries ts = x.blocks s.queries (⟨r, reply, entries⟩ :: ts) := by
  cases h with
  | @query op subject c reply entries form queried =>
      obtain ⟨calls, driven, rfl⟩ := queried.of_quiet quiet
      have hasked : x.asked? (.query op subject) = some (op, c) := by
        rw [asked?, form, Option.map_some]
      have hinformed : ∀ f, reply = .error f → f.info? = some ⟨f.kind, f.message⟩ := by
        rintro f rfl
        exact driven.info? ordinary unopenable
      rw [notices_of_driven listens hinformed, ← block_map Reply.value, blocks, hasked]
      rfl
  | @notQuery op subject form =>
      have hasked : x.asked? (.query op subject) = none := by
        rw [asked?, form, Option.map_none]
      rw [blocks, hasked]
      rfl
  | enter => rfl
  | exit => rfl
  | close => rfl

theorem History.notices_eq {s u : State} {ts : List Turn} (h : History x d s ts u)
    (quiet : x.observers.Quiet) (listens : x.observers.event.isSome = true)
    (ordinary : d.Ordinary)
    (unopenable : ∀ f, x.access = .own (.error f) → f = .noLibrary ∨ f = .unnamedOption) :
    Trace.notices (ts.flatMap Turn.entries) = x.blocks s.queries ts := by
  induction h with
  | nil s => rfl
  | cons trace answered rest ih =>
      rw [List.flatMap_cons, Trace.notices_append, ih]
      exact answered.notices quiet listens ordinary unopenable _

/-! ## Numbers of queries -/

/-- All events of a query carry the number of queries before it. -/
theorem Answered.queryId {s u : State} {r : Request} {reply : Except Failure Reply}
    {entries : Trace} (h : Answered x d s r reply entries u) :
    ∀ e ∈ entries.events, e.queryId = some s.queries ∧ s.queries < u.queries := by
  cases h with
  | @query op subject c reply entries form queried =>
      intro e he
      have hbehind : s.queries < (behindQuery s entries).queries := Nat.lt_succ_self _
      refine ⟨?_, hbehind⟩
      cases queried with
      | unbegun begins =>
          rw [Observers.eq_of_mem_events_told he]
          rfl
      | unreported begins driven reports =>
          simp only [Trace.events_append, Trace.events_map_call, Observers.events_shown,
            List.append_nil] at he
          rw [Observers.eq_of_mem_events_told he]
          rfl
      | concluded begins driven reports =>
          simp only [Trace.events_append, Trace.events_map_call, Observers.events_shown,
            List.nil_append] at he
          rcases List.mem_append.mp he with he | he
          · rw [Observers.eq_of_mem_events_told he]
            rfl
          · rw [Observers.eq_of_mem_events_told he]
            rfl
  | notQuery form => intro e he; cases he
  | enter => intro e he; cases he
  | exit => intro e he; cases he
  | close => intro e he; cases he

theorem Answered.queries_le {s u : State} {r : Request} {reply : Except Failure Reply}
    {entries : Trace} (h : Answered x d s r reply entries u) : s.queries ≤ u.queries := by
  cases h with
  | query form queried => exact Nat.le_succ _
  | notQuery form => exact Nat.le_refl _
  | enter => exact Nat.le_refl _
  | exit => exact Nat.le_refl _
  | close => exact Nat.le_refl _

theorem History.le_queryId {s u : State} {ts : List Turn} (h : History x d s ts u) :
    ∀ t ∈ ts, ∀ e ∈ t.entries.events, ∃ n, e.queryId = some n ∧ s.queries ≤ n := by
  induction h with
  | nil s =>
      intro t ht
      cases ht
  | cons trace answered rest ih =>
      intro t ht e he
      rcases List.mem_cons.mp ht with rfl | ht
      · exact ⟨_, (answered.queryId e he).1, Nat.le_refl _⟩
      · obtain ⟨n, hn, hle⟩ := ih t ht e he
        exact ⟨n, hn, Nat.le_trans answered.queries_le hle⟩

/-- Events of different turns belong to different queries. -/
theorem History.queryId_pairwise {s u : State} {ts : List Turn} (h : History x d s ts u) :
    ts.Pairwise fun t t' => ∀ e ∈ t.entries.events, ∀ e' ∈ t'.entries.events,
      e.queryId ≠ e'.queryId := by
  induction h with
  | nil s => exact .nil
  | cons trace answered rest ih =>
      refine .cons ?_ ih
      -- The later events carry at least the number of the state behind this turn.
      intro t ht e he e' he' heq
      obtain ⟨hid, hlt⟩ := answered.queryId e he
      obtain ⟨n, hn, hle⟩ := rest.le_queryId t ht e' he'
      rw [hid, hn, Option.some.injEq] at heq
      omega

/-! ## Whole runs -/

/-- What holds of the notices in a whole run of a new executor. -/
structure Reported (x : Executor) (d : Driver) (rs : List Request) : Prop where
  /-- there is one turn for each request -/
  turns : ComesOf x d rs (x.turns d rs {})
  /-- the observers are told the blocks of the queries, one after the other -/
  notices : (x.answerAll d rs {}).2.trace.notices = x.blocks 0 (x.turns d rs {})
  /-- the text and the parameters of a query are those that the driver is sent -/
  sends : ∀ t ∈ x.turns d rs {}, ∀ op c, x.asked? t.request = some (op, c) →
    t.Sends c.sql (x.driverParams op c.params)
  /-- different queries have different numbers -/
  numbers : (x.turns d rs {}).Pairwise fun t t' =>
    ∀ e ∈ t.entries.events, ∀ e' ∈ t'.entries.events, e.queryId ≠ e'.queryId

/-- Over whole runs, and however a driver fails that raises nothing fatal, observers that raise
nothing are told of the queries in blocks: of the begin under a number of its own, of how the query
went if someone observes queries, and of the end, with the failure that the caller receives. -/
theorem queries_reported_in_blocks {setup : Setup} {store store' : Value.Store} {x : Executor}
    (made : setup.executor store = .ok (.ok x) store')
    (listens : x.observers.event.isSome = true) (quiet : x.observers.Quiet) {d : Driver}
    (ordinary : d.Ordinary) (rs : List Request) : Reported x d rs := by
  have hmade := setup.makes_of_executor made
  obtain ⟨-, -, hhistory⟩ := history_turns x d rs {}
  constructor
  case turns => exact comesOf_turns x d rs
  case notices =>
    rw [(comesOf_turns x d rs).trace]
    exact hhistory.notices_eq quiet listens ordinary hmade.unopenable
  case sends =>
    intro t ht op c asks
    obtain ⟨s, u, hanswered⟩ := exists_answered_of_mem_turns ht
    cases hrequest : t.request with
    | query op' subject =>
        rw [hrequest, asked?] at asks
        obtain ⟨c', form, heq⟩ := Option.map_eq_some_iff.mp asks
        cases heq
        exact hanswered.sends hrequest form
    | _ =>
        rw [hrequest] at asks
        cases asks
  case numbers => exact hhistory.queryId_pairwise

/-- A run in which a statement is refused, and a query is asked after the end of the executor's
life. -/
theorem queries_reported_in_blocks_of_refused_statement :
    let observers : Observers := { query := some fun _ => none, event := some fun _ => none }
    let setup : Setup := { dialect := .sqlite, info := .str "file.db", observers }
    let x : Executor := {
      dialect := .sqlite
      access := .own (.ok ⟨[.str "file.db"], []⟩)
      compiler := Dialect.sqlite.compiler
      component := componentOf "SqliteExecutor"
      observers }
    let q : Query.Sql Val := ⟨[.literal "select ", .argument (.int 1)]⟩
    let rs : List Request :=
      [.query .executeRaw (.raw "drop table t"), .close, .query .fetchAll (.query q)]
    setup.executor {} = .ok (.ok x) {} ∧ x.observers.event.isSome = true ∧ x.observers.Quiet
      ∧ lockedDriver.Ordinary ∧ Reported x lockedDriver rs
      ∧ (x.answerAll lockedDriver rs {}).2.trace.notices
        = x.block .executeRaw ⟨"drop table t", []⟩ 0
            (.error (.raised ⟨"OperationalError", "table is locked", false⟩) : Except Failure Val)
          ++ x.block .fetchAll ⟨"select ?", [.int 1]⟩ 1 (.error .closed : Except Failure Val) := by
  intro observers setup x q rs
  have made : setup.executor {} = .ok (.ok x) {} := rfl
  have quiet : x.observers.Quiet := ⟨fun _ => rfl, fun _ => rfl⟩
  have hreported := queries_reported_in_blocks made rfl quiet lockedDriver_ordinary rs
  refine ⟨made, rfl, quiet, lockedDriver_ordinary, hreported, ?_⟩
  rw [hreported.notices]
  rfl

/-! ## Observers that fail -/

/-- How the turn of a query comes out, given what the observers raise: `out` is what came of the
query on the driver, if it got there. -/
structure Hooked (x : Executor) (d : Driver) (before : List Call) (op : Operation)
    (c : Compiled Val) (id : Nat) (out : Except Failure Val) (t : Turn) : Prop where
  /-- a query whose begin is met with an error does not get to the driver -/
  unbegun : ∀ r, x.observers.eventRaises (x.beginning op c id) = some r →
    t.calls = [] ∧ t.entries.events = [x.beginning op c id] ∧ t.reply = .error (.raised r)
  driven : x.observers.eventRaises (x.beginning op c id) = none →
    ∃ s, s.trace.calls = before ∧ Driven x d op c s t.calls out
  /-- an error of the observer of queries takes the place of the end, and of what came of the
  query on the driver -/
  unended : x.observers.eventRaises (x.beginning op c id) = none →
    ∀ r, x.observers.queryRaises (x.account op c (failure? out)) = some r →
      t.entries.events = [x.beginning op c id] ∧ t.reply = .error (.raised r)
  /-- without such an error the end is told once, and the caller receives what came of the query
  unless the end is met with an error -/
  ended : x.observers.eventRaises (x.beginning op c id) = none →
    x.observers.queryRaises (x.account op c (failure? out)) = none →
      t.entries.events = [x.beginning op c id, x.conclusion op c id (failure? out)]
        ∧ t.reply = (telling (x.observers.eventRaises (x.conclusion op c id (failure? out)))
          >>= fun _ => out).map .value

theorem Queried.hooked {op : Operation} {c : Compiled Val} {s : State}
    {reply : Except Failure Val} {entries : Trace} (h : Queried x d op c s reply entries)
    (listens : x.observers.event.isSome = true) (r : Request) :
    ∃ out, Hooked x d s.trace.calls op c s.queries out ⟨r, reply.map .value, entries⟩ := by
  have htold : ∀ e, Trace.events (x.observers.told e) = [e] := by
    intro e
    rw [Observers.told, if_pos listens]
    rfl
  cases h with
  | @unbegun raised begins =>
      refine ⟨.error (.raised raised), ?_, ?_, ?_, ?_⟩
      · intro raised' begins'
        cases begins.symm.trans begins'
        exact ⟨by simp [Turn.calls], htold _, rfl⟩
      all_goals
        intro begins'
        cases begins.symm.trans begins'
  | @unreported calls out raised begins driven reports =>
      refine ⟨out, ?_, ?_, ?_, ?_⟩
      · intro raised' begins'
        cases begins.symm.trans begins'
      · intro _
        exact ⟨s, rfl, by simpa [Turn.calls, Trace.calls_map_call] using driven⟩
      · intro _ raised' reports'
        cases reports.symm.trans reports'
        exact ⟨by simp [htold], rfl⟩
      · intro _ reports'
        cases reports.symm.trans reports'
  | @concluded calls out begins driven reports =>
      refine ⟨out, ?_, ?_, ?_, ?_⟩
      · intro raised' begins'
        cases begins.symm.trans begins'
      · intro _
        exact ⟨s, rfl, by simpa [Turn.calls, Trace.calls_map_call] using driven⟩
      · intro _ raised' reports'
        cases reports.symm.trans reports'
      · intro _ _
        exact ⟨by simp [htold], rfl⟩

/-- An executor on a lent connection that is watched by failing observers. -/
def watchedExecutor : Executor where
  dialect := .sqlite
  access := .lent
  compiler := Dialect.sqlite.compiler
  component := componentOf "SqliteExecutor"
  observers := failingObservers

/-- In whole runs, whatever the driver and the observers do, the end of a query is told once and
under the number of its begin if no observer raises something before, and it is not told
otherwise.  What comes of the query on the driver reaches the caller if no observer raises
anything. -/
theorem query_end_told_unless_observer_raises (x : Executor) (d : Driver) (rs : List Request)
    (listens : x.observers.event.isSome = true) {pre post : List Turn} {t : Turn}
    (run : x.turns d rs {} = pre ++ t :: post) {op : Operation} {c : Compiled Val}
    (asks : x.asked? t.request = some (op, c)) :
    ∃ id out, Hooked x d (pre.flatMap Turn.calls) op c id out t := by
  obtain ⟨s, u, hbefore, -, hanswered⟩ := exists_answered_of_turns_eq run
  rw [← hbefore]
  obtain ⟨request, reply, entries⟩ := t
  cases hanswered with
  | query form queried =>
      obtain ⟨c', form', heq⟩ := Option.map_eq_some_iff.mp asks
      cases heq
      cases form.symm.trans form'
      exact ⟨s.queries, queried.hooked listens _⟩
  | notQuery form =>
      obtain ⟨c', form', -⟩ := Option.map_eq_some_iff.mp asks
      cases form.symm.trans form'
  | enter => cases asks
  | exit => cases asks
  | close => cases asks

/-- The turn of a statement that is refused before the eyes of an observer that fails. -/
theorem query_end_told_unless_observer_raises_of_refused_statement :
    let r : Request := .query .executeRaw (.raw "drop table t")
    let x := watchedExecutor
    let t : Turn := (x.turn lockedDriver r {}).1
    x.observers.event.isSome = true ∧ x.turns lockedDriver [r] {} = [] ++ t :: []
      ∧ x.asked? t.request = some (.executeRaw, ⟨"drop table t", []⟩)
      ∧ ∃ id out, Hooked x lockedDriver [] .executeRaw ⟨"drop table t", []⟩ id out t := by
  intro r x t
  have run : x.turns lockedDriver [r] {} = [] ++ t :: [] := rfl
  have asks : x.asked? t.request = some (.executeRaw, ⟨"drop table t", []⟩) := rfl
  exact ⟨rfl, run, asks, query_end_told_unless_observer_raises x lockedDriver [r] rfl run asks⟩

/-- The driver refuses a statement, but the caller receives what the observer raised instead, and
the query that began has no end. -/
theorem refusal_hidden_by_failing_observer :
    let setup : Setup := { dialect := .sqlite, lent := true, observers := failingObservers }
    let x := watchedExecutor
    let c : Compiled Val := ⟨"drop table t", []⟩
    setup.executor {} = .ok (.ok x) {}
      ∧ (∃ u, x.runOnConnection lockedDriver .executeRaw c {}
        = .error (.raised ⟨"OperationalError", "table is locked", false⟩) u)
      ∧ ∃ u, x.query lockedDriver .executeRaw (.raw c.sql) {}
          = .error (.raised ⟨"ObserverError", "obs", false⟩) u
        ∧ u.trace.events = [x.beginning .executeRaw c 0]
        ∧ (∃ e ∈ u.trace.events, e.event = "query.start")
        ∧ ∀ e ∈ u.trace.events, e.event ≠ "query.end" := by
  intro setup x c
  have hevents : ∀ e ∈ [x.beginning .executeRaw c 0], e.event ≠ "query.end" := by
    intro e he
    rw [List.mem_singleton.mp he]
    decide
  exact ⟨rfl, ⟨_, rfl⟩, _, rfl, rfl, ⟨_, List.mem_singleton.mpr rfl, rfl⟩, hevents⟩

end Executor

end BoundSql.Execution
