import BoundSql.Proofs.Driving
set_option autoImplicit false

/-!
# Turns of a run

An executor answers requests one after the other.  A turn is one request with what came of it: the
reply, and the entries that it added to the trace.  `Queried` lists the ways in which a query can go
between its two events, and `Answered` the ways in which any request can be answered; what holds of
all turns of a run is shown over its history, one turn after the other (`History`).

A query is wrapped twice.  Inside is what is asked of the driver; around it stand the observations,
which are made whatever it came to, and the events, which are told before and after.  Each of the
three may raise something, and what comes out is decided by the one that is last.  `Queried` has a
case for each place where that can happen, and for quiet observers it comes down to the driver alone
(`Queried.of_quiet`).

`Makes` says what an executor has from the setup that it was made of, and `ComesOf` that turns are
what comes of requests to a new executor.  Properties of whole runs are then statements about one
`Answered`, with the state that the turns before it have left.
-/

namespace BoundSql.Execution

open BoundSql.Observe (Event Observation)
open BoundSql.Query (Compiled)
open BoundSql.Value (Val)

/-! ## Executors that are made -/

/-- Options that are refused before a driver is asked are those that are not named by texts. -/
theorem Opening.eq_unnamedOption_of_ofServer {info : Val} {store store' : Value.Store}
    {f : Failure} (h : Opening.ofServer info store = .ok (.error f) store') :
    f = .unnamedOption := by
  cases info with
  | object address =>
      rw [ofServer] at h
      obtain ⟨content, s, -, hcontent⟩ := bind_eq_ok_iff.mp h
      cases content with
      | dict entries =>
          obtain ⟨hoptions, -⟩ := pure_eq_ok_iff.mp hcontent
          rw [ofOptions] at hoptions
          split at hoptions
          · cases hoptions
          · exact (Except.error.inj hoptions).symm
      | _ => cases hcontent
  | _ => cases h

namespace Setup

variable {setup : Setup} {access : Access} {store store' : Value.Store}

/-- A connection that is lent is used, also where one could be opened. -/
theorem access_of_lent (lent : setup.lent = true)
    (h : setup.access store = .ok (.ok access) store') : access = .lent := by
  obtain ⟨dialect, info, _, timeout, _, _, _, _⟩ := setup
  cases lent
  cases dialect with
  | sqlite =>
      cases h
      rfl
  | postgres =>
      cases timeout with
      | some seconds => cases h
      | none =>
          cases h
          rfl

/-- Where no connection is lent, connections are opened, unless that is known to be impossible. -/
theorem access_of_not_lent (lent : setup.lent = false)
    (h : setup.access store = .ok (.ok access) store') :
    ∃ opening, access = .own opening
      ∧ ∀ f, opening = .error f → f = .noLibrary ∨ f = .unnamedOption := by
  obtain ⟨dialect, info, _, timeout, _, installed, _, _⟩ := setup
  cases lent
  cases dialect with
  | sqlite => cases info <;> cases h <;> exact ⟨_, rfl, fun f hf => by cases hf⟩
  | postgres =>
  cases timeout with
  | some seconds => cases info <;> cases h
  | none =>
  cases installed with
  | false =>
      cases info <;> cases h <;>
        exact ⟨_, rfl, fun f hf => .inl (Except.error.inj hf).symm⟩
  | true =>
      have hown : ∀ info : Val, (Opening.ofServer info >>= fun opening =>
          pure (.ok (.own opening)) : Value.Eval (Except SetupError Access)) store
            = .ok (.ok access) store' → ∃ opening, access = .own opening
              ∧ ∀ f, opening = .error f → f = .noLibrary ∨ f = .unnamedOption := by
        intro info h
        obtain ⟨opening, s, hrun, hanswer⟩ := bind_eq_ok_iff.mp h
        obtain ⟨heq, -⟩ := pure_eq_ok_iff.mp hanswer
        cases heq
        refine ⟨opening, rfl, ?_⟩
        rintro f rfl
        exact .inr (Opening.eq_unnamedOption_of_ofServer hrun)
      cases info with
      | none => cases h
      | _ => exact hown _ h

/-- What an executor has from its setup. -/
structure Makes (setup : Setup) (x : Executor) : Prop where
  dialect : x.dialect = setup.dialect
  compiler : x.compiler = setup.compiler.getD setup.dialect.compiler
  observers : x.observers = setup.observers
  lent : setup.lent = true → x.access = .lent
  own : setup.lent = false → ∃ opening, x.access = .own opening
  unopenable : ∀ f, x.access = .own (.error f) → f = .noLibrary ∨ f = .unnamedOption

theorem makes_of_executor {x : Executor}
    (made : setup.executor store = .ok (.ok x) store') : setup.Makes x := by
  rw [executor] at made
  obtain ⟨result, s, hrun, hanswer⟩ := bind_eq_ok_iff.mp made
  obtain ⟨heq, -⟩ := pure_eq_ok_iff.mp hanswer
  cases result with
  | error e => cases heq
  | ok access =>
      cases heq
      refine ⟨rfl, rfl, rfl, fun lent => access_of_lent lent hrun, ?_, ?_⟩
      · intro lent
        obtain ⟨opening, own, -⟩ := access_of_not_lent lent hrun
        exact ⟨opening, own⟩
      · intro f hf
        cases lent : setup.lent with
        | true =>
            rw [access_of_lent lent hrun] at hf
            cases hf
        | false =>
            obtain ⟨opening, rfl, hopening⟩ := access_of_not_lent lent hrun
            exact hopening f (Access.own.inj hf)

end Setup

/-! ## Observers -/

namespace Observers

/-- What the observer of events raises when it is told of an event. -/
def eventRaises (o : Observers) (e : Event) : Option Raised := o.event.bind fun tell => tell e

/-- What the observer of queries raises when it is told how a query went. -/
def queryRaises (o : Observers) (seen : Observation) : Option Raised :=
  o.query.bind fun tell => tell seen

/-- What an event leaves in the trace. -/
def told (o : Observers) (e : Event) : Trace := if o.event.isSome then [.event e] else []

/-- What an observation leaves in the trace. -/
def shown (o : Observers) (seen : Observation) : Trace :=
  if o.query.isSome then [.observation seen] else []

/-- Observers that never raise anything. -/
structure Quiet (o : Observers) : Prop where
  event : ∀ e, o.eventRaises e = none
  query : ∀ seen, o.queryRaises seen = none

@[simp] theorem calls_told (o : Observers) (e : Event) : Trace.calls (o.told e) = [] := by
  rw [told]
  split <;> rfl

@[simp] theorem calls_shown (o : Observers) (seen : Observation) :
    Trace.calls (o.shown seen) = [] := by
  rw [shown]
  split <;> rfl

variable {o : Observers} {r : Raised}

theorem mem_events_told {e : Event} (h : o.eventRaises e = some r) :
    e ∈ Trace.events (o.told e) := by
  rw [eventRaises] at h
  cases hevent : o.event with
  | none =>
      rw [hevent] at h
      cases h
  | some tell => simp [told, hevent, Trace.events]

theorem mem_observations_shown {seen : Observation} (h : o.queryRaises seen = some r) :
    seen ∈ Trace.observations (o.shown seen) := by
  rw [queryRaises] at h
  cases hquery : o.query with
  | none =>
      rw [hquery] at h
      cases h
  | some tell => simp [shown, hquery, Trace.observations]

end Observers

/-- The outcome of telling an observer. -/
def telling : Option Raised → Except Failure Unit
  | some r => .error (.raised r)
  | none => .ok ()

namespace Executor

theorem emit_run (x : Executor) (e : Event) (s : State) :
    x.emit e s = ending (telling (x.observers.eventRaises e)) (s.traced (x.observers.told e)) := by
  rw [emit, Observers.eventRaises, Observers.told]
  cases x.observers.event with
  | none => simp [telling, pure, EStateM.pure]
  | some tell =>
      have hnote : Run.note (.event e) s = .ok () (s.traced [.event e]) := rfl
      refine (bind_of_ok hnote _).trans ?_
      cases htell : tell e <;> simp [telling, htell] <;> rfl

theorem report_run (x : Executor) (seen : Observation) (s : State) :
    x.report seen s
      = ending (telling (x.observers.queryRaises seen)) (s.traced (x.observers.shown seen)) := by
  rw [report, Observers.queryRaises, Observers.shown]
  cases x.observers.query with
  | none => simp [telling, pure, EStateM.pure]
  | some tell =>
      have hnote : Run.note (.observation seen) s = .ok () (s.traced [.observation seen]) := rfl
      refine (bind_of_ok hnote _).trans ?_
      cases htell : tell seen <;> simp [telling, htell] <;> rfl

/-! ## Queries between their events -/

/-- What may be asked as a query, as the text and the parameters that observers are told of. -/
def form? (x : Executor) : Subject → Option (Compiled Val)
  | .query q => some (x.compiler.compile q)
  | .compiled c => some c
  | .raw sql => some ⟨sql, []⟩
  | .other => none

/-- The event at the begin of a query. -/
def beginning (x : Executor) (op : Operation) (c : Compiled Val) (id : Nat) : Event :=
  .queryStart x.component op.name x.observers.metadata id c.params.length

/-- How a query went, given the failure that it ended with. -/
def account (x : Executor) (op : Operation) (c : Compiled Val) (failure : Option Failure) :
    Observation where
  dialect := x.component
  operation := op.name
  sql := c.sql
  paramCount := c.params.length
  succeeded := (failure.bind Failure.info?).isNone
  metadata := x.observers.metadata
  error := failure.bind Failure.info?

/-- The event at the end of a query, given the failure that the query ended with. -/
def conclusion (x : Executor) (op : Operation) (c : Compiled Val) (id : Nat)
    (failure : Option Failure) : Event :=
  .queryEnd x.component op.name x.observers.metadata id c.params.length
    (failure.bind Failure.info?)

/-- Tells observers that a query came to its end. -/
def conclude (x : Executor) (op : Operation) (c : Compiled Val) (id : Nat)
    (failure : Option Failure) : Run Unit := do
  x.report (x.account op c failure)
  x.emit (x.conclusion op c id failure)

/-- The ways in which a query can go from the state `s` on: the reply, and the entries of the trace.
An observer that raises something ends the query where it is told. -/
inductive Queried (x : Executor) (d : Driver) (op : Operation) (c : Compiled Val) (s : State) :
    Except Failure Val → Trace → Prop where
  /-- the observer of events raises something when it is told of the begin -/
  | unbegun {r : Raised} (begins : x.observers.eventRaises (x.beginning op c s.queries) = some r) :
      Queried x d op c s (.error (.raised r)) (x.observers.told (x.beginning op c s.queries))
  /-- the observer of queries raises something when it is told how the query went -/
  | unreported {calls : List Call} {out : Except Failure Val} {r : Raised}
      (begins : x.observers.eventRaises (x.beginning op c s.queries) = none)
      (driven : Driven x d op c s calls out)
      (reports : x.observers.queryRaises (x.account op c (failure? out)) = some r) :
      Queried x d op c s (.error (.raised r)) (x.observers.told (x.beginning op c s.queries)
        ++ (calls.map .call ++ x.observers.shown (x.account op c (failure? out))))
  /-- both observers are told of everything -/
  | concluded {calls : List Call} {out : Except Failure Val}
      (begins : x.observers.eventRaises (x.beginning op c s.queries) = none)
      (driven : Driven x d op c s calls out)
      (reports : x.observers.queryRaises (x.account op c (failure? out)) = none) :
      Queried x d op c s
        (telling (x.observers.eventRaises (x.conclusion op c s.queries (failure? out)))
          >>= fun _ => out)
        (x.observers.told (x.beginning op c s.queries)
          ++ (calls.map .call ++ (x.observers.shown (x.account op c (failure? out))
            ++ x.observers.told (x.conclusion op c s.queries (failure? out)))))

/-- The reply is something that an observer raised when it was told of what is in the trace. -/
def Interrupted {α : Type} (x : Executor) (reply : Except Failure α) (entries : Trace) : Prop :=
  ∃ r, reply = .error (.raised r) ∧ ((∃ e ∈ entries.events, x.observers.eventRaises e = some r)
    ∨ ∃ seen ∈ entries.observations, x.observers.queryRaises seen = some r)

/-- A query reaches the driver, unless the observer of events raises something before.  The reply
comes from the driver, unless an observer raises something behind. -/
theorem Queried.calls_cases {x : Executor} {d : Driver} {op : Operation} {c : Compiled Val}
    {s : State} {reply : Except Failure Val} {entries : Trace}
    (h : Queried x d op c s reply entries) :
    entries.calls = [] ∧ Interrupted x reply entries
      ∨ ∃ out, Driven x d op c s entries.calls out
        ∧ (reply = out ∨ Interrupted x reply entries) := by
  cases h with
  | @unbegun r begins =>
      exact .inl ⟨by simp, r, rfl, .inl ⟨_, Observers.mem_events_told begins, begins⟩⟩
  | @unreported calls out r begins driven reports =>
      refine .inr ⟨out, by simpa [Trace.calls_map_call] using driven, .inr ?_⟩
      have hmem := Observers.mem_observations_shown reports
      exact ⟨r, rfl, .inr ⟨_, by simp [hmem], reports⟩⟩
  | @concluded calls out begins driven reports =>
      refine .inr ⟨out, by simpa [Trace.calls_map_call] using driven, ?_⟩
      cases htell : x.observers.eventRaises (x.conclusion op c s.queries (failure? out)) with
      | none => exact .inl rfl
      | some r =>
          have hmem := Observers.mem_events_told htell
          exact .inr ⟨r, rfl, .inl ⟨_, by simp [hmem], htell⟩⟩

/-- Observers that raise nothing leave the reply to the driver. -/
theorem Queried.of_quiet {x : Executor} {d : Driver} {op : Operation} {c : Compiled Val}
    {s : State} {reply : Except Failure Val} {entries : Trace}
    (h : Queried x d op c s reply entries) (quiet : x.observers.Quiet) :
    ∃ calls, Driven x d op c s calls reply
      ∧ entries = x.observers.told (x.beginning op c s.queries)
        ++ (calls.map .call ++ (x.observers.shown (x.account op c (failure? reply))
          ++ x.observers.told (x.conclusion op c s.queries (failure? reply)))) := by
  cases h with
  | unbegun begins =>
      rw [quiet.event] at begins
      cases begins
  | unreported begins driven reports =>
      rw [quiet.query] at reports
      cases reports
  | @concluded calls out begins driven reports =>
      rw [quiet.event]
      exact ⟨calls, driven, rfl⟩

/-- How a query goes on the driver depends on the calls before it, on the number of connections
asked for, and on whether the life of the executor is over. -/
theorem Driven.of_state_eq {x : Executor} {d : Driver} {op : Operation} {c : Compiled Val}
    {s t : State} {calls : List Call} {out : Except Failure Val} (h : Driven x d op c t calls out)
    (before : t.trace.calls = s.trace.calls) (connects : t.connects = s.connects)
    (closed : t.closed = s.closed) : Driven x d op c s calls out := by
  cases h with
  | closed ended => exact .closed (closed ▸ ended)
  | unopenable alive access => exact .unopenable (closed ▸ alive) access
  | lent alive access keeps reflects =>
      rw [before] at keeps reflects
      exact .lent (closed ▸ alive) access keeps reflects
  | refused alive access refuses =>
      rw [before] at refuses
      exact .refused (closed ▸ alive) access refuses
  | own alive access opens keeps reflects =>
      rw [before] at opens keeps reflects ⊢
      rw [connects] at keeps reflects ⊢
      exact .own (closed ▸ alive) access opens keeps reflects

/-- The state behind a query that left these entries. -/
def behindQuery (s : State) (entries : Trace) : State where
  trace := s.trace ++ entries
  queries := s.queries + 1
  connects := s.connects + entries.calls.countP Call.isConnect
  closed := s.closed

section Query

variable {x : Executor} {d : Driver} {op : Operation} {c : Compiled Val}

theorem query_of_form? {subject : Subject} (form : x.form? subject = some c) :
    x.query d op subject = x.observed op c (x.runOnConnection d op c) := by
  cases subject with
  | query q =>
      cases form
      rfl
  | compiled c' =>
      cases form
      rfl
  | raw sql =>
      cases form
      rfl
  | other => cases form

theorem observed_run {α : Type} (run : Run α) (s : State) :
    x.observed op c run s = (do
      x.emit (x.beginning op c s.queries)
      run.ensuring (x.conclude op c s.queries) : Run α) { s with queries := s.queries + 1 } := rfl

theorem conclude_of_raises {failure : Option Failure} {r : Raised} {id : Nat}
    (h : x.observers.queryRaises (x.account op c failure) = some r) (s : State) :
    x.conclude op c id failure s
      = ending (.error (.raised r)) (s.traced (x.observers.shown (x.account op c failure))) := by
  have hreport := x.report_run (x.account op c failure) s
  rw [h] at hreport
  exact bind_of_error hreport _

theorem conclude_of_eq_none {failure : Option Failure} {id : Nat}
    (h : x.observers.queryRaises (x.account op c failure) = none) (s : State) :
    x.conclude op c id failure s
      = ending (telling (x.observers.eventRaises (x.conclusion op c id failure)))
        (s.traced (x.observers.shown (x.account op c failure)
          ++ x.observers.told (x.conclusion op c id failure))) := by
  have hreport := x.report_run (x.account op c failure) s
  rw [h] at hreport
  rw [conclude, bind_of_ok hreport, emit_run, State.traced_traced]

theorem behindQuery_eq {told : Trace} {calls : List Call} {rest : Trace}
    (htold : told.calls = []) (hrest : rest.calls = []) (s : State) :
    behindQuery s (told ++ (calls.map .call ++ rest))
      = ((State.traced { s with queries := s.queries + 1 } told).driven calls).traced rest := by
  simp [behindQuery, State.driven, State.called, State.traced, Trace.calls_map_call, htold, hrest]

/-- Nothing that is asked as a query goes in another way. -/
theorem exists_queried {subject : Subject} (form : x.form? subject = some c) (s : State) :
    ∃ reply entries, x.query d op subject s = ending reply (behindQuery s entries)
      ∧ Queried x d op c s reply entries := by
  rw [query_of_form? form, observed_run]
  have htold := x.observers.calls_told (x.beginning op c s.queries)
  have hbegin := x.emit_run (x.beginning op c s.queries) { s with queries := s.queries + 1 }
  cases begins : x.observers.eventRaises (x.beginning op c s.queries) with
  | some r =>
      rw [begins] at hbegin
      refine ⟨_, _, ?_, .unbegun begins⟩
      rw [bind_of_error hbegin, behindQuery, htold]
      rfl
  | none =>
      rw [begins] at hbegin
      rw [bind_of_ok hbegin]
      -- The query is driven behind the entry of the event, which does not matter to the driver.
      obtain ⟨calls, out, hrun, hdriven⟩ := exists_driven x d op c
        (State.traced { s with queries := s.queries + 1 }
          (x.observers.told (x.beginning op c s.queries)))
      have driven : Driven x d op c s calls out := hdriven.of_state_eq (by simp) rfl rfl
      have hshown := x.observers.calls_shown (x.account op c (failure? out))
      cases reports : x.observers.queryRaises (x.account op c (failure? out)) with
      | some r =>
          refine ⟨_, _, ?_, .unreported begins driven reports⟩
          rw [ensuring_of_ending hrun (conclude_of_raises reports _), behindQuery_eq htold hshown]
          rfl
      | none =>
          refine ⟨_, _, ?_, .concluded begins driven reports⟩
          rw [ensuring_of_ending hrun (conclude_of_eq_none reports _),
            behindQuery_eq htold (by simp)]

end Query

/-! ## Turns -/

/-- A request with what came of it: the reply, and what was added to the trace. -/
structure Turn where
  request : Request
  reply : Except Failure Reply
  entries : Trace

/-- The driver calls of a turn. -/
def Turn.calls (t : Turn) : List Call := t.entries.calls

/-- Answers a request, with the state behind it. -/
def turn (x : Executor) (d : Driver) (r : Request) (s : State) : Turn × State :=
  match x.answer d r s with
  | .ok reply t => (⟨r, .ok reply, t.trace.drop s.trace.length⟩, t)
  | .error f t => (⟨r, .error f, t.trace.drop s.trace.length⟩, t)

/-- The turns of a run. -/
def turns (x : Executor) (d : Driver) : List Request → State → List Turn
  | [], _ => []
  | r :: rs, s => (x.turn d r s).1 :: x.turns d rs (x.turn d r s).2

/-- The state behind the end of an executor's life. -/
def behindFinish (x : Executor) (s : State) : State :=
  { s with closed := s.closed || x.dialect = .sqlite }

/-- The ways in which a request can be answered from the state `s` on: the reply, the entries that
it adds to the trace, and the state behind it. -/
inductive Answered (x : Executor) (d : Driver) (s : State) :
    Request → Except Failure Reply → Trace → State → Prop where
  | query {op : Operation} {subject : Subject} {c : Compiled Val} {reply : Except Failure Val}
      {entries : Trace} (form : x.form? subject = some c)
      (queried : Queried x d op c s reply entries) :
      Answered x d s (.query op subject) (reply.map .value) entries (behindQuery s entries)
  /-- something other than a query was asked -/
  | notQuery {op : Operation} {subject : Subject} (form : x.form? subject = none) :
      Answered x d s (.query op subject) (.error .notQuery) [] s
  | enter : Answered x d s .enter (.ok .itself) [] s
  | exit : Answered x d s .exit (.ok (.value .none)) [] (x.behindFinish s)
  | close : Answered x d s .close (.ok (.value .none)) [] (x.behindFinish s)

/-- No request is answered in another way. -/
theorem exists_answered (x : Executor) (d : Driver) (r : Request) (s : State) :
    ∃ reply entries t, x.answer d r s = ending reply t ∧ t.trace = s.trace ++ entries
      ∧ Answered x d s r reply entries t := by
  have hfinish : x.finish s = .ok () (x.behindFinish s) := by
    rw [finish, behindFinish]
    cases hd : x.dialect with
    | sqlite =>
        have hclosed : (s.closed || decide (Dialect.sqlite = Dialect.sqlite)) = true :=
          Bool.or_true s.closed
        rw [hclosed]
        rfl
    | postgres => simp [pure, EStateM.pure]
  cases r with
  | query op subject =>
      cases form : x.form? subject with
      | none =>
          refine ⟨_, _, _, ?_, (List.append_nil _).symm, .notQuery form⟩
          cases subject with
          | other => rfl
          | _ => cases form
      | some c =>
          obtain ⟨reply, entries, hrun, queried⟩ := exists_queried form s
          refine ⟨_, _, _, ?_, rfl, .query form queried⟩
          rw [answer]
          cases reply with
          | ok v => exact bind_of_ok hrun _
          | error f => exact bind_of_error hrun _
  | enter => exact ⟨_, _, _, rfl, (List.append_nil _).symm, .enter⟩
  | exit =>
      exact ⟨_, _, x.behindFinish s, bind_of_ok hfinish _, (List.append_nil _).symm, .exit⟩
  | close =>
      exact ⟨_, _, x.behindFinish s, bind_of_ok hfinish _, (List.append_nil _).symm, .close⟩

/-- The turn of a request, read off the answer to it. -/
theorem turn_eq {x : Executor} {d : Driver} {r : Request} {s t : State}
    {reply : Except Failure Reply} {entries : Trace} (hrun : x.answer d r s = ending reply t)
    (htrace : t.trace = s.trace ++ entries) : x.turn d r s = (⟨r, reply, entries⟩, t) := by
  have hdrop : t.trace.drop s.trace.length = entries := by
    rw [htrace, List.drop_left]
  rw [turn, hrun]
  cases reply <;> simp [hdrop]

/-! ## The history of a run -/

/-- The turns that lead from one state to another one. -/
inductive History (x : Executor) (d : Driver) : State → List Turn → State → Prop where
  | nil (s : State) : History x d s [] s
  | cons {s t u : State} {turn : Turn} {turns : List Turn}
      (trace : t.trace = s.trace ++ turn.entries)
      (answered : Answered x d s turn.request turn.reply turn.entries t)
      (rest : History x d t turns u) : History x d s (turn :: turns) u

/-- Answering requests makes the turns of the run, and each of them is answered in one of the ways
there are. -/
theorem history_turns (x : Executor) (d : Driver) (rs : List Request) (s : State) :
    (x.answerAll d rs s).1 = (x.turns d rs s).map Turn.reply
      ∧ (x.turns d rs s).map Turn.request = rs
      ∧ History x d s (x.turns d rs s) (x.answerAll d rs s).2 := by
  induction rs generalizing s with
  | nil => exact ⟨rfl, rfl, .nil s⟩
  | cons r rs ih =>
      obtain ⟨reply, entries, t, hrun, htrace, hanswered⟩ := exists_answered x d r s
      obtain ⟨hreplies, hrequests, hhistory⟩ := ih t
      have hall : x.answerAll d (r :: rs) s
          = (reply :: (x.answerAll d rs t).1, (x.answerAll d rs t).2) := by
        rw [answerAll, hrun]
        cases reply <;> rfl
      rw [hall, turns, turn_eq hrun htrace, List.map_cons, List.map_cons, ← hreplies, hrequests]
      exact ⟨rfl, rfl, .cons htrace hanswered hhistory⟩

/-- A state in which the connections asked for are those of its trace. -/
def Counted (s : State) : Prop := s.connects = s.trace.calls.countP Call.isConnect

theorem Answered.counted {x : Executor} {d : Driver} {s t : State} {r : Request}
    {reply : Except Failure Reply} {entries : Trace} (h : Answered x d s r reply entries t)
    (counted : Counted s) : Counted t := by
  cases h with
  | query form queried =>
      rw [Counted] at counted ⊢
      rw [behindQuery, Trace.calls_append, List.countP_append, ← counted]
  | notQuery form => exact counted
  | enter => exact counted
  | exit => exact counted
  | close => exact counted

/-- The calls of turns one after the other. -/
theorem calls_flatMap_entries (ts : List Turn) :
    Trace.calls (ts.flatMap Turn.entries) = ts.flatMap Turn.calls := by
  induction ts with
  | nil => rfl
  | cons t ts ih =>
      rw [List.flatMap_cons, List.flatMap_cons, Trace.calls_append, ih, Turn.calls]

namespace History

variable {x : Executor} {d : Driver} {s u : State} {ts : List Turn}

/-- The trace of a run is made up of the entries of its turns. -/
theorem trace_eq (h : History x d s ts u) : u.trace = s.trace ++ ts.flatMap Turn.entries := by
  induction h with
  | nil s => simp
  | cons trace answered rest ih => rw [ih, trace, List.flatMap_cons, List.append_assoc]

/-- A run can be cut in front of any of its turns. -/
theorem cut {pre post : List Turn} {t : Turn} (h : History x d s (pre ++ t :: post) u) :
    ∃ s₁ s₂, History x d s pre s₁ ∧ s₂.trace = s₁.trace ++ t.entries
      ∧ Answered x d s₁ t.request t.reply t.entries s₂ ∧ History x d s₂ post u := by
  induction pre generalizing s with
  | nil =>
      cases h with
      | cons trace answered rest => exact ⟨s, _, .nil s, trace, answered, rest⟩
  | cons p pre ih =>
      cases h with
      | cons trace answered rest =>
          obtain ⟨s₁, s₂, hpre, htrace, hanswered, hpost⟩ := ih rest
          exact ⟨s₁, s₂, .cons trace answered hpre, htrace, hanswered, hpost⟩

theorem counted (h : History x d s ts u) (counted : Counted s) : Counted u := by
  induction h with
  | nil s => exact counted
  | cons trace answered rest ih => exact ih (answered.counted counted)

/-- The driver calls of a run are those of its turns. -/
theorem calls_eq (h : History x d s ts u) :
    u.trace.calls = s.trace.calls ++ ts.flatMap Turn.calls := by
  rw [h.trace_eq, Trace.calls_append, calls_flatMap_entries]

end History

/-! ## Runs of new executors -/

section Runs

variable {x : Executor} {d : Driver} {rs : List Request} {t : Turn}

/-- Turns that are what comes of requests to a new executor. -/
structure ComesOf (x : Executor) (d : Driver) (rs : List Request) (ts : List Turn) : Prop where
  requests : ts.map Turn.request = rs
  replies : (x.answerAll d rs {}).1 = ts.map Turn.reply
  trace : (x.answerAll d rs {}).2.trace = ts.flatMap Turn.entries

theorem comesOf_turns (x : Executor) (d : Driver) (rs : List Request) :
    ComesOf x d rs (x.turns d rs {}) := by
  obtain ⟨hreplies, hrequests, hhistory⟩ := history_turns x d rs {}
  exact ⟨hrequests, hreplies, hhistory.trace_eq.trans (List.nil_append _)⟩

/-- Every turn of a run is answered in one of the ways there are, with the calls of the turns before
it behind it. -/
theorem exists_answered_of_turns_eq {pre post : List Turn}
    (h : x.turns d rs {} = pre ++ t :: post) :
    ∃ s u, s.trace.calls = pre.flatMap Turn.calls ∧ Counted s
      ∧ Answered x d s t.request t.reply t.entries u := by
  obtain ⟨-, -, hhistory⟩ := history_turns x d rs {}
  rw [h] at hhistory
  obtain ⟨s, u, hpre, -, hanswered, -⟩ := hhistory.cut
  exact ⟨s, u, hpre.calls_eq, hpre.counted rfl, hanswered⟩

theorem exists_answered_of_mem_turns (h : t ∈ x.turns d rs {}) :
    ∃ s u, Answered x d s t.request t.reply t.entries u := by
  obtain ⟨pre, post, hturns⟩ := List.append_of_mem h
  obtain ⟨s, u, -, -, hanswered⟩ := exists_answered_of_turns_eq hturns
  exact ⟨s, u, hanswered⟩

end Runs

end Executor

end BoundSql.Execution
