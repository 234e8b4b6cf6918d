import BoundSql.Proofs.Telling
set_option autoImplicit false

/-!
# The end of an executor's life

An executor that opens files is closed for good by the first exit or close.  From then on every
query is refused before the driver hears of it, and observers are told of the refusal like of any
other failure.  Nothing that comes before is any different for that.

Being closed is a part of the state that no turn ever takes back, and what a closed executor answers
depends on the request alone (`closedTurn`).  So the run behind the first request that ends the
executor can be written down without looking at the driver (`turns_of_closed`), with query numbers
that count on from those that were given before.

In front of that request there is nothing to be closed for: a request of any other kind leaves the
executor as it is (`Answered.closed_eq`, `History.closed_eq`), and a query that is driven while it
is alive never fails for the reason that it is closed (`Driven.ne_closed`).  Both parts are about
whole runs and any driver, since being closed is decided by the requests and by nothing that a
driver says.
-/

namespace BoundSql.Execution

open BoundSql.Query (Compiled)
open BoundSql.Value (Val)

namespace Executor

/-- Whether a request ends the life of an executor that is closed for good. -/
def Request.ends : Request → Bool
  | .exit | .close => true
  | .query _ _ | .enter => false

/-! ## Turns behind the end -/

variable {x : Executor} {d : Driver}

/-- What the trace is left with by a query that is refused because the executor is closed; `id`
queries were begun before. -/
def refusal (x : Executor) (op : Operation) (c : Compiled Val) (id : Nat) : Trace :=
  x.observers.told (x.beginning op c id)
    ++ (x.observers.shown (x.account op c (some .closed))
      ++ x.observers.told (x.conclusion op c id (some .closed)))

/-- What comes of a request to a closed executor behind `id` queries: a query is refused, and
everything else is answered without effect. -/
def closedTurn (x : Executor) (id : Nat) (r : Request) : Turn where
  request := r
  reply := match r with
    | .query _ subject => .error (if (x.form? subject).isSome then .closed else .notQuery)
    | .enter => .ok .itself
    | .exit | .close => .ok (.value .none)
  entries := match x.asked? r with
    | some (op, c) => x.refusal op c id
    | none => []

/-- The queries among requests. -/
def queriesAmong (x : Executor) (rs : List Request) : Nat := rs.countP fun r => (x.asked? r).isSome

/-- What comes of requests to a closed executor behind `id` queries. -/
def closedTurns (x : Executor) : (id : Nat) → List Request → List Turn
  | _, [] => []
  | id, r :: rs => x.closedTurn id r :: x.closedTurns (id + x.queriesAmong [r]) rs

/-- The state behind requests to a closed executor: only the trace and the number of queries
change. -/
def behindClosed (x : Executor) (rs : List Request) (s : State) : State :=
  { s with
    trace := s.trace ++ (x.closedTurns s.queries rs).flatMap Turn.entries
    queries := s.queries + x.queriesAmong rs }

@[simp] theorem calls_refusal (op : Operation) (c : Compiled Val) (id : Nat) :
    Trace.calls (x.refusal op c id) = [] := by
  simp [refusal]

theorem calls_closedTurn (id : Nat) (r : Request) : (x.closedTurn id r).calls = [] := by
  unfold Turn.calls closedTurn
  cases x.asked? r with
  | none => rfl
  | some asked => exact calls_refusal asked.1 asked.2 id

/-- An observer of events is told of a refusal in the block of a query that fails. -/
theorem refusal_eq_block (listens : x.observers.event.isSome = true) (op : Operation)
    (c : Compiled Val) (id : Nat) :
    x.refusal op c id = x.block op c id (.error .closed : Except Failure Val) := by
  rw [refusal, Observers.told, Observers.told, if_pos listens, if_pos listens]
  rfl

/-- The turn of a query that is refused. -/
theorem closedTurn_of_asked (id : Nat) {r : Request} {op : Operation} {c : Compiled Val}
    (asks : x.asked? r = some (op, c)) :
    (x.closedTurn id r).reply = .error .closed
      ∧ (x.closedTurn id r).entries = x.refusal op c id := by
  cases r with
  | query op' subject =>
      obtain ⟨c', form, heq⟩ := Option.map_eq_some_iff.mp asks
      cases heq
      simp [closedTurn, asked?, form]
  | _ => cases asks

theorem mem_closedTurns {rs : List Request} {t : Turn} {id : Nat}
    (h : t ∈ x.closedTurns id rs) : ∃ n r, t = x.closedTurn n r := by
  induction rs generalizing id with
  | nil => cases h
  | cons r rs ih =>
      rcases List.mem_cons.mp h with rfl | h
      · exact ⟨id, r, rfl⟩
      · exact ih h

/-! ## Requests to a closed executor -/

/-- A query to a closed executor does not reach the driver. -/
theorem Driven.eq_of_closed {op : Operation} {c : Compiled Val} {s : State} {calls : List Call}
    {out : Except Failure Val} (h : Driven x d op c s calls out) (ended : s.closed = true) :
    calls = [] ∧ out = .error .closed := by
  have hdead : ¬ s.closed = false := by simp [ended]
  cases h with
  | closed _ => exact ⟨rfl, rfl⟩
  | unopenable alive _ => exact absurd alive hdead
  | lent alive _ _ _ => exact absurd alive hdead
  | refused alive _ _ => exact absurd alive hdead
  | own alive _ _ _ _ => exact absurd alive hdead

/-- One request to a closed executor. -/
theorem turn_of_closed (quiet : x.observers.Quiet) (r : Request) {s : State}
    (ended : s.closed = true) :
    x.turn d r s = (x.closedTurn s.queries r, x.behindClosed [r] s) := by
  obtain ⟨reply, entries, t, hrun, htrace, hanswered⟩ := exists_answered x d r s
  rw [turn_eq hrun htrace]
  cases hanswered with
  | @query op subject c reply entries form queried =>
      obtain ⟨calls, driven, rfl⟩ := queried.of_quiet quiet
      obtain ⟨rfl, rfl⟩ := driven.eq_of_closed ended
      have hasked : x.asked? (.query op subject) = some (op, c) := by
        rw [asked?, form, Option.map_some]
      have hturn : x.closedTurn s.queries (.query op subject)
          = ⟨.query op subject, .error .closed, x.refusal op c s.queries⟩ := by
        simp [closedTurn, hasked, form]
      have hstate : x.behindClosed [.query op subject] s
          = behindQuery s (x.refusal op c s.queries) := by
        simp [behindClosed, closedTurns, hturn, queriesAmong, hasked, behindQuery]
      rw [hturn, hstate]
      rfl
  | @notQuery op subject form =>
      simp [closedTurn, behindClosed, closedTurns, queriesAmong, asked?, form]
  | enter => simp [closedTurn, behindClosed, closedTurns, queriesAmong, asked?]
  | exit => simp [closedTurn, behindClosed, closedTurns, queriesAmong, asked?, behindFinish, ended]
  | close => simp [closedTurn, behindClosed, closedTurns, queriesAmong, asked?, behindFinish, ended]

/-- The request that ends an executor's life is answered like one that comes behind the end. -/
theorem turn_of_ends {r : Request} (ends : r.ends = true) (sqlite : x.dialect = .sqlite)
    (s : State) : x.turn d r s = (x.closedTurn s.queries r, { s with closed := true }) := by
  obtain ⟨reply, entries, t, hrun, htrace, hanswered⟩ := exists_answered x d r s
  rw [turn_eq hrun htrace]
  cases hanswered with
  | query form queried => cases ends
  | notQuery form => cases ends
  | enter => cases ends
  | exit => simp [closedTurn, asked?, behindFinish, sqlite]
  | close => simp [closedTurn, asked?, behindFinish, sqlite]

theorem queriesAmong_cons (r : Request) (rs : List Request) :
    x.queriesAmong (r :: rs) = x.queriesAmong [r] + x.queriesAmong rs := by
  rw [queriesAmong, queriesAmong, queriesAmong, ← List.countP_append]
  rfl

theorem behindClosed_cons (r : Request) (rs : List Request) (s : State) :
    x.behindClosed (r :: rs) s = x.behindClosed rs (x.behindClosed [r] s) := by
  simp [behindClosed, closedTurns, queriesAmong_cons r rs, Nat.add_assoc]

/-- The state behind a run goes through the state behind its first turn. -/
theorem answerAll_cons (x : Executor) (d : Driver) (r : Request) (rs : List Request) (s : State) :
    (x.answerAll d (r :: rs) s).2 = (x.answerAll d rs (x.turn d r s).2).2 := by
  rw [answerAll, turn]
  cases x.answer d r s <;> rfl

/-- Requests one after the other to a closed executor. -/
theorem turns_of_closed (quiet : x.observers.Quiet) (rs : List Request) {s : State}
    (ended : s.closed = true) :
    x.turns d rs s = x.closedTurns s.queries rs ∧ (x.answerAll d rs s).2 = x.behindClosed rs s := by
  induction rs generalizing s with
  | nil => exact ⟨rfl, by simp [answerAll, behindClosed, closedTurns, queriesAmong]⟩
  | cons r rs ih =>
      obtain ⟨hturns, hstate⟩ := ih (s := x.behindClosed [r] s) ended
      rw [turns, answerAll_cons, turn_of_closed quiet r ended, hturns, hstate, ← behindClosed_cons]
      exact ⟨rfl, rfl⟩

/-! ## Whole runs -/

theorem turns_append (x : Executor) (d : Driver) (rs qs : List Request) (s : State) :
    x.turns d (rs ++ qs) s = x.turns d rs s ++ x.turns d qs (x.answerAll d rs s).2
      ∧ (x.answerAll d (rs ++ qs) s).2 = (x.answerAll d qs (x.answerAll d rs s).2).2 := by
  induction rs generalizing s with
  | nil => exact ⟨rfl, rfl⟩
  | cons r rs ih =>
      obtain ⟨hturns, hstate⟩ := ih (x.turn d r s).2
      rw [List.cons_append, answerAll_cons, answerAll_cons, turns, turns, hturns, hstate]
      exact ⟨rfl, rfl⟩

/-- Only the requests that end an executor's life close it. -/
theorem Answered.closed_eq {s u : State} {r : Request} {reply : Except Failure Reply}
    {entries : Trace} (h : Answered x d s r reply entries u) (goesOn : r.ends = false) :
    u.closed = s.closed := by
  cases h with
  | query form queried => rfl
  | notQuery form => rfl
  | enter => rfl
  | exit => cases goesOn
  | close => cases goesOn

theorem History.closed_eq {s u : State} {ts : List Turn} (h : History x d s ts u)
    (goesOn : ∀ t ∈ ts, t.request.ends = false) : u.closed = s.closed := by
  induction h with
  | nil s => rfl
  | cons trace answered rest ih =>
      rw [ih fun t ht => goesOn t (List.mem_cons_of_mem _ ht)]
      exact answered.closed_eq (goesOn _ List.mem_cons_self)

/-- No query is refused for that reason before the executor is closed. -/
theorem Driven.ne_closed {op : Operation} {c : Compiled Val} {s : State} {calls : List Call}
    {out : Except Failure Val} (h : Driven x d op c s calls out) (alive : s.closed = false)
    (unopenable : ∀ f, x.access = .own (.error f) → f = .noLibrary ∨ f = .unnamedOption) :
    out ≠ .error .closed := by
  rintro rfl
  have hreflects : ¬ Reflects d s.trace.calls calls (.error .closed : Except Failure Val) := by
    intro reflects
    obtain ⟨q, -, hraised⟩ := reflects.raises .closed rfl
    cases hraised
  cases h with
  | closed ended => exact absurd (ended.symm.trans alive) nofun
  | unopenable _ access => rcases unopenable .closed access with h | h <;> cases h
  | lent _ _ _ reflects => exact hreflects reflects
  | own _ _ _ _ reflects => exact hreflects reflects

/-- No query is refused before the first request that ends an executor's life. -/
theorem reply_ne_closed {rs : List Request} (goesOn : ∀ q ∈ rs, q.ends = false)
    (quiet : x.observers.Quiet)
    (unopenable : ∀ f, x.access = .own (.error f) → f = .noLibrary ∨ f = .unnamedOption) :
    ∀ t ∈ x.turns d rs {}, t.reply ≠ .error .closed := by
  intro t ht
  obtain ⟨-, hrequests, hhistory⟩ := history_turns x d rs {}
  obtain ⟨pre, post, hsplit⟩ := List.append_of_mem ht
  rw [hsplit] at hhistory hrequests
  obtain ⟨s, u, hpre, -, hanswered, -⟩ := hhistory.cut
  have alive : s.closed = false := by
    refine hpre.closed_eq fun t' ht' => goesOn t'.request ?_
    rw [← hrequests, List.map_append]
    exact List.mem_append_left _ (List.mem_map_of_mem ht')
  obtain ⟨request, reply, entries⟩ := t
  cases hanswered with
  | @query op subject c reply entries form queried =>
      obtain ⟨calls, driven, -⟩ := queried.of_quiet quiet
      have hopen := driven.ne_closed alive unopenable
      cases reply with
      | ok v => exact nofun
      | error f =>
          rintro hreply
          exact hopen (congrArg Except.error (Except.error.inj hreply))
  | notQuery form => exact nofun
  | enter => exact nofun
  | exit => exact nofun
  | close => exact nofun

/-- What holds of a run with a first request that ends the executor's life. -/
structure ClosedFrom (x : Executor) (d : Driver) (before : List Request) (r : Request)
    (behind : List Request) : Prop where
  /-- what comes before is what comes of it if the executor is never closed -/
  undisturbed : x.turns d before {}
    <+: x.turns d ((before ++ r :: behind).filter fun q => !q.ends) {}
  alive : ∀ t ∈ x.turns d before {}, t.reply ≠ .error .closed
  /-- from the end of its life on the executor is closed, whatever is asked -/
  turns : x.turns d (before ++ r :: behind) {} = x.turns d before {}
    ++ x.closedTurns (x.answerAll d before {}).2.queries (r :: behind)
  /-- the driver is not called any more -/
  inert : ∀ t ∈ x.closedTurns (x.answerAll d before {}).2.queries (r :: behind), t.calls = []
  /-- queries are refused, and observers are told of a query that begins and fails -/
  refused : ∀ t ∈ x.closedTurns (x.answerAll d before {}).2.queries (r :: behind),
    ∀ op c, x.asked? t.request = some (op, c) → t.reply = .error .closed ∧
      (x.observers.event.isSome = true →
        ∃ id, t.entries = x.block op c id (.error .closed : Except Failure Val))
  /-- nothing but the trace and the number of queries changes any more -/
  state : (x.answerAll d (before ++ r :: behind) {}).2
    = x.behindClosed (r :: behind) { (x.answerAll d before {}).2 with closed := true }

/-- An executor that opens files stays closed from the first exit or close on: whatever is asked
behind it, queries are refused without a call on the driver, which observers are told of, and
nothing opens the executor again.  What comes before is what comes of it if the executor is never
closed. -/
theorem sqlite_executor_stays_closed {setup : Setup} {store store' : Value.Store} {x : Executor}
    (made : setup.executor store = .ok (.ok x) store') (sqlite : setup.dialect = .sqlite)
    (quiet : x.observers.Quiet) (d : Driver) {before behind : List Request} {r : Request}
    (goesOn : ∀ q ∈ before, q.ends = false) (ends : r.ends = true) :
    ClosedFrom x d before r behind := by
  have hmade := setup.makes_of_executor made
  have hsqlite : x.dialect = .sqlite := hmade.dialect.trans sqlite
  obtain ⟨hturns, hstate⟩ := turns_append x d before (r :: behind) {}
  have hend := turn_of_ends (d := d) ends hsqlite (x.answerAll d before {}).2
  obtain ⟨hclosed, hbehind⟩ := turns_of_closed (d := d) quiet behind
    (s := { (x.answerAll d before {}).2 with closed := true }) rfl
  have hsilent : x.asked? r = none := by
    cases r with
    | exit => rfl
    | close => rfl
    | _ => cases ends
  have hfilter : (before ++ r :: behind).filter (fun q => !q.ends)
      = before ++ behind.filter fun q => !q.ends := by
    have hbefore : before.filter (fun q => !q.ends) = before :=
      List.filter_eq_self.mpr fun q hq => by rw [goesOn q hq]; rfl
    simp [List.filter_append, hbefore, ends]
  have hcount : x.queriesAmong [r] = 0 := by simp [queriesAmong, hsilent]
  constructor
  case undisturbed =>
    rw [hfilter, (turns_append x d before _ {}).1]
    exact List.prefix_append _ _
  case alive => exact reply_ne_closed goesOn quiet hmade.unopenable
  case turns =>
    rw [hturns, turns, hend, hclosed, closedTurns, hcount]
    rfl
  case inert =>
    intro t ht
    obtain ⟨n, q, rfl⟩ := mem_closedTurns ht
    exact calls_closedTurn n q
  case refused =>
    intro t ht op c asks
    obtain ⟨n, q, rfl⟩ := mem_closedTurns ht
    obtain ⟨hreply, hentries⟩ := closedTurn_of_asked n asks
    exact ⟨hreply, fun listens => ⟨n, hentries.trans (refusal_eq_block listens op c n)⟩⟩
  case state =>
    rw [hstate, answerAll_cons, hend, hbehind]
    simp [behindClosed, closedTurns, hcount, queriesAmong_cons r behind, closedTurn, hsilent]

/-- A block that a query stands in and another one follows, on a connection that is lent. -/
theorem sqlite_executor_stays_closed_of_block :
    let observers : Observers := { query := some fun _ => none, event := some fun _ => none }
    let setup : Setup := { dialect := .sqlite, lent := true, observers }
    let x : Executor := {
      dialect := .sqlite
      access := .lent
      compiler := Dialect.sqlite.compiler
      component := componentOf "SqliteExecutor"
      observers }
    let q : Query.Sql Val := ⟨[.literal "select ", .argument (.int 1)]⟩
    let before : List Request := [.enter, .query .fetchAll (.query q)]
    let behind : List Request := [.enter, .query .executeRaw (.raw "drop table t"), .close]
    setup.executor {} = .ok (.ok x) {} ∧ x.observers.Quiet ∧ (∀ r ∈ before, r.ends = false)
      ∧ ClosedFrom x lockedDriver before .exit behind
      ∧ (x.answerAll lockedDriver (before ++ .exit :: behind) {}).2.trace.calls
        = [.execute .lent "select ?" (some [.int 1]), .fetchAll .lent] := by
  intro observers setup x q before behind
  have made : setup.executor {} = .ok (.ok x) {} := rfl
  have quiet : x.observers.Quiet := ⟨fun _ => rfl, fun _ => rfl⟩
  have goesOn : ∀ r ∈ before, r.ends = false := by simp [before, Request.ends]
  have hclosed : ClosedFrom x lockedDriver before .exit behind :=
    sqlite_executor_stays_closed made rfl quiet lockedDriver goesOn rfl
  refine ⟨made, quiet, goesOn, hclosed, ?_⟩
  rw [hclosed.state]
  rfl

end Executor

end BoundSql.Execution
