import BoundSql.Proofs.Turns
set_option autoImplicit false

/-!
# How connections are kept

An executor that is lent a connection only uses it.  Any other executor opens one connection for
each query that gets that far, uses it for that query alone, commits it if all went well, and closes
it in the end.  This module shows that for whole runs, whatever the driver answers, as long as it
can close its connections.

`Conduct` lists what an executor may do in one turn, with the calls of the turn in their order, and
a query is driven in one of these ways (`Driven.conduct`).  That the connections of different turns
are different follows from how they are numbered (`connections_pairwise`), which is an invariant of
the run.

Which error comes out of a turn is told by `RaisesFirstOrExit`.  It is the first failure of the
driver, as long as it is not followed by another one; if leaving the cursor fails as well, that
second failure comes out and the first one is lost.  Nothing else can follow a failure but an exit,
so that there are never more than these two.  A run that loses its first failure this way is given
at the end.
-/

namespace BoundSql.Execution

open BoundSql.Query (Compiled)
open BoundSql.Value (Val)

namespace Executor

variable {x : Executor} {d : Driver}

/-! ## Conduct of one turn -/

/-- The connection that is opened behind these calls, if one is. -/
def nextConnection (before : List Call) : Connection := .opened (before.countP Call.isConnect)

/-- How an executor without a lent connection conducts itself in one turn, given the calls before:
the request, the reply, and the calls of the turn. -/
inductive Conduct (x : Executor) (d : Driver) (before : List Call) :
    Request → Except Failure Reply → List Call → Prop where
  /-- no connection is asked for; a query is not answered then -/
  | unasked {r : Request} {reply : Except Failure Reply}
      (fails : ∀ op subject, r = .query op subject → ∃ f, reply = .error f) :
      Conduct x d before r reply []
  /-- no connection is opened -/
  | refused {r : Request} {reply : Except Failure Reply} {o : Opening} {e : Raised}
      (access : x.access = .own (.ok o)) (refuses : d before o.call = .error e) :
      Conduct x d before r reply [o.call]
  /-- the work on the connection fails, or the connection commits by itself -/
  | uncommitted {op : Operation} {subject : Subject} {c : Compiled Val}
      {reply : Except Failure Reply} {o : Opening} {a : Autocommit} {work : List Call}
      (access : x.access = .own (.ok o)) (form : x.form? subject = some c)
      (opens : d before o.call = .ok a)
      (keeps : KeepsTo d (before ++ [o.call]) work (x.script (nextConnection before) op c))
      (left : failures d (before ++ [o.call]) work ≠ [] ∨ x.dialect = .postgres ∧ a = .on) :
      Conduct x d before (.query op subject) reply
        (o.call :: (work ++ [.close (nextConnection before)]))
  /-- the statement, the fetch and the way out of the cursor all went well -/
  | committed {op : Operation} {subject : Subject} {c : Compiled Val}
      {reply : Except Failure Reply} {o : Opening} {a : Autocommit} {work : List Call}
      (access : x.access = .own (.ok o)) (form : x.form? subject = some c)
      (opens : d before o.call = .ok a)
      (keeps : KeepsTo d (before ++ [o.call]) work (x.script (nextConnection before) op c))
      (succeeds : failures d (before ++ [o.call]) work = [])
      (due : x.dialect = .postgres → a = .missing ∨ a = .off) :
      Conduct x d before (.query op subject) reply
        (o.call :: (work ++ [.commit (nextConnection before), .close (nextConnection before)]))

theorem commits_eq_true_iff {a : Autocommit} :
    x.commits a = true ↔ (x.dialect = .postgres → a = .missing ∨ a = .off) := by
  cases hd : x.dialect <;> cases a <;> simp [commits, hd]

theorem commits_eq_false_iff {a : Autocommit} :
    x.commits a = false ↔ x.dialect = .postgres ∧ a = .on := by
  cases hd : x.dialect <;> cases a <;> simp [commits, hd]

/-- A query that is driven on a connection of its own conducts itself. -/
theorem Driven.conduct {op : Operation} {subject : Subject} {c : Compiled Val} {s : State}
    {calls : List Call} {out : Except Failure Val} {reply : Except Failure Reply}
    {opening : Except Failure Opening} (h : Driven x d op c s calls out)
    (counted : Counted s) (own : x.access = .own opening) (form : x.form? subject = some c)
    (agrees : ∀ v, reply = .ok v → ∃ w, out = .ok w) :
    Conduct x d s.trace.calls (.query op subject) reply calls := by
  have hfails : (∀ w, out ≠ .ok w) → ∃ f, reply = .error f := by
    intro hout
    cases reply with
    | ok v =>
        obtain ⟨w, hw⟩ := agrees v rfl
        exact absurd hw (hout w)
    | error f => exact ⟨f, rfl⟩
  have hnext : Connection.opened s.connects = nextConnection s.trace.calls := by
    rw [nextConnection, ← counted]
  cases h with
  | closed ended => exact .unasked fun _ _ _ => hfails (by simp)
  | unopenable alive access => exact .unasked fun _ _ _ => hfails (by simp)
  | lent alive access keeps reflects =>
      rw [own] at access
      cases access
  | refused alive access refuses => exact .refused access refuses
  | @own o a work out alive access opens keeps reflects =>
      rw [hnext] at keeps ⊢
      rw [leaving]
      cases hcommits : x.commits a with
      | false =>
          rw [Bool.and_false]
          exact .uncommitted access form opens keeps (.inr (commits_eq_false_iff.mp hcommits))
      | true =>
          rw [Bool.and_true]
          cases hfail : failures d (s.trace.calls ++ [o.call]) work with
          | nil => exact .committed access form opens keeps hfail (commits_eq_true_iff.mp hcommits)
          | cons q qs =>
              exact .uncommitted access form opens keeps (.inl (by rw [hfail]; simp))

theorem Answered.conduct {s t : State} {r : Request} {reply : Except Failure Reply}
    {entries : Trace} {opening : Except Failure Opening} (h : Answered x d s r reply entries t)
    (counted : Counted s) (own : x.access = .own opening) :
    Conduct x d s.trace.calls r reply entries.calls := by
  cases h with
  | @query op subject c reply entries form queried =>
      rcases queried.calls_cases with ⟨hnone, r, rfl, -⟩ | ⟨out, driven, hreply⟩
      · rw [hnone]
        exact .unasked fun _ _ _ => ⟨.raised r, rfl⟩
      · refine driven.conduct counted own form ?_
        intro v hv
        rcases hreply with rfl | ⟨r, rfl, -⟩
        · cases reply with
          | ok w => exact ⟨w, rfl⟩
          | error f => cases hv
        · cases hv
  | notQuery form => exact .unasked fun _ _ _ => ⟨.notQuery, rfl⟩
  | enter => exact .unasked fun _ _ h => by cases h
  | exit => exact .unasked fun _ _ h => by cases h
  | close => exact .unasked fun _ _ h => by cases h

/-- A connection that is lent is only worked on. -/
theorem Answered.lent {s t : State} {r : Request} {reply : Except Failure Reply}
    {entries : Trace} (h : Answered x d s r reply entries t) (lent : x.access = .lent) :
    ∀ call ∈ entries.calls,
      call.isConnect = false ∧ ∀ on, call ≠ .commit on ∧ call ≠ .close on := by
  cases h with
  | @query op subject c reply entries form queried =>
      rcases queried.calls_cases with ⟨hnone, -⟩ | ⟨out, driven, -⟩
      · rw [hnone]
        simp
      · generalize entries.calls = calls at driven
        cases driven with
        | closed ended => simp
        | unopenable alive access => simp
        | lent alive access keeps reflects =>
            obtain ⟨hasRows, hsub, -⟩ := keeps
            intro call hcall
            rcases mem_script_cases (hsub.subset hcall) with rfl | rfl | rfl | rfl | rfl | rfl <;>
              simp [Call.isConnect, Call.connection?]
        | refused alive access refuses =>
            rw [lent] at access
            cases access
        | own alive access opens keeps reflects =>
            rw [lent] at access
            cases access
  | notQuery form => simp [Trace.calls]
  | enter => simp [Trace.calls]
  | exit => simp [Trace.calls]
  | close => simp [Trace.calls]

/-! ## Failures of the driver -/

/-- What is answered when these calls of a turn failed on the driver, in their order.  The first
failure is raised, unless leaving the cursor fails behind it: that failure takes its place.  Nothing
else can fail behind the first failure while connections can be closed, since nothing else is tried.
-/
inductive RaisesFirstOrExit (reply : Except Failure Reply) : List (Call × Raised) → Prop where
  | answers {answer : Reply} (ok : reply = .ok answer) : RaisesFirstOrExit reply []
  | first {call : Call} {r : Raised} (raised : reply = .error (.raised r)) :
      RaisesFirstOrExit reply [(call, r)]
  | exit {first : Call × Raised} {on : Connection} {r : Raised}
      (raised : reply = .error (.raised r)) : RaisesFirstOrExit reply [first, (.cursorExit on, r)]

section Reflecting

variable {before calls : List Call} {reply : Except Failure Reply}

/-- Where connections can be closed, nothing but leaving a cursor fails behind a failure. -/
theorem isCursorExit_of_mem_tail (h : Reflects d before calls reply)
    (closes : ∀ before on, d before (.close on) = .ok ()) {q : Call × Raised}
    (hq : q ∈ (failures d before calls).tail) : q.1.isCursorExit = true := by
  obtain ⟨b, hb⟩ := exists_error_of_mem_failures (List.mem_of_mem_tail hq)
  have htidies := h.behind q hq
  obtain ⟨call, r⟩ := q
  cases call with
  | cursorExit on => rfl
  | close on =>
      rw [closes b on] at hb
      cases hb
  | _ => cases htidies

theorem length_tail_failures_le (h : Reflects d before calls reply)
    (closes : ∀ before on, d before (.close on) = .ok ())
    (once : calls.countP Call.isCursorExit ≤ 1) : (failures d before calls).tail.length ≤ 1 := by
  have hall : (failures d before calls).tail.countP (fun q => q.1.isCursorExit)
      = (failures d before calls).tail.length :=
    List.countP_eq_length.mpr fun q hq => isCursorExit_of_mem_tail h closes hq
  calc (failures d before calls).tail.length
      = (failures d before calls).tail.countP fun q => q.1.isCursorExit := hall.symm
    _ ≤ (failures d before calls).countP fun q => q.1.isCursorExit :=
        (List.tail_sublist _).countP_le
    _ = ((failures d before calls).map Prod.fst).countP Call.isCursorExit := by
        rw [List.countP_map]
        rfl
    _ ≤ calls.countP Call.isCursorExit := (failures_sublist calls).countP_le
    _ ≤ 1 := once

/-- Where a call failed, the last failure is what is answered. -/
theorem reply_eq_of_getLast? (h : Reflects d before calls reply) {q : Call × Raised}
    (hq : (failures d before calls).getLast? = some q) : reply = .error (.raised q.2) := by
  cases reply with
  | ok answer =>
      rw [h.succeeds answer rfl] at hq
      cases hq
  | error f =>
      obtain ⟨p, hp, rfl⟩ := h.raises f rfl
      rw [hq] at hp
      rw [Option.some.inj hp]

theorem raisesFirstOrExit_of_reflects (h : Reflects d before calls reply)
    (closes : ∀ before on, d before (.close on) = .ok ())
    (once : calls.countP Call.isCursorExit ≤ 1) :
    RaisesFirstOrExit reply (failures d before calls) := by
  have hlast := fun q => reply_eq_of_getLast? h (q := q)
  have hexit := fun q => isCursorExit_of_mem_tail h closes (q := q)
  have hlength := length_tail_failures_le h closes once
  cases hfail : failures d before calls with
  | nil =>
      cases reply with
      | ok answer => exact .answers rfl
      | error f =>
          obtain ⟨q, hq, -⟩ := h.raises f rfl
          rw [hfail] at hq
          cases hq
  | cons first rest =>
      rw [hfail] at hlast hexit hlength
      match rest with
      | [] => exact .first (hlast first rfl)
      | [(call, r)] =>
          have hcall : call.isCursorExit = true := hexit _ List.mem_cons_self
          cases call with
          | cursorExit on => exact .exit (hlast _ rfl)
          | _ => cases hcall
      | _ :: _ :: rest =>
          rw [List.tail_cons, List.length_cons, List.length_cons] at hlength
          omega

end Reflecting

/-- A query leaves one cursor at most. -/
theorem Driven.countP_isCursorExit_le {op : Operation} {c : Compiled Val} {s : State}
    {calls : List Call} {out : Except Failure Val} (h : Driven x d op c s calls out) :
    calls.countP Call.isCursorExit ≤ 1 := by
  have hwork : ∀ {before work : List Call} {on : Connection},
      KeepsTo d before work (x.script on op c) → work.countP Call.isCursorExit ≤ 1 := by
    rintro before work on ⟨hasRows, hsub, -⟩
    exact Nat.le_trans hsub.countP_le (countP_isCursorExit_script_le x on op c hasRows)
  cases h with
  | closed ended => exact Nat.zero_le 1
  | unopenable alive access => exact Nat.zero_le 1
  | lent alive access keeps reflects => exact hwork keeps
  | refused alive access refuses => exact Nat.zero_le 1
  | @own o a work out alive access opens keeps reflects =>
      have hleaving : (x.leaving d (s.trace.calls ++ [o.call]) (.opened s.connects) a work).countP
          Call.isCursorExit = 0 := by
        rw [leaving]
        split <;> rfl
      have hopen : [o.call].countP Call.isCursorExit = 0 := rfl
      rw [← List.singleton_append, List.countP_append, List.countP_append, hopen, hleaving,
        Nat.zero_add, Nat.add_zero]
      exact hwork keeps

theorem Driven.reflects {op : Operation} {c : Compiled Val} {s : State} {calls : List Call}
    {out : Except Failure Val} (h : Driven x d op c s calls out) (asked : calls ≠ []) :
    Reflects d s.trace.calls calls out := by
  cases h with
  | closed ended => exact absurd rfl asked
  | unopenable alive access => exact absurd rfl asked
  | lent alive access keeps reflects => exact reflects
  | refused alive access refuses => exact .single_error refuses
  | own alive access opens keeps reflects => exact reflects

/-- A turn that reaches the driver answers with what came of it there, unless an observer
interrupts it. -/
theorem Answered.raisesFirstOrExit {s t : State} {r : Request} {reply : Except Failure Reply}
    {entries : Trace} (h : Answered x d s r reply entries t)
    (closes : ∀ before on, d before (.close on) = .ok ()) (asked : entries.calls ≠ []) :
    Interrupted x reply entries
      ∨ RaisesFirstOrExit reply (failures d s.trace.calls entries.calls) := by
  cases h with
  | @query op subject c reply entries form queried =>
      rcases queried.calls_cases with ⟨hnone, -⟩ | ⟨out, driven, rfl | ⟨raised, rfl, htold⟩⟩
      · exact absurd hnone asked
      · exact .inr (raisesFirstOrExit_of_reflects ((driven.reflects asked).map Reply.value) closes
          driven.countP_isCursorExit_le)
      · exact .inl ⟨raised, rfl, htold⟩
  | notQuery form => exact absurd rfl asked
  | enter => exact absurd rfl asked
  | exit => exact absurd rfl asked
  | close => exact absurd rfl asked

/-! ## Connections of different turns -/

/-- All calls of a turn are made on the connection that it opens. -/
theorem Conduct.connection? {before calls : List Call} {r : Request}
    {reply : Except Failure Reply} (h : Conduct x d before r reply calls) :
    ∀ call ∈ calls, ∀ on, call.connection? = some on →
      on = nextConnection before ∧ 0 < calls.countP Call.isConnect := by
  have hopened : ∀ (o : Opening) (rest : List Call),
      (∀ call ∈ rest, call.connection? = some (nextConnection before)) →
        ∀ call ∈ o.call :: rest, ∀ on, call.connection? = some on →
          on = nextConnection before ∧ 0 < (o.call :: rest).countP Call.isConnect := by
    intro o rest hrest call hcall on hon
    constructor
    · rcases List.mem_cons.mp hcall with rfl | hcall
      · cases hon
      · rw [hrest call hcall] at hon
        exact (Option.some.inj hon).symm
    · rw [List.countP_cons, o.isConnect_call]
      exact Nat.succ_pos _
  cases h with
  | unasked fails =>
      intro call hcall
      cases hcall
  | refused access refuses => exact hopened _ [] fun call hcall => by cases hcall
  | uncommitted access form opens keeps left =>
      apply hopened
      intro call hcall
      rcases List.mem_append.mp hcall with hcall | hcall
      · exact connection?_of_keepsTo keeps call hcall
      · rw [List.mem_singleton.mp hcall]
        rfl
  | committed access form opens keeps succeeds due =>
      apply hopened
      intro call hcall
      rcases List.mem_append.mp hcall with hcall | hcall
      · exact connection?_of_keepsTo keeps call hcall
      · simp only [List.mem_cons, List.not_mem_nil, or_false] at hcall
        rcases hcall with rfl | rfl <;> rfl

namespace History

variable {s u : State} {ts : List Turn} {opening : Except Failure Opening}

/-- The connections of a run are those that are opened in it. -/
theorem exists_opened (h : History x d s ts u) (counted : Counted s)
    (own : x.access = .own opening) {t : Turn} (ht : t ∈ ts) :
    ∀ call ∈ t.calls, ∀ on, call.connection? = some on → ∃ n, on = .opened n ∧ s.connects ≤ n := by
  induction h with
  | nil s => cases ht
  | @cons s t' u turn turns trace answered rest ih =>
      have hgrows : s.connects ≤ t'.connects := by
        rw [counted, answered.counted counted, trace, Trace.calls_append, List.countP_append]
        exact Nat.le_add_right _ _
      intro call hcall on hon
      rcases List.mem_cons.mp ht with rfl | ht
      · obtain ⟨rfl, -⟩ := (answered.conduct counted own).connection? call hcall on hon
        exact ⟨_, rfl, Nat.le_of_eq counted⟩
      · obtain ⟨n, rfl, hn⟩ := ih (answered.counted counted) ht call hcall on hon
        exact ⟨n, rfl, Nat.le_trans hgrows hn⟩

/-- No connection that one turn uses is used by another one. -/
theorem connections_pairwise (h : History x d s ts u) (counted : Counted s)
    (own : x.access = .own opening) :
    ts.Pairwise fun t t' => ∀ call ∈ t.calls, ∀ call' ∈ t'.calls,
      call.connection? = call'.connection? → call.connection? = none := by
  induction h with
  | nil s => exact .nil
  | @cons s t' u turn turns trace answered rest ih =>
      refine .cons ?_ (ih (answered.counted counted))
      intro t ht call hcall call' hcall' heq
      cases hon : call.connection? with
      | none => rfl
      | some on =>
          obtain ⟨rfl, hpos⟩ := (answered.conduct counted own).connection? call hcall on hon
          obtain ⟨n, hn, hle⟩ := rest.exists_opened (answered.counted counted) own ht call' hcall'
            _ (heq ▸ hon)
          have hgrows : t'.connects
              = s.trace.calls.countP Call.isConnect + turn.entries.calls.countP Call.isConnect := by
            rw [answered.counted counted, trace, Trace.calls_append, List.countP_append]
          rw [nextConnection, Connection.opened.injEq] at hn
          omega

end History

/-! ## Whole runs -/

/-- What holds of the connections in a whole run of a new executor. -/
structure Disciplined (setup : Setup) (x : Executor) (d : Driver) (rs : List Request) : Prop where
  /-- there is one turn for each request -/
  turns : ComesOf x d rs (x.turns d rs {})
  /-- where a connection is lent, none is ever opened, committed or closed -/
  lent : setup.lent = true → ∀ t ∈ x.turns d rs {}, ∀ call ∈ t.calls,
    call.isConnect = false ∧ ∀ on, call ≠ .commit on ∧ call ≠ .close on
  /-- where none is lent, a turn opens at most one, and closes it in the end -/
  conduct : setup.lent = false → ∀ pre t post, x.turns d rs {} = pre ++ t :: post →
    Conduct x d (pre.flatMap Turn.calls) t.request t.reply t.calls
  /-- no connection that is opened is used in two turns -/
  apart : setup.lent = false → (x.turns d rs {}).Pairwise fun t u =>
    ∀ call ∈ t.calls, ∀ call' ∈ u.calls,
      call.connection? = call'.connection? → call.connection? = none
  /-- a turn raises the first failure of the driver or that of leaving the cursor behind it, unless
  an observer raised something -/
  raises : ∀ pre t post, x.turns d rs {} = pre ++ t :: post → t.calls ≠ [] →
    Interrupted x t.reply t.entries
      ∨ RaisesFirstOrExit t.reply (failures d (pre.flatMap Turn.calls) t.calls)

/-- Over whole runs, and whatever the driver does but fail to close, an executor that is lent a
connection leaves it open and uncommitted.  Any other one opens a connection for one turn at a time,
commits it if the work on it went well and it does not commit by itself, and closes it. -/
theorem connections_disciplined {setup : Setup} {store store' : Value.Store} {x : Executor}
    (made : setup.executor store = .ok (.ok x) store') {d : Driver}
    (closes : ∀ before on, d before (.close on) = .ok ()) (rs : List Request) :
    Disciplined setup x d rs := by
  have hmade := setup.makes_of_executor made
  constructor
  case turns => exact comesOf_turns x d rs
  case lent =>
    intro lent t ht
    obtain ⟨s, u, hanswered⟩ := exists_answered_of_mem_turns ht
    exact hanswered.lent (hmade.lent lent)
  case conduct =>
    intro lent pre t post hturns
    obtain ⟨opening, own⟩ := hmade.own lent
    obtain ⟨s, u, hbefore, hcounted, hanswered⟩ := exists_answered_of_turns_eq hturns
    rw [← hbefore]
    exact hanswered.conduct hcounted own
  case apart =>
    intro lent
    obtain ⟨opening, own⟩ := hmade.own lent
    obtain ⟨-, -, hhistory⟩ := history_turns x d rs {}
    exact hhistory.connections_pairwise rfl own
  case raises =>
    intro pre t post hturns asked
    obtain ⟨s, u, hbefore, -, hanswered⟩ := exists_answered_of_turns_eq hturns
    rw [← hbefore]
    exact hanswered.raisesFirstOrExit closes asked

/-- A run in which the statement of the first turn is refused and the second turn goes well. -/
theorem connections_disciplined_of_refused_statement :
    let setup : Setup := { dialect := .postgres, info := .str "dsn" }
    let x : Executor := {
      dialect := .postgres
      access := .own (.ok ⟨[.str "dsn"], []⟩)
      compiler := .percent
      component := componentOf "PostgresExecutor" }
    let rs : List Request :=
      [.query .executeRaw (.raw "drop table t"), .query .fetchAll (.compiled ⟨"select 1", []⟩)]
    setup.executor {} = .ok (.ok x) {} ∧ (∀ before on, lockedDriver before (.close on) = .ok ())
      ∧ Disciplined setup x lockedDriver rs
      ∧ (x.turns lockedDriver rs {}).map Turn.calls =
        [[.connect [.str "dsn"] [], .cursor (.opened 0), .cursorEnter (.opened 0),
            .execute (.opened 0) "drop table t" none, .cursorExit (.opened 0), .close (.opened 0)],
          [.connect [.str "dsn"] [], .cursor (.opened 1), .cursorEnter (.opened 1),
            .execute (.opened 1) "select 1" (some []), .fetchAll (.opened 1),
            .cursorExit (.opened 1), .commit (.opened 1), .close (.opened 1)]] := by
  intro setup x rs
  have made : setup.executor {} = .ok (.ok x) {} := rfl
  have closes : ∀ before on, lockedDriver before (.close on) = .ok () := fun _ _ => rfl
  exact ⟨made, closes, connections_disciplined made closes rs, rfl⟩

/-- The first failure of the driver need not be what is raised: a statement is refused, but the
caller receives the failure of leaving the cursor behind it; and where nothing else fails on the
driver, the caller receives what an observer raised. -/
theorem first_failure_of_driver_not_raised :
    let r : Request := .query .executeRaw (.raw "drop table t")
    let refused : Raised := ⟨"OperationalError", "table is locked", false⟩
    let lost : Raised := ⟨"OperationalError", "the connection is lost", false⟩
    let setup : Setup := { dialect := .postgres, info := .str "dsn" }
    let x : Executor := {
      dialect := .postgres
      access := .own (.ok ⟨[.str "dsn"], []⟩)
      compiler := .percent
      component := componentOf "PostgresExecutor" }
    let t : Turn := (x.turn losingDriver r {}).1
    let watched : Setup := {
      dialect := .sqlite, info := .str "app.db", observers := failingObservers }
    let y : Executor := {
      dialect := .sqlite
      access := .own (.ok ⟨[.str "app.db"], []⟩)
      compiler := Dialect.sqlite.compiler
      component := componentOf "SqliteExecutor"
      observers := failingObservers }
    let u : Turn := (y.turn lockedDriver r {}).1
    (setup.executor {} = .ok (.ok x) {} ∧ (∀ before on, losingDriver before (.close on) = .ok ())
        ∧ x.turns losingDriver [r] {} = [t]
        ∧ failures losingDriver [] t.calls
          = [(.execute (.opened 0) "drop table t" none, refused), (.cursorExit (.opened 0), lost)]
        ∧ t.reply = .error (.raised lost) ∧ lost ≠ refused)
      ∧ watched.executor {} = .ok (.ok y) {}
        ∧ (∀ before on, lockedDriver before (.close on) = .ok ())
        ∧ y.turns lockedDriver [r] {} = [u]
        ∧ failures lockedDriver [] u.calls
          = [(.execute (.opened 0) "drop table t" (some []), refused)]
        ∧ u.reply = .error (.raised ⟨"ObserverError", "obs", false⟩) := by
  intro r refused lost setup x t watched y u
  have hlost : lost ≠ refused := by decide
  exact ⟨⟨rfl, fun _ _ => rfl, rfl, rfl, rfl, hlost⟩, rfl, fun _ _ => rfl, rfl, rfl, rfl⟩

end Executor

end BoundSql.Execution
