import BoundSql.Proofs.Calling
set_option autoImplicit false

/-!
# How a query uses the driver

The calls that a query makes on the driver follow a script: the connection is opened unless it is
lent, the statement is executed and its rows are fetched, inside a cursor where the dialect has
them, and a connection of its own is committed and closed.

A run keeps to a script if it makes the calls of the script up to the first one that fails, and
behind that only the exits that are due (`KeepsTo`).  `Driven` lists the ways in which a query can
go by that: not at all, since the executor is closed or has nothing to open; on a connection that is
lent; without a connection, since it is refused; or on a connection of its own, with what is called
to leave it (`leaving`).  Every query goes in one of these ways on every driver (`exists_driven`).

What else is said of the calls of a query follows from that list.  How often a cursor is left, on
which connection a call is made and whether anything is committed are facts about scripts, and no
proof about executors has to look into the way they are run.
-/

namespace BoundSql.Execution

open BoundSql.Query (Compiled)
open BoundSql.Value (Val)

/-! ## Scripts -/

/-- Calls that keep to a script, which depends on whether there are rows: they come in its order,
and all of them come if none fails. -/
def KeepsTo (d : Driver) (before calls : List Call) (script : Bool → List Call) : Prop :=
  ∃ hasRows, calls.Sublist (script hasRows)
    ∧ (failures d before calls = [] → calls = script hasRows)

/-- The call that opens a connection. -/
def Opening.call (o : Opening) : Call := .connect o.positional o.keywords

/-- Whether a call opens a connection. -/
def Call.isConnect (c : Call) : Bool := c.connection?.isNone

@[simp] theorem Opening.isConnect_call (o : Opening) : o.call.isConnect = true := rfl

/-- Whether a call leaves a cursor. -/
def Call.isCursorExit : Call → Bool
  | cursorExit _ => true
  | _ => false

/-- Calls on a connection ask for no other one. -/
theorem countP_isConnect_of_connection? {on : Connection} {cs : List Call}
    (h : ∀ c ∈ cs, c.connection? = some on) : cs.countP Call.isConnect = 0 := by
  rw [List.countP_eq_zero]
  intro c hc
  simp [Call.isConnect, h c hc]

/-- The state behind the calls of a query, with the connections counted that were asked for. -/
def State.driven (s : State) (cs : List Call) : State :=
  { s.called cs with connects := s.connects + cs.countP Call.isConnect }

@[simp] theorem State.calls_driven (s : State) (cs : List Call) :
    (s.driven cs).trace.calls = s.trace.calls ++ cs := s.calls_called cs

theorem State.driven_of_connection? {on : Connection} {cs : List Call}
    (h : ∀ c ∈ cs, c.connection? = some on) (s : State) : s.driven cs = s.called cs := by
  rw [driven, countP_isConnect_of_connection? h]
  rfl

/-- Behind a connect, calls on the connection ask for no other one. -/
theorem State.called_driven_of_connection? {o : Opening} {on : Connection} {cs : List Call}
    (h : ∀ c ∈ cs, c.connection? = some on) (s : State) :
    (s.driven [o.call]).called cs = s.driven (o.call :: cs) := by
  have hcount : (o.call :: cs).countP Call.isConnect = 1 := by
    rw [List.countP_cons, countP_isConnect_of_connection? h, o.isConnect_call]
    rfl
  have hfirst : [o.call].countP Call.isConnect = 1 := rfl
  simp [State.driven, State.called, State.traced, hcount, hfirst]

/-- A driver that refuses to drop a table and does all else, as an example. -/
def lockedDriver : Driver := fun _ call =>
  match call with
  | .connect .. => .ok .missing
  | .execute _ sql _ =>
      if sql = "drop table t" then .error ⟨"OperationalError", "table is locked", false⟩
      else .ok true
  | .fetchAll _ | .fetchOne _ => .ok .none
  | .cursor _ | .cursorEnter _ | .cursorExit _ | .commit _ | .close _ => .ok ()

/-- A driver that does as the one before but loses the connection when a cursor is left. -/
def losingDriver : Driver := fun before call =>
  match call with
  | .cursorExit _ => .error ⟨"OperationalError", "the connection is lost", false⟩
  | call => lockedDriver before call

namespace Executor

/-- Observers of which the one that is told how queries went always fails. -/
def failingObservers : Observers where
  query := some fun _ => some ⟨"ObserverError", "obs", false⟩
  event := some fun _ => none

/-- The calls that fetch the rows of a statement. -/
def fetchCalls (on : Connection) (fetch : Fetch) (hasRows : Bool) : List Call :=
  match fetch with
  | .ifAny => if hasRows then [.fetchAll on] else []
  | .all => [.fetchAll on]
  | .one => [.fetchOne on]
  | .nothing => []

/-- The calls of a statement. -/
def statementCalls (on : Connection) (sql : String) (params : Option (List Val)) (fetch : Fetch)
    (hasRows : Bool) : List Call :=
  .execute on sql params :: fetchCalls on fetch hasRows

/-- The calls around those inside a cursor. -/
def cursorCalls (on : Connection) (inside : List Call) : List Call :=
  .cursor on :: .cursorEnter on :: (inside ++ [.cursorExit on])

/-- The calls with which a dialect uses a connection for a statement. -/
def script (x : Executor) (on : Connection) (op : Operation) (c : Compiled Val)
    (hasRows : Bool) : List Call :=
  let calls := statementCalls on c.sql (x.driverParams op c.params) op.fetch hasRows
  match x.dialect with
  | .sqlite => calls
  | .postgres => cursorCalls on calls

/-- The calls that are made on a connection of its own behind the work on it: a commit, if the work
went well and the connection does not commit by itself, and the close. -/
def leaving (x : Executor) (d : Driver) (before : List Call) (on : Connection) (a : Autocommit)
    (work : List Call) : List Call :=
  (if (failures d before work).isEmpty && x.commits a then [.commit on] else []) ++ [.close on]

section Script

variable {x : Executor} {on : Connection} {op : Operation} {c : Compiled Val} {hasRows : Bool}

theorem mem_script_cases {call : Call} (h : call ∈ x.script on op c hasRows) :
    call = .execute on c.sql (x.driverParams op c.params) ∨ call = .fetchAll on
      ∨ call = .fetchOne on ∨ call = .cursor on ∨ call = .cursorEnter on
      ∨ call = .cursorExit on := by
  have hfetch : ∀ call ∈ fetchCalls on op.fetch hasRows,
      call = .fetchAll on ∨ call = .fetchOne on := by
    intro call hcall
    cases op <;> cases hasRows <;> simp_all [fetchCalls, Operation.fetch]
  have hstatement : ∀ call ∈ statementCalls on c.sql (x.driverParams op c.params) op.fetch hasRows,
      call = .execute on c.sql (x.driverParams op c.params) ∨ call = .fetchAll on
        ∨ call = .fetchOne on := by
    intro call hcall
    rcases List.mem_cons.mp hcall with rfl | hcall
    · exact .inl rfl
    · exact .inr (hfetch call hcall)
  rw [script] at h
  cases hd : x.dialect with
  | sqlite =>
      rw [hd] at h
      rcases hstatement call h with h | h | h
      · exact .inl h
      · exact .inr (.inl h)
      · exact .inr (.inr (.inl h))
  | postgres =>
      rw [hd] at h
      simp only [cursorCalls, List.mem_cons, List.mem_append, List.not_mem_nil, or_false] at h
      rcases h with h | h | h | h
      · exact .inr (.inr (.inr (.inl h)))
      · exact .inr (.inr (.inr (.inr (.inl h))))
      · rcases hstatement call h with h | h | h
        · exact .inl h
        · exact .inr (.inl h)
        · exact .inr (.inr (.inl h))
      · exact .inr (.inr (.inr (.inr (.inr h))))

theorem connection?_of_mem_script {call : Call} (h : call ∈ x.script on op c hasRows) :
    call.connection? = some on := by
  rcases mem_script_cases h with rfl | rfl | rfl | rfl | rfl | rfl <;> rfl

/-- A script leaves one cursor at most. -/
theorem countP_isCursorExit_script_le (x : Executor) (on : Connection) (op : Operation)
    (c : Compiled Val) (hasRows : Bool) :
    (x.script on op c hasRows).countP Call.isCursorExit ≤ 1 := by
  have hstatement : (statementCalls on c.sql (x.driverParams op c.params) op.fetch hasRows).countP
      Call.isCursorExit = 0 := by
    cases op <;> cases hasRows <;> rfl
  rw [script]
  cases x.dialect with
  | sqlite => exact Nat.le_trans (Nat.le_of_eq hstatement) (Nat.zero_le 1)
  | postgres =>
      change (Call.cursor on :: Call.cursorEnter on :: (_ ++ [Call.cursorExit on])).countP _ ≤ 1
      rw [List.countP_cons, List.countP_cons, List.countP_append, hstatement]
      exact Nat.le_refl 1

end Script

/-! ## What the parts of a query make of the driver -/

theorem exists_makes_fetchRows (d : Driver) (on : Connection) (hasRows : Bool) (fetch : Fetch)
    (s : State) :
    ∃ out, Makes d (fetchRows d on hasRows fetch) s (fetchCalls on fetch hasRows) out := by
  cases fetch with
  | ifAny =>
      cases hasRows with
      | true => exact exists_makes_call d (.fetchAll on) s
      | false => exact ⟨_, .pure _⟩
  | all => exact exists_makes_call d (.fetchAll on) s
  | one => exact exists_makes_call d (.fetchOne on) s
  | nothing => exact ⟨_, .pure _⟩

/-- A call in front of a run is the first one of its script. -/
theorem exists_makes_call_bind {α : Type} {d : Driver} {c : Call} {f : c.Answer → Run α}
    {s : State} {script : Bool → List Call}
    (hf : ∀ a, ∃ work out, Makes d (f a) (s.called [c]) work out
      ∧ KeepsTo d (s.called [c]).trace.calls work script) :
    ∃ work out, Makes d (Run.call d c >>= f) s work out
      ∧ KeepsTo d s.trace.calls work fun hasRows => c :: script hasRows := by
  cases h : d s.trace.calls c with
  | error r =>
      refine ⟨[c], _, (Makes.call_error h).bind_error f, false, ?_, ?_⟩
      · exact List.cons_sublist_cons.mpr (List.nil_sublist _)
      · intro hnone
        rw [failures_singleton_of_error h] at hnone
        cases hnone
  | ok a =>
      obtain ⟨work, out, hwork, hasRows, hsub, hall⟩ := hf a
      refine ⟨[c] ++ work, out, (Makes.call_ok h).bind hwork, hasRows, ?_, ?_⟩
      · exact List.cons_sublist_cons.mpr hsub
      · intro hnone
        rw [failures_append, failures_singleton_of_ok h, List.nil_append,
          ← State.calls_called] at hnone
        rw [hall hnone]
        rfl

/-- A call that is ensured behind a run is the last one of its script. -/
theorem exists_makes_ensuring {α : Type} {d : Driver} {y : Run α} {s : State}
    {script : Bool → List Call}
    (hy : ∃ work out, Makes d y s work out ∧ KeepsTo d s.trace.calls work script)
    {c : Call} (tidies : c.tidies = true) (last : Run Unit)
    (hlast : ∀ t, ∃ out, Makes d last t [c] out) :
    ∃ work out, Makes d (y.ensuring fun _ => last) s work out
      ∧ KeepsTo d s.trace.calls work fun hasRows => script hasRows ++ [c] := by
  obtain ⟨work, out, hwork, hasRows, hsub, hall⟩ := hy
  obtain ⟨out', hcall⟩ := hlast (s.called work)
  have htidy : ∀ call ∈ [c], call.tidies = true := by
    intro call hcall
    rw [List.mem_singleton.mp hcall]
    exact tidies
  refine ⟨work ++ [c], _, hwork.ensuring hcall htidy, hasRows, ?_, ?_⟩
  · exact hsub.append (List.Sublist.refl _)
  · intro hnone
    rw [failures_append] at hnone
    rw [hall (List.append_eq_nil_iff.mp hnone).1]

theorem exists_makes_statement (d : Driver) (on : Connection) (sql : String)
    (params : Option (List Val)) (fetch : Fetch) (s : State) :
    ∃ work out, Makes d (statement d on sql params fetch) s work out
      ∧ KeepsTo d s.trace.calls work (statementCalls on sql params fetch) := by
  refine exists_makes_call_bind fun hasRows => ?_
  obtain ⟨out, hfetch⟩ :=
    exists_makes_fetchRows d on hasRows fetch (s.called [.execute on sql params])
  exact ⟨_, out, hfetch, hasRows, List.Sublist.refl _, fun _ => rfl⟩

theorem exists_makes_insideCursor {α : Type} {d : Driver} {y : Run α} {inside : Bool → List Call}
    (hy : ∀ t, ∃ work out, Makes d y t work out ∧ KeepsTo d t.trace.calls work inside)
    (on : Connection) (s : State) :
    ∃ work out, Makes d (insideCursor d on y) s work out
      ∧ KeepsTo d s.trace.calls work fun hasRows => cursorCalls on (inside hasRows) := by
  refine exists_makes_call_bind fun _ => ?_
  refine exists_makes_call_bind fun _ => ?_
  exact exists_makes_ensuring (hy _) rfl _ (exists_makes_call d (.cursorExit on))

/-- Using a connection keeps to the script of the dialect. -/
theorem exists_makes_useConnection (x : Executor) (d : Driver) (on : Connection) (op : Operation)
    (c : Compiled Val) (s : State) :
    ∃ work out, Makes d (x.useConnection d on op c) s work out
      ∧ KeepsTo d s.trace.calls work (x.script on op c) := by
  have hstatement := exists_makes_statement d on c.sql (x.driverParams op c.params) op.fetch
  cases hd : x.dialect with
  | sqlite =>
      have hscript : x.script on op c
          = statementCalls on c.sql (x.driverParams op c.params) op.fetch := by
        funext hasRows
        rw [script, hd]
      rw [useConnection, hd, hscript]
      exact hstatement s
  | postgres =>
      have hscript : x.script on op c = fun hasRows => cursorCalls on
          (statementCalls on c.sql (x.driverParams op c.params) op.fetch hasRows) := by
        funext hasRows
        rw [script, hd]
      rw [useConnection, hd, hscript]
      exact exists_makes_insideCursor hstatement on s

/-! ## The ways in which a query can go -/

/-- The ways in which a query can go on the driver from the state `s` on: the calls that it makes,
and what comes of it before any observer is told. -/
inductive Driven (x : Executor) (d : Driver) (op : Operation) (c : Compiled Val) (s : State) :
    List Call → Except Failure Val → Prop where
  /-- the life of the executor is over -/
  | closed (ended : s.closed = true) : Driven x d op c s [] (.error .closed)
  /-- there is nothing that a connection could be opened with -/
  | unopenable {f : Failure} (alive : s.closed = false) (access : x.access = .own (.error f)) :
      Driven x d op c s [] (.error f)
  /-- the connection that the caller lends is used and left alone -/
  | lent {work : List Call} {out : Except Failure Val} (alive : s.closed = false)
      (access : x.access = .lent) (keeps : KeepsTo d s.trace.calls work (x.script .lent op c))
      (reflects : Reflects d s.trace.calls work out) : Driven x d op c s work out
  /-- no connection is opened -/
  | refused {o : Opening} {r : Raised} (alive : s.closed = false) (access : x.access = .own (.ok o))
      (refuses : d s.trace.calls o.call = .error r) :
      Driven x d op c s [o.call] (.error (.raised r))
  /-- a connection is opened, used and closed -/
  | own {o : Opening} {a : Autocommit} {work : List Call} {out : Except Failure Val}
      (alive : s.closed = false) (access : x.access = .own (.ok o))
      (opens : d s.trace.calls o.call = .ok a)
      (keeps : KeepsTo d (s.trace.calls ++ [o.call]) work (x.script (.opened s.connects) op c))
      (reflects : Reflects d s.trace.calls (o.call :: (work
        ++ x.leaving d (s.trace.calls ++ [o.call]) (.opened s.connects) a work)) out) :
      Driven x d op c s (o.call :: (work
        ++ x.leaving d (s.trace.calls ++ [o.call]) (.opened s.connects) a work)) out

theorem connection?_of_keepsTo {x : Executor} {d : Driver} {on : Connection} {op : Operation}
    {c : Compiled Val} {before work : List Call} (h : KeepsTo d before work (x.script on op c)) :
    ∀ call ∈ work, call.connection? = some on := by
  obtain ⟨hasRows, hsub, -⟩ := h
  intro call hcall
  exact connection?_of_mem_script (hsub.subset hcall)

/-- Work on a connection and what is made behind it is all made on that connection. -/
theorem connection?_of_mem_leaving {x : Executor} {d : Driver} {before work : List Call}
    {on : Connection} {a : Autocommit} (h : ∀ call ∈ work, call.connection? = some on) :
    ∀ call ∈ work ++ x.leaving d before on a work, call.connection? = some on := by
  intro call hcall
  rcases List.mem_append.mp hcall with hcall | hcall
  · exact h call hcall
  · rw [leaving] at hcall
    split at hcall <;> simp at hcall
    · rcases hcall with rfl | rfl <;> rfl
    · rw [hcall]
      rfl

/-- Uses a connection and commits it if a commit is due. -/
def useAndCommit (x : Executor) (d : Driver) (on : Connection) (op : Operation) (c : Compiled Val)
    (a : Autocommit) : Run Val := do
  let rows ← x.useConnection d on op c
  if x.commits a then Run.call d (.commit on)
  pure rows

/-- Work on a connection of its own is followed by a commit if it went well and one is due. -/
theorem exists_makes_useAndCommit (x : Executor) (d : Driver) (on : Connection) (op : Operation)
    (c : Compiled Val) (a : Autocommit) (s : State) :
    ∃ work out,
      Makes d (x.useAndCommit d on op c a) s
        (work ++ if (failures d s.trace.calls work).isEmpty && x.commits a
          then [.commit on] else []) out
      ∧ KeepsTo d s.trace.calls work (x.script on op c) := by
  obtain ⟨work, out, hwork, hkeeps⟩ := exists_makes_useConnection x d on op c s
  rw [useAndCommit]
  cases out with
  | error f =>
      obtain ⟨q, hq, -⟩ := hwork.reflects.raises f rfl
      have hfailed : (failures d s.trace.calls work).isEmpty = false := by
        rw [List.isEmpty_eq_false_iff]
        intro hnone
        rw [hnone] at hq
        cases hq
      refine ⟨work, .error f, ?_, hkeeps⟩
      rw [hfailed, Bool.false_and, if_neg Bool.false_ne_true, List.append_nil]
      exact hwork.bind_error _
  | ok rows =>
      have hwell : (failures d s.trace.calls work).isEmpty = true := by
        rw [hwork.reflects.succeeds rows rfl, List.isEmpty_nil]
      cases hcommits : x.commits a with
      | false =>
          refine ⟨work, .ok rows, ?_, hkeeps⟩
          rw [Bool.and_false]
          exact hwork.bind (.pure rows)
      | true =>
          obtain ⟨out, hcommit⟩ : ∃ out, Makes d
              (Run.call d (.commit on) >>= fun _ => Pure.pure rows) (s.called work)
              [.commit on] out := by
            cases h : d (s.called work).trace.calls (.commit on) with
            | error r => exact ⟨_, (Makes.call_error h).bind_error _⟩
            | ok _ => exact ⟨_, (Makes.call_ok h).bind (.pure rows)⟩
          refine ⟨work, out, ?_, hkeeps⟩
          rw [hwell, Bool.and_true]
          exact hwork.bind hcommit

section Run

variable {x : Executor} {d : Driver} {op : Operation} {c : Compiled Val} {s : State}

theorem runOnConnection_of_closed (ended : s.closed = true) :
    x.runOnConnection d op c s = .error .closed s := by
  have hget : (get : Run State) s = .ok s s := rfl
  rw [runOnConnection, bind_of_ok hget, if_pos ended]
  rfl

theorem runOnConnection_of_alive (alive : s.closed = false) :
    x.runOnConnection d op c s = (match x.access with
      | .lent => x.useConnection d .lent op c
      | .own (.error f) => throw f
      | .own (.ok o) => do
          let (on, a) ← openConnection d o
          (x.useAndCommit d on op c a).ensuring fun _ => Run.call d (.close on)) s := by
  have hget : (get : Run State) s = .ok s s := rfl
  rw [runOnConnection, bind_of_ok hget, if_neg (by rw [alive]; exact Bool.false_ne_true)]
  rfl

theorem openConnection_of_ok {o : Opening} {a : Autocommit} (h : d s.trace.calls o.call = .ok a) :
    openConnection d o s = .ok (.opened s.connects, a) (s.driven [o.call]) := by
  have hcall : Run.call d o.call { s with connects := s.connects + 1 }
      = .ok a (s.driven [o.call]) := Run.call_ok h
  have hget : (get : Run State) s = .ok s s := rfl
  have hset : (set { s with connects := s.connects + 1 } : Run PUnit) s
      = .ok ⟨⟩ { s with connects := s.connects + 1 } := rfl
  rw [openConnection, bind_of_ok hget, bind_of_ok hset]
  exact bind_of_ok hcall _

theorem openConnection_of_error {o : Opening} {r : Raised}
    (h : d s.trace.calls o.call = .error r) :
    openConnection d o s = .error (.raised r) (s.driven [o.call]) := by
  have hcall : Run.call d o.call { s with connects := s.connects + 1 }
      = .error (.raised r) (s.driven [o.call]) := Run.call_error h
  have hget : (get : Run State) s = .ok s s := rfl
  have hset : (set { s with connects := s.connects + 1 } : Run PUnit) s
      = .ok ⟨⟩ { s with connects := s.connects + 1 } := rfl
  rw [openConnection, bind_of_ok hget, bind_of_ok hset]
  exact bind_of_error hcall _

end Run

/-- What a query does on the driver. -/
theorem exists_driven (x : Executor) (d : Driver) (op : Operation) (c : Compiled Val)
    (s : State) :
    ∃ calls out, x.runOnConnection d op c s = ending out (s.driven calls)
      ∧ Driven x d op c s calls out := by
  have hidle : s.driven [] = s := by simp [State.driven]
  cases halive : s.closed with
  | true =>
      refine ⟨[], .error .closed, ?_, .closed halive⟩
      rw [hidle, runOnConnection_of_closed halive]
      rfl
  | false =>
  rw [runOnConnection_of_alive halive]
  cases haccess : x.access with
  | lent =>
      obtain ⟨work, out, hwork, hkeeps⟩ := exists_makes_useConnection x d .lent op c s
      refine ⟨work, out, ?_, .lent halive haccess hkeeps hwork.reflects⟩
      rw [s.driven_of_connection? (connection?_of_keepsTo hkeeps)]
      exact hwork.run
  | own opening =>
  cases opening with
  | error f =>
      refine ⟨[], .error f, ?_, .unopenable halive haccess⟩
      rw [hidle]
      rfl
  | ok o =>
  cases hopen : d s.trace.calls o.call with
  | error r =>
      refine ⟨[o.call], .error (.raised r), ?_, .refused halive haccess hopen⟩
      exact bind_of_error (openConnection_of_error hopen) _
  | ok a =>
      obtain ⟨work, out, hwork, hkeeps⟩ :=
        exists_makes_useAndCommit x d (.opened s.connects) op c a (s.driven [o.call])
      rw [s.calls_driven] at hwork hkeeps
      obtain ⟨out', hclose⟩ := exists_makes_call d (.close (.opened s.connects))
        ((s.driven [o.call]).called _)
      have hused := hwork.ensuring hclose (by simp [Call.tidies])
      rw [List.append_assoc] at hused
      change Makes d _ _ (work
        ++ x.leaving d (s.trace.calls ++ [o.call]) (.opened s.connects) a work) _ at hused
      have hon : ∀ call ∈ work
          ++ x.leaving d (s.trace.calls ++ [o.call]) (.opened s.connects) a work,
          call.connection? = some (.opened s.connects) :=
        connection?_of_mem_leaving (connection?_of_keepsTo hkeeps)
      have hfirst : Reflects d s.trace.calls [o.call] (.ok ()) := .single_ok hopen ()
      have hreflects := hfirst.append_of_ok (s.calls_driven [o.call] ▸ hused.reflects)
      refine ⟨_, out' >>= fun _ => out, ?_, .own halive haccess hopen hkeeps hreflects⟩
      rw [← s.called_driven_of_connection? hon]
      exact (bind_of_ok (openConnection_of_ok hopen) _).trans hused.run

end Executor

end BoundSql.Execution
