import BoundSql.Proofs.Turns
set_option autoImplicit false

/-!
# Runs without observers

What observers are told stays in the trace, and nothing else of a run depends on it: the driver sees
the calls before, and the executor knows its queries and connections and whether it is closed.  So
two executors that differ in their observers alone answer alike and make the same calls, as long as
their observers raise the same.

Two states are alike if they agree about all that (`Alike`), and two computations agree if they take
alike states to alike states with the same outcome (`Agree`).  That is kept by sequencing and by
what is done in any case, so the inner part of a query agrees with itself (`agree_runOnConnection`),
and the outer part does where the observers of both sides raise the same errors (`RaiseAlike`).
Over whole runs the turns then look the same to whoever does not see what observers are told
(`Turn.visible`, `lookAlike_of_raiseAlike`).

Observers that raise nothing are the case that matters most (`raiseAlike_of_quiet`).
-/

namespace BoundSql.Execution

open BoundSql.Observe (Event Observation)
open BoundSql.Query (Compiled)
open BoundSql.Value (Val)

variable {α β : Type}

/-! ## States and runs that are alike -/

/-- States that differ at most in what observers were told. -/
structure Alike (s t : State) : Prop where
  calls : s.trace.calls = t.trace.calls
  queries : s.queries = t.queries
  connects : s.connects = t.connects
  closed : s.closed = t.closed

namespace Alike

variable {s t : State}

theorem refl (s : State) : Alike s s := ⟨rfl, rfl, rfl, rfl⟩

/-- Entries without calls make no difference. -/
theorem traced (h : Alike s t) {es fs : Trace} (hes : es.calls = []) (hfs : fs.calls = []) :
    Alike (s.traced es) (t.traced fs) :=
  ⟨by simp [hes, hfs, h.calls], h.queries, h.connects, h.closed⟩

theorem called (h : Alike s t) (cs : List Call) : Alike (s.called cs) (t.called cs) :=
  ⟨by rw [State.calls_called, State.calls_called, h.calls], h.queries, h.connects, h.closed⟩

theorem driven (h : Alike s t) (cs : List Call) : Alike (s.driven cs) (t.driven cs) :=
  ⟨by rw [State.calls_driven, State.calls_driven, h.calls], h.queries,
    congrArg (· + cs.countP Call.isConnect) h.connects, h.closed⟩

end Alike

/-- Computations that answer alike in states that are alike, and leave such states behind. -/
def Agree (x y : Run α) : Prop :=
  ∀ s t, Alike s t → ∃ out s' t', x s = ending out s' ∧ y t = ending out t' ∧ Alike s' t'

namespace Agree

theorem pure (a : α) : Agree (Pure.pure a : Run α) (Pure.pure a) :=
  fun s t h => ⟨.ok a, s, t, rfl, rfl, h⟩

theorem raise (f : Failure) : Agree (throw f : Run α) (throw f) :=
  fun s t h => ⟨.error f, s, t, rfl, rfl, h⟩

theorem bind {x y : Run α} {f g : α → Run β} (hx : Agree x y) (hf : ∀ a, Agree (f a) (g a)) :
    Agree (x >>= f) (y >>= g) := by
  intro s t h
  obtain ⟨out, s', t', hxs, hyt, hbehind⟩ := hx s t h
  cases out with
  | error e => exact ⟨.error e, s', t', bind_of_error hxs f, bind_of_error hyt g, hbehind⟩
  | ok a =>
      obtain ⟨out, s'', t'', hfs, hgt, hend⟩ := hf a s' t' hbehind
      exact ⟨out, s'', t'', (bind_of_ok hxs f).trans hfs, (bind_of_ok hyt g).trans hgt, hend⟩

theorem ensuring {x y : Run α} {last last' : Option Failure → Run Unit} (hx : Agree x y)
    (hlast : ∀ f, Agree (last f) (last' f)) : Agree (x.ensuring last) (y.ensuring last') := by
  intro s t h
  obtain ⟨out, s', t', hxs, hyt, hbehind⟩ := hx s t h
  obtain ⟨out', s'', t'', hls, hlt, hend⟩ := hlast (failure? out) s' t' hbehind
  exact ⟨_, s'', t'', ensuring_of_ending hxs hls, ensuring_of_ending hyt hlt, hend⟩

/-- A driver answers alike where the same calls were made before. -/
theorem call (d : Driver) (c : Call) : Agree (Run.call d c) (Run.call d c) := by
  intro s t h
  cases hd : d s.trace.calls c with
  | ok a => exact ⟨.ok a, _, _, Run.call_ok hd, Run.call_ok (h.calls ▸ hd), h.called [c]⟩
  | error r =>
      exact ⟨.error (.raised r), _, _, Run.call_error hd, Run.call_error (h.calls ▸ hd),
        h.called [c]⟩

end Agree

namespace Executor

variable {d : Driver} {on : Connection}

/-! ## On the driver -/

theorem agree_statement (d : Driver) (on : Connection) (sql : String) (params : Option (List Val))
    (fetch : Fetch) :
    Agree (statement d on sql params fetch) (statement d on sql params fetch) := by
  refine (Agree.call d _).bind fun hasRows => ?_
  cases fetch with
  | ifAny =>
      cases hasRows with
      | true => exact .call d (.fetchAll on)
      | false => exact .pure _
  | all => exact .call d (.fetchAll on)
  | one => exact .call d (.fetchOne on)
  | nothing => exact .pure _

theorem agree_useConnection (x : Executor) (d : Driver) (on : Connection) (op : Operation)
    (c : Compiled Val) : Agree (x.useConnection d on op c) (x.useConnection d on op c) := by
  have hstatement := agree_statement d on c.sql (x.driverParams op c.params) op.fetch
  unfold useConnection
  cases x.dialect with
  | sqlite => exact hstatement
  | postgres =>
      refine (Agree.call d (.cursor on)).bind fun _ => ?_
      refine (Agree.call d (.cursorEnter on)).bind fun _ => ?_
      exact hstatement.ensuring fun _ => .call d (.cursorExit on)

theorem agree_useAndCommit (x : Executor) (d : Driver) (on : Connection) (op : Operation)
    (c : Compiled Val) (a : Autocommit) :
    Agree (x.useAndCommit d on op c a) (x.useAndCommit d on op c a) := by
  refine (x.agree_useConnection d on op c).bind fun rows => ?_
  cases x.commits a with
  | true => exact (Agree.call d (.commit on)).bind fun _ => .pure rows
  | false => exact .pure rows

theorem agree_openConnection (d : Driver) (o : Opening) :
    Agree (openConnection d o) (openConnection d o) := by
  intro s t h
  cases hd : d s.trace.calls o.call with
  | ok a =>
      refine ⟨.ok (.opened s.connects, a), _, _, openConnection_of_ok hd, ?_, h.driven [o.call]⟩
      rw [openConnection_of_ok (h.calls ▸ hd), h.connects]
      rfl
  | error r =>
      exact ⟨.error (.raised r), _, _, openConnection_of_error hd,
        openConnection_of_error (h.calls ▸ hd), h.driven [o.call]⟩

theorem agree_runOnConnection (x : Executor) (d : Driver) (op : Operation) (c : Compiled Val) :
    Agree (x.runOnConnection d op c) (x.runOnConnection d op c) := by
  intro s t h
  cases halive : s.closed with
  | true =>
      exact ⟨.error .closed, s, t, runOnConnection_of_closed halive,
        runOnConnection_of_closed (h.closed ▸ halive), h⟩
  | false =>
      rw [runOnConnection_of_alive halive, runOnConnection_of_alive (h.closed ▸ halive)]
      cases x.access with
      | lent => exact x.agree_useConnection d .lent op c s t h
      | own opening =>
          cases opening with
          | error f => exact Agree.raise f s t h
          | ok o =>
              refine (agree_openConnection d o).bind (fun opened => ?_) s t h
              exact (x.agree_useAndCommit d _ op c _).ensuring fun _ => .call d (.close _)

/-! ## Around the driver -/

/-- The executor with other observers. -/
def watchedBy (x : Executor) (o : Observers) : Executor := { x with observers := o }

variable {x : Executor} {o p : Observers}

/-- Observers that raise the same are told without a difference. -/
theorem agree_emit {e e' : Event} (h : o.eventRaises e = p.eventRaises e') :
    Agree ((x.watchedBy o).emit e) ((x.watchedBy p).emit e') := by
  intro s t hst
  refine ⟨_, _, _, emit_run _ e s, ?_, hst.traced (o.calls_told e) (p.calls_told e')⟩
  rw [emit_run, watchedBy, watchedBy, h]

theorem agree_report {seen seen' : Observation} (h : o.queryRaises seen = p.queryRaises seen') :
    Agree ((x.watchedBy o).report seen) ((x.watchedBy p).report seen') := by
  intro s t hst
  refine ⟨_, _, _, report_run _ seen s, ?_, hst.traced (o.calls_shown seen) (p.calls_shown seen')⟩
  rw [report_run, watchedBy, watchedBy, h]

/-- Two kinds of observers raise the same when they are told of a query. -/
structure RaiseAlike (x : Executor) (o p : Observers) (op : Operation) (c : Compiled Val) :
    Prop where
  begins : ∀ id, o.eventRaises ((x.watchedBy o).beginning op c id)
    = p.eventRaises ((x.watchedBy p).beginning op c id)
  reports : ∀ failure, o.queryRaises ((x.watchedBy o).account op c failure)
    = p.queryRaises ((x.watchedBy p).account op c failure)
  concludes : ∀ id failure, o.eventRaises ((x.watchedBy o).conclusion op c id failure)
    = p.eventRaises ((x.watchedBy p).conclusion op c id failure)

theorem raiseAlike_of_quiet (ho : o.Quiet) (hp : p.Quiet) (op : Operation) (c : Compiled Val) :
    RaiseAlike x o p op c where
  begins _ := (ho.event _).trans (hp.event _).symm
  reports _ := (ho.query _).trans (hp.query _).symm
  concludes _ _ := (ho.event _).trans (hp.event _).symm

theorem agree_observed {run run' : Run α} {op : Operation} {c : Compiled Val}
    (alike : RaiseAlike x o p op c) (hrun : Agree run run') :
    Agree ((x.watchedBy o).observed op c run) ((x.watchedBy p).observed op c run') := by
  intro s t h
  rw [observed_run, observed_run, h.queries]
  have hbegun : Alike { s with queries := t.queries + 1 } { t with queries := t.queries + 1 } :=
    ⟨h.calls, rfl, h.connects, h.closed⟩
  refine (agree_emit (alike.begins _)).bind (fun _ => hrun.ensuring fun failure => ?_) _ _ hbegun
  exact (agree_report (alike.reports failure)).bind fun _ => agree_emit (alike.concludes _ failure)

theorem agree_finish (x : Executor) (o p : Observers) :
    Agree (x.watchedBy o).finish (x.watchedBy p).finish := by
  unfold finish watchedBy
  cases x.dialect with
  | sqlite => exact fun s t h => ⟨.ok (), _, _, rfl, rfl, h.calls, h.queries, h.connects, rfl⟩
  | postgres => exact .pure ()

/-- Two kinds of observers raise the same when they are told of a request. -/
def RaiseAlikeAt (x : Executor) (o p : Observers) (r : Request) : Prop :=
  ∀ op subject c, r = .query op subject → x.form? subject = some c → RaiseAlike x o p op c

/-- Every request is answered alike. -/
theorem agree_answer {r : Request} (alike : RaiseAlikeAt x o p r) (d : Driver) :
    Agree ((x.watchedBy o).answer d r) ((x.watchedBy p).answer d r) := by
  cases r with
  | query op subject =>
      refine Agree.bind ?_ fun v => .pure _
      cases form : x.form? subject with
      | none =>
          obtain rfl : subject = .other := by cases subject <;> first | rfl | cases form
          exact .raise .notQuery
      | some c =>
          rw [query_of_form? (x := x.watchedBy o) form, query_of_form? (x := x.watchedBy p) form]
          exact agree_observed (alike op subject c rfl form) (x.agree_runOnConnection d op c)
  | enter => exact .pure _
  | exit => exact (x.agree_finish o p).bind fun _ => .pure _
  | close => exact (x.agree_finish o p).bind fun _ => .pure _

/-! ## Whole runs -/

/-- What a caller and a driver see of a turn: the request, the reply, and the calls. -/
def Turn.visible (t : Turn) : Request × Except Failure Reply × List Call :=
  (t.request, t.reply, t.calls)

theorem ending_injective {out out' : Except Failure α} {s t : State}
    (h : ending out s = ending out' t) : out = out' ∧ s = t := by
  cases out <;> cases out' <;> cases h <;> exact ⟨rfl, rfl⟩

/-- One request: the same is visible of both turns, and the states behind them are alike. -/
theorem visible_turn_eq {r : Request} (alike : RaiseAlikeAt x o p r) (d : Driver) {s t : State}
    (h : Alike s t) :
    ((x.watchedBy o).turn d r s).1.visible = ((x.watchedBy p).turn d r t).1.visible
      ∧ Alike ((x.watchedBy o).turn d r s).2 ((x.watchedBy p).turn d r t).2 := by
  obtain ⟨reply, entries, s', hs, hstrace, -⟩ := exists_answered (x.watchedBy o) d r s
  obtain ⟨reply', entries', t', ht, httrace, -⟩ := exists_answered (x.watchedBy p) d r t
  obtain ⟨out, s'', t'', hs', ht', hbehind⟩ := agree_answer alike d s t h
  obtain ⟨rfl, rfl⟩ := ending_injective (hs.symm.trans hs')
  obtain ⟨rfl, rfl⟩ := ending_injective (ht.symm.trans ht')
  have hcalls : entries.calls = entries'.calls := by
    have hbehind := hbehind.calls
    rw [hstrace, httrace, Trace.calls_append, Trace.calls_append, h.calls] at hbehind
    exact List.append_cancel_left hbehind
  rw [turn_eq hs hstrace, turn_eq ht httrace]
  exact ⟨by simp [Turn.visible, Turn.calls, hcalls], hbehind⟩

/-- What is visible of a run with two kinds of observers is the same. -/
structure LookAlike (x : Executor) (o p : Observers) (d : Driver) (rs : List Request) : Prop where
  turns : ((x.watchedBy o).turns d rs {}).map Turn.visible
    = ((x.watchedBy p).turns d rs {}).map Turn.visible
  replies : ((x.watchedBy o).answerAll d rs {}).1 = ((x.watchedBy p).answerAll d rs {}).1
  calls : ((x.watchedBy o).answerAll d rs {}).2.trace.calls
    = ((x.watchedBy p).answerAll d rs {}).2.trace.calls

theorem visible_turns_eq {rs : List Request} (alike : ∀ r ∈ rs, RaiseAlikeAt x o p r) (d : Driver)
    {s t : State} (h : Alike s t) :
    ((x.watchedBy o).turns d rs s).map Turn.visible
      = ((x.watchedBy p).turns d rs t).map Turn.visible := by
  induction rs generalizing s t with
  | nil => rfl
  | cons r rs ih =>
      obtain ⟨hfirst, hrest⟩ := List.forall_mem_cons.mp alike
      obtain ⟨hturn, hbehind⟩ := visible_turn_eq hfirst d h
      rw [turns, turns, List.map_cons, List.map_cons, hturn, ih hrest hbehind]

/-- Observers that raise the same change neither a reply nor the calls on the driver. -/
theorem lookAlike_of_raiseAlike {rs : List Request} (alike : ∀ r ∈ rs, RaiseAlikeAt x o p r)
    (d : Driver) : LookAlike x o p d rs := by
  have hturns := visible_turns_eq alike d (.refl {})
  have hmap : ∀ q : Observers, (((x.watchedBy q).answerAll d rs {}).1
      = (((x.watchedBy q).turns d rs {}).map Turn.visible).map fun v => v.2.1)
        ∧ ((x.watchedBy q).answerAll d rs {}).2.trace.calls
          = (((x.watchedBy q).turns d rs {}).map Turn.visible).flatMap fun v => v.2.2 := by
    intro q
    have hcomes := comesOf_turns (x.watchedBy q) d rs
    rw [hcomes.replies, hcomes.trace, calls_flatMap_entries, List.map_map, List.flatMap_map]
    exact ⟨rfl, rfl⟩
  exact ⟨hturns, by rw [(hmap o).1, (hmap p).1, hturns], by rw [(hmap o).2, (hmap p).2, hturns]⟩

/-- Observers that raise nothing change neither a reply nor the calls on the driver. -/
theorem lookAlike (ho : o.Quiet) (hp : p.Quiet) (x : Executor) (d : Driver) (rs : List Request) :
    LookAlike x o p d rs :=
  lookAlike_of_raiseAlike (fun _ _ _ _ c _ _ => raiseAlike_of_quiet ho hp _ c) d

end Executor

end BoundSql.Execution
