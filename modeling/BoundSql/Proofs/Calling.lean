import BoundSql.Execution.Executor
import BoundSql.Proofs.Sequence
set_option autoImplicit false

/-!
# What a run asks of the driver

The inner part of a query does nothing but call the driver: it opens a connection, executes,
fetches, commits and closes.  What can be said of such a run is which calls it made and how they
went, and this module is the account of it.

`Makes` keeps what a run came to: the calls that it made, and an outcome.  Its rules follow the ways
in which runs are put together (`Makes.bind`, `Makes.ensuring`), so that the calls of a query can be
read off its parts.  `Reflects` ties the outcome to the calls.  A run that ends well had no failures
on the driver; one that fails made no call behind its first failure but such as tidy up
(`Call.tidies`), and what comes out is the failure of the last call that failed.  That is the last
and not the first one, since whoever leaves a cursor or closes a connection may fail in turn, and
then hides what went wrong before.

The failures of a row of calls are collected by `failures`, in their order.
-/

namespace BoundSql.Execution

open BoundSql.Query (Compiled)
open BoundSql.Value (Val)

variable {α β : Type}

/-! ## Results and states -/

/-- The result of a run that comes to `out` and ends in the state `s`. -/
def ending (out : Except Failure α) (s : State) : EStateM.Result Failure State α :=
  match out with
  | .ok a => .ok a s
  | .error f => .error f s

@[simp] theorem ending_ok (a : α) (s : State) : ending (.ok a) s = .ok a s := rfl

@[simp] theorem ending_error (f : Failure) (s : State) :
    (ending (.error f) s : EStateM.Result Failure State α) = .error f s := rfl

/-- The failure that an outcome is, if it is one. -/
def failure? : Except Failure α → Option Failure
  | .ok _ => none
  | .error f => some f

/-- Of a run and what is ensured behind it, the run decides unless what is behind it fails. -/
theorem ensuring_of_ending {x : Run α} {last : Option Failure → Run Unit} {s t u : State}
    {out : Except Failure α} {out' : Except Failure Unit} (hx : x s = ending out t)
    (hl : last (failure? out) t = ending out' u) :
    x.ensuring last s = ending (out' >>= fun _ => out) u := by
  cases out with
  | ok a => cases out' <;> simp_all [Run.ensuring, failure?, bind, Except.bind]
  | error f => cases out' <;> simp_all [Run.ensuring, failure?, bind, Except.bind]

/-- The trace of calls alone. -/
theorem Trace.calls_map_call (cs : List Call) : Trace.calls (cs.map .call) = cs := by
  induction cs with
  | nil => rfl
  | cons c cs ih =>
      rw [List.map_cons]
      exact congrArg (c :: ·) ih

namespace State

/-- The state behind more entries of the trace. -/
def traced (s : State) (es : Trace) : State := { s with trace := s.trace ++ es }

@[simp] theorem trace_traced (s : State) (es : Trace) : (s.traced es).trace = s.trace ++ es := rfl

@[simp] theorem queries_traced (s : State) (es : Trace) : (s.traced es).queries = s.queries := rfl

@[simp] theorem connects_traced (s : State) (es : Trace) :
    (s.traced es).connects = s.connects := rfl

@[simp] theorem closed_traced (s : State) (es : Trace) : (s.traced es).closed = s.closed := rfl

@[simp] theorem traced_nil (s : State) : s.traced [] = s := by
  simp [traced]

@[simp] theorem traced_traced (s : State) (es fs : Trace) :
    (s.traced es).traced fs = s.traced (es ++ fs) := by
  simp [traced]

/-- The state behind more calls on the driver. -/
def called (s : State) (cs : List Call) : State := s.traced (cs.map .call)

@[simp] theorem called_nil (s : State) : s.called [] = s := by
  simp [called]

@[simp] theorem called_called (s : State) (cs ds : List Call) :
    (s.called cs).called ds = s.called (cs ++ ds) := by
  simp [called]

@[simp] theorem calls_called (s : State) (cs : List Call) :
    (s.called cs).trace.calls = s.trace.calls ++ cs := by
  simp [called, Trace.calls_map_call]

end State

/-! ## Calls that fail -/

/-- The failing ones of calls that are made one after the other, each with what it raises. -/
def failures (d : Driver) : (before calls : List Call) → List (Call × Raised)
  | _, [] => []
  | before, c :: cs =>
      match d before c with
      | .ok _ => failures d (before ++ [c]) cs
      | .error r => (c, r) :: failures d (before ++ [c]) cs

section Failures

variable {d : Driver} {before : List Call}

@[simp] theorem failures_nil : failures d before [] = [] := rfl

theorem failures_singleton_of_ok {c : Call} {a : c.Answer} (h : d before c = .ok a) :
    failures d before [c] = [] := by
  rw [failures, h]
  rfl

theorem failures_singleton_of_error {c : Call} {r : Raised} (h : d before c = .error r) :
    failures d before [c] = [(c, r)] := by
  rw [failures, h]
  rfl

theorem failures_append (cs ds : List Call) :
    failures d before (cs ++ ds) = failures d before cs ++ failures d (before ++ cs) ds := by
  induction cs generalizing before with
  | nil => simp
  | cons c cs ih =>
      rw [List.cons_append, failures, failures, ih]
      cases d before c <;> simp

/-- The failing calls come in the order of the calls. -/
theorem failures_sublist (cs : List Call) : ((failures d before cs).map Prod.fst).Sublist cs := by
  induction cs generalizing before with
  | nil => exact .slnil
  | cons c cs ih =>
      rw [failures]
      cases d before c with
      | ok a => exact ih.cons c
      | error r => exact ih.cons_cons c

theorem mem_of_mem_failures {cs : List Call} {q : Call × Raised}
    (h : q ∈ failures d before cs) : q.1 ∈ cs :=
  (failures_sublist cs).subset (List.mem_map_of_mem h)

theorem exists_error_of_mem_failures {cs : List Call} {q : Call × Raised}
    (h : q ∈ failures d before cs) : ∃ b, d b q.1 = .error q.2 := by
  induction cs generalizing before with
  | nil => cases h
  | cons c cs ih =>
      rw [failures] at h
      cases hc : d before c with
      | ok a =>
          rw [hc] at h
          exact ih h
      | error r =>
          rw [hc] at h
          rcases List.mem_cons.mp h with rfl | h
          · exact ⟨before, hc⟩
          · exact ih h

end Failures

/-- Whether a call leaves a cursor or a connection that was used. -/
def Call.tidies : Call → Bool
  | cursorExit _ | close _ => true
  | _ => false

/-- An outcome that tells how calls on the driver went.  Where one of them failed, the last failure
is raised; nothing is tried behind a failure but to leave what is in use. -/
structure Reflects (d : Driver) (before calls : List Call) (out : Except Failure α) : Prop where
  succeeds : ∀ a, out = .ok a → failures d before calls = []
  raises : ∀ f, out = .error f →
    ∃ q, (failures d before calls).getLast? = some q ∧ f = .raised q.2
  behind : ∀ q ∈ (failures d before calls).tail, q.1.tidies = true

namespace Reflects

variable {d : Driver} {before cs ds : List Call}

theorem nil (a : α) : Reflects d before [] (.ok a) where
  succeeds _ _ := rfl
  raises _ h := by simp at h
  behind q h := by simp at h

theorem single_ok {c : Call} {b : c.Answer} (h : d before c = .ok b) (a : α) :
    Reflects d before [c] (.ok a) where
  succeeds _ _ := failures_singleton_of_ok h
  raises _ h := by simp at h
  behind q hq := by simp [failures_singleton_of_ok h] at hq

theorem single_error {c : Call} {r : Raised} (h : d before c = .error r) :
    Reflects d before [c] (.error (.raised r) : Except Failure α) where
  succeeds _ h := by simp at h
  raises f hf := by
    rw [failures_singleton_of_error h]
    exact ⟨(c, r), rfl, (Except.error.inj hf).symm⟩
  behind q hq := by simp [failures_singleton_of_error h] at hq

/-- Behind calls that all went well, further calls decide. -/
theorem append_of_ok {a : α} {out : Except Failure β} (hcs : Reflects d before cs (.ok a))
    (hds : Reflects d (before ++ cs) ds out) : Reflects d before (cs ++ ds) out := by
  have hfail : failures d before (cs ++ ds) = failures d (before ++ cs) ds := by
    rw [failures_append, hcs.succeeds a rfl, List.nil_append]
  exact ⟨by rw [hfail]; exact hds.succeeds, by rw [hfail]; exact hds.raises,
    by rw [hfail]; exact hds.behind⟩

/-- Behind calls of any outcome, calls that leave what is in use decide only if they fail. -/
theorem append_tidying {out : Except Failure α} {out' : Except Failure Unit}
    (hcs : Reflects d before cs out) (hds : Reflects d (before ++ cs) ds out')
    (tidy : ∀ c ∈ ds, c.tidies = true) :
    Reflects d before (cs ++ ds) (out' >>= fun _ => out) where
  succeeds a h := by
    cases out' with
    | ok _ => rw [failures_append, hcs.succeeds a h, hds.succeeds _ rfl, List.nil_append]
    | error f => cases h
  raises f h := by
    rw [failures_append, List.getLast?_append]
    cases out' with
    | ok _ =>
        rw [hds.succeeds _ rfl]
        exact hcs.raises f h
    | error f' =>
        obtain ⟨q, hq, hf⟩ := hds.raises f' rfl
        rw [hq]
        exact ⟨q, rfl, (Except.error.inj h).symm.trans hf⟩
  behind q hq := by
    rw [failures_append] at hq
    -- A failure behind the first one comes from `cs`, or it is one of leaving what was in use.
    have htidies : q ∈ failures d (before ++ cs) ds → q.1.tidies = true :=
      fun h => tidy q.1 (mem_of_mem_failures h)
    cases hfail : failures d before cs with
    | nil =>
        rw [hfail, List.nil_append] at hq
        exact htidies (List.mem_of_mem_tail hq)
    | cons p ps =>
        rw [hfail, List.cons_append, List.tail_cons] at hq
        rcases List.mem_append.mp hq with h | h
        · exact hcs.behind q (by rw [hfail]; exact h)
        · exact htidies h

theorem map {out : Except Failure α} (h : Reflects d before cs out) (g : α → β) :
    Reflects d before cs (out.map g) where
  succeeds b hb := by
    cases out with
    | ok a => exact h.succeeds a rfl
    | error f => cases hb
  raises f hf := by
    cases out with
    | ok a => cases hf
    | error f' => exact h.raises f (congrArg _ (Except.error.inj hf))
  behind := h.behind

/-- Where a call failed, something is raised. -/
theorem exists_error {out : Except Failure α} (h : Reflects d before cs out)
    (hfail : failures d before cs ≠ []) : ∃ f, out = .error f := by
  cases out with
  | ok a => exact absurd (h.succeeds a rfl) hfail
  | error f => exact ⟨f, rfl⟩

end Reflects

/-! ## Runs that only call the driver -/

/-- From the state `s` on, `x` makes these calls on the driver and does nothing else; its outcome
tells how they went. -/
structure Makes (d : Driver) (x : Run α) (s : State) (calls : List Call)
    (out : Except Failure α) : Prop where
  run : x s = ending out (s.called calls)
  reflects : Reflects d s.trace.calls calls out

namespace Makes

variable {d : Driver} {s : State} {cs ds : List Call}

theorem pure (a : α) : Makes d (Pure.pure a : Run α) s [] (.ok a) where
  run := by
    rw [State.called_nil]
    rfl
  reflects := .nil a

theorem call_ok {c : Call} {a : c.Answer} (h : d s.trace.calls c = .ok a) :
    Makes d (Run.call d c) s [c] (.ok a) where
  run := Run.call_ok h
  reflects := .single_ok h a

theorem call_error {c : Call} {r : Raised} (h : d s.trace.calls c = .error r) :
    Makes d (Run.call d c) s [c] (.error (.raised r)) where
  run := Run.call_error h
  reflects := .single_error h

theorem bind {x : Run α} {f : α → Run β} {a : α} {out : Except Failure β}
    (hx : Makes d x s cs (.ok a)) (hf : Makes d (f a) (s.called cs) ds out) :
    Makes d (x >>= f) s (cs ++ ds) out where
  run := by rw [bind_of_ok hx.run, hf.run, State.called_called]
  reflects := hx.reflects.append_of_ok (by simpa using hf.reflects)

theorem bind_error {x : Run α} {e : Failure} (hx : Makes d x s cs (.error e)) (f : α → Run β) :
    Makes d (x >>= f) s cs (.error e) where
  run := bind_of_error hx.run f
  reflects := ⟨by simp, fun e' he => hx.reflects.raises e' (by simpa using he), hx.reflects.behind⟩

theorem ensuring {x : Run α} {y : Run Unit} {out : Except Failure α} {out' : Except Failure Unit}
    (hx : Makes d x s cs out) (hy : Makes d y (s.called cs) ds out')
    (tidy : ∀ c ∈ ds, c.tidies = true) :
    Makes d (x.ensuring fun _ => y) s (cs ++ ds) (out' >>= fun _ => out) where
  run := by rw [ensuring_of_ending hx.run hy.run, State.called_called]
  reflects := hx.reflects.append_tidying (by simpa using hy.reflects) tidy

end Makes

theorem exists_makes_call (d : Driver) (c : Call) (s : State) :
    ∃ out, Makes d (Run.call d c) s [c] out := by
  cases h : d s.trace.calls c with
  | ok a => exact ⟨.ok a, .call_ok h⟩
  | error r => exact ⟨.error (.raised r), .call_error h⟩

end BoundSql.Execution
