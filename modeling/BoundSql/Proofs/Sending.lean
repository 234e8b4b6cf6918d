import Mathlib.Data.List.Basic
import BoundSql.Proofs.Turns
set_option autoImplicit false

/-!
# What is sent to the driver

A query sends its text to the driver once, with its parameters, unless it fails before it gets that
far.  This is read off the script that the calls of a query keep to: there is one call in it that
sends anything (`filterMap_sent?_script`), and a run makes the calls of its script up to the first
one that fails (`sent_of_keepsTo`).

`Turn.Sends` says it of a turn, and `Answered.sends` of all turns of a run.  What is sent is a
statement with the parameters that the dialect gives along, and nothing else of a query ever reaches
the driver, so that statements about what a driver decodes need not look at executors.
-/

namespace BoundSql.Execution

open BoundSql.Query (Compiled)
open BoundSql.Value (Val)

/-- The text that a call sends, and the parameters with it. -/
def Call.sent? : Call → Option (String × Option (List Val))
  | .execute _ sql params => some (sql, params)
  | _ => none

namespace Executor

/-- The texts that a turn sends. -/
def Turn.sent (t : Turn) : List (String × Option (List Val)) := t.calls.filterMap Call.sent?

/-- The turn sends this text with these parameters, once, unless it fails before. -/
def Turn.Sends (t : Turn) (sql : String) (params : Option (List Val)) : Prop :=
  t.sent = [(sql, params)] ∨ t.sent = [] ∧ ∃ f, t.reply = .error f

variable {x : Executor} {d : Driver} {op : Operation} {c : Compiled Val}

/-- A script sends its text once, in either dialect. -/
theorem filterMap_sent?_script (on : Connection) (hasRows : Bool) :
    (x.script on op c hasRows).filterMap Call.sent?
      = [(c.sql, x.driverParams op c.params)] := by
  have hstatement : (statementCalls on c.sql (x.driverParams op c.params) op.fetch
      hasRows).filterMap Call.sent? = [(c.sql, x.driverParams op c.params)] := by
    cases op <;> cases hasRows <;> rfl
  rw [script]
  cases x.dialect with
  | sqlite => exact hstatement
  | postgres =>
      have hcursor : ∀ inside : List Call,
          (cursorCalls on inside).filterMap Call.sent? = inside.filterMap Call.sent? := by
        intro inside
        simp [cursorCalls, Call.sent?, List.filterMap_cons]
      exact (hcursor _).trans hstatement

/-- Work on a connection sends the text of its script, unless it fails before. -/
theorem sent_of_keepsTo {before work : List Call} {on : Connection}
    (h : KeepsTo d before work (x.script on op c)) :
    work.filterMap Call.sent? = [(c.sql, x.driverParams op c.params)]
      ∨ work.filterMap Call.sent? = [] ∧ failures d before work ≠ [] := by
  obtain ⟨hasRows, hsub, hall⟩ := h
  have hsent := hsub.filterMap Call.sent?
  rw [filterMap_sent?_script] at hsent
  rcases List.sublist_singleton.mp hsent with hnone | hone
  · refine .inr ⟨hnone, ?_⟩
    intro hfail
    rw [hall hfail, filterMap_sent?_script] at hnone
    cases hnone
  · exact .inl hone

/-- A query that reaches the driver sends its text there, unless it fails before. -/
theorem Driven.sent {s : State} {calls : List Call} {out : Except Failure Val}
    (h : Driven x d op c s calls out) :
    calls.filterMap Call.sent? = [(c.sql, x.driverParams op c.params)]
      ∨ calls.filterMap Call.sent? = [] ∧ ∃ f, out = .error f := by
  cases h with
  | closed ended => exact .inr ⟨rfl, _, rfl⟩
  | unopenable alive access => exact .inr ⟨rfl, _, rfl⟩
  | lent alive access keeps reflects =>
      rcases sent_of_keepsTo keeps with hone | ⟨hnone, hfail⟩
      · exact .inl hone
      · exact .inr ⟨hnone, reflects.exists_error hfail⟩
  | refused alive access refuses => exact .inr ⟨rfl, _, rfl⟩
  | @own o a work out alive access opens keeps reflects =>
      have hleaving : (x.leaving d (s.trace.calls ++ [o.call]) (.opened s.connects) a
          work).filterMap Call.sent? = [] := by
        rw [leaving]
        split <;> rfl
      rw [List.filterMap_cons_none rfl, List.filterMap_append, hleaving, List.append_nil]
      rcases sent_of_keepsTo keeps with hone | ⟨hnone, hfail⟩
      · exact .inl hone
      · refine .inr ⟨hnone, reflects.exists_error ?_⟩
        intro hall
        rw [← List.singleton_append, failures_append, failures_append] at hall
        exact hfail (List.append_eq_nil_iff.mp (List.append_eq_nil_iff.mp hall).2).1

theorem Answered.sends {s u : State} {t : Turn} {subject : Subject}
    (h : Answered x d s t.request t.reply t.entries u) (asks : t.request = .query op subject)
    (form : x.form? subject = some c) : t.Sends c.sql (x.driverParams op c.params) := by
  obtain ⟨request, reply, entries⟩ := t
  cases asks
  cases h with
  | query form' queried =>
      cases form'.symm.trans form
      rcases queried.calls_cases with ⟨hnone, r, rfl, -⟩ | ⟨out, driven, hreply⟩
      · exact .inr ⟨by rw [Turn.sent, Turn.calls, hnone]; rfl, _, rfl⟩
      · rcases driven.sent with hone | ⟨hnone, f, rfl⟩
        · exact .inl hone
        · refine .inr ⟨hnone, ?_⟩
          rcases hreply with rfl | ⟨r, rfl, -⟩
          · exact ⟨f, rfl⟩
          · exact ⟨.raised r, rfl⟩
  | notQuery form' =>
      rw [form] at form'
      cases form'

end Executor

end BoundSql.Execution
