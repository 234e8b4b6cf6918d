set_option autoImplicit false

/-!
# One computation after the other

Evaluation and execution are computations with a state that may fail, and a failure keeps the state
that it came to.  These laws take a sequence of two of them apart: it succeeds if both do, one after
the other (`bind_eq_ok_iff`), and it fails if the first one does, or if the second one fails where
the first one left off (`bind_eq_error_iff`).  Every account of such a computation that follows it
step by step uses them, and none unfolds the monad.
-/

namespace BoundSql

variable {ε σ α β : Type}

/-- A sequence of two computations succeeds if the first one does, and then the second one does on
its answer. -/
theorem bind_eq_ok_iff {x : EStateM ε σ α} {f : α → EStateM ε σ β} {b : β} {s s' : σ} :
    (x >>= f) s = .ok b s' ↔ ∃ a s₁, x s = .ok a s₁ ∧ f a s₁ = .ok b s' := by
  change EStateM.bind x f s = .ok b s' ↔ _
  unfold EStateM.bind
  cases hx : x s with
  | ok a s₁ =>
      constructor
      · intro h
        exact ⟨a, s₁, rfl, h⟩
      · rintro ⟨a', s₁', heq, h⟩
        obtain ⟨rfl, rfl⟩ := EStateM.Result.ok.inj heq
        exact h
  | error e s₁ => simp

/-- A sequence of two computations fails where the first one does, or where the second one does on
its answer. -/
theorem bind_eq_error_iff {x : EStateM ε σ α} {f : α → EStateM ε σ β} {e : ε} {s s' : σ} :
    (x >>= f) s = .error e s' ↔
      x s = .error e s' ∨ ∃ a s₁, x s = .ok a s₁ ∧ f a s₁ = .error e s' := by
  change EStateM.bind x f s = .error e s' ↔ _
  unfold EStateM.bind
  cases hx : x s with
  | ok a s₁ =>
      constructor
      · intro h
        exact .inr ⟨a, s₁, rfl, h⟩
      · rintro (h | ⟨a', s₁', heq, h⟩)
        · cases h
        · obtain ⟨rfl, rfl⟩ := EStateM.Result.ok.inj heq
          exact h
  | error e₁ s₁ => simp

theorem pure_eq_ok_iff {a b : α} {s s' : σ} :
    (pure a : EStateM ε σ α) s = .ok b s' ↔ a = b ∧ s = s' := by
  change EStateM.Result.ok a s = .ok b s' ↔ _
  exact EStateM.Result.ok.injEq a s b s' ▸ Iff.rfl

/-- Behind a success, the second computation decides. -/
theorem bind_of_ok {x : EStateM ε σ α} {s t : σ} {a : α} (h : x s = .ok a t)
    (f : α → EStateM ε σ β) : (x >>= f) s = f a t := by
  change EStateM.bind x f s = f a t
  simp only [EStateM.bind, h]

/-- Behind a failure, nothing is done any more. -/
theorem bind_of_error {x : EStateM ε σ α} {s t : σ} {e : ε} (h : x s = .error e t)
    (f : α → EStateM ε σ β) : (x >>= f) s = .error e t := by
  change EStateM.bind x f s = .error e t
  simp only [EStateM.bind, h]

end BoundSql
