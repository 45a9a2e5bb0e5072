/-!
# Deferred computations

A computation on a state that may pause any number of times before it is done. Whoever awaits it lets it run to its
end; `await_map` says that what is done with the result afterwards can wait for it or be part of it.
-/

namespace EntityMapping

/-- A computation on a state of type `σ` that ends with a result of type `α`. -/
inductive Deferred (σ α : Type) where
  | done (run : σ → α × σ)
  | paused (step : σ → σ) (next : σ → Deferred σ α)

namespace Deferred

variable {σ α β : Type}

/-- A result that is there at once. -/
def ready (a : α) : Deferred σ α := .done fun s => (a, s)

/-- Runs a computation to its end. -/
def await : Deferred σ α → σ → α × σ
  | done run, s => run s
  | paused step next, s => (next s).await (step s)

/-- Does something with the result. -/
def map (f : α → β) : Deferred σ α → Deferred σ β
  | done run => .done fun s => (f (run s).1, (run s).2)
  | paused step next => .paused step fun s => (next s).map f

/-- A call that runs elsewhere while the caller pauses. -/
def elsewhere (call : σ → α × σ) : Deferred σ α := .paused id fun _ => .done call

theorem await_map (f : α → β) (d : Deferred σ α) (s : σ) :
    (d.map f).await s = (f (d.await s).1, (d.await s).2) := by
  induction d generalizing s with
  | done run => rfl
  | paused step next ih => exact ih s (step s)

@[simp] theorem await_elsewhere (call : σ → α × σ) (s : σ) : (elsewhere call).await s = call s := rfl

end Deferred
end EntityMapping
