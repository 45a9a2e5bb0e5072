/-!
# Traced results

A computation that may fail, together with the notes it leaves on its way. The notes of a failed computation
are kept: they tell what happened before it failed.

Sequencing puts the notes of the first part before those of the second, and a failure ends the sequence.
-/

namespace EntityMapping

/-- The notes that a computation left, and its result. -/
structure Traced (ω ε α : Type) where
  log : List ω
  result : Except ε α

namespace Traced

variable {ω ε α β : Type}

/-- Fails without a note. -/
def fail (e : ε) : Traced ω ε α := ⟨[], .error e⟩

/-- Leaves one note. -/
def note (w : ω) : Traced ω ε Unit := ⟨[w], .ok ()⟩

/-- A result that leaves no note. -/
def lift (x : Except ε α) : Traced ω ε α := ⟨[], x⟩

/-- Continues after a success, and adds the notes of the continuation. -/
def andThen (x : Traced ω ε α) (f : α → Traced ω ε β) : Traced ω ε β :=
  match x.result with
  | .ok a => ⟨x.log ++ (f a).log, (f a).result⟩
  | .error e => ⟨x.log, .error e⟩

instance : Monad (Traced ω ε) where
  pure a := ⟨[], .ok a⟩
  bind := andThen

@[simp] theorem log_pure (a : α) : (pure a : Traced ω ε α).log = [] := rfl

@[simp] theorem result_pure (a : α) : (pure a : Traced ω ε α).result = .ok a := rfl

theorem bind_of_ok {x : Traced ω ε α} {a : α} (h : x.result = .ok a) (f : α → Traced ω ε β) :
    x >>= f = ⟨x.log ++ (f a).log, (f a).result⟩ := by
  show andThen x f = _
  simp [andThen, h]

theorem bind_of_error {x : Traced ω ε α} {e : ε} (h : x.result = .error e) (f : α → Traced ω ε β) :
    x >>= f = ⟨x.log, .error e⟩ := by
  show andThen x f = _
  simp [andThen, h]

instance : LawfulMonad (Traced ω ε) :=
  LawfulMonad.mk' _
    (by
      intro α x
      show andThen x _ = x
      obtain ⟨log, result⟩ := x
      cases result <;> simp [andThen])
    (by
      intro α β a f
      show andThen ⟨[], .ok a⟩ f = f a
      simp [andThen])
    (by
      intro α β γ x f g
      show andThen (andThen x f) g = andThen x fun a => andThen (f a) g
      obtain ⟨log, result⟩ := x
      cases result with
      | error e => rfl
      | ok a => cases h : (f a).result <;> simp [andThen, h, List.append_assoc])

/-- The same computation with something done to its result. -/
def mapResult (f : α → β) (x : Traced ω ε α) : Traced ω ε β := ⟨x.log, x.result.map f⟩

/-- The same computation with its errors put in other terms. -/
def mapError {ε' : Type} (f : ε → ε') (x : Traced ω ε α) : Traced ω ε' α :=
  ⟨x.log, x.result.mapError f⟩

/-- The same computation with every note put as a list of other notes. -/
def mapLog {ω' : Type} (f : ω → List ω') (x : Traced ω ε α) : Traced ω' ε α :=
  ⟨x.log.flatMap f, x.result⟩

end Traced
end EntityMapping
