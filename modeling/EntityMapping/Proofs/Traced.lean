import EntityMapping.Traced
import Mathlib.Data.List.Forall2

/-!
# Results of traced computations

The result of a traced computation does not depend on the notes: it is computed from the results of the parts. So
what a computation yields can be found out by looking at results only.

* `Traced.result_bind`, `Traced.result_mapM` — results of sequences
* `bind_eq_ok`, `mapM_eq_ok` — when a sequence of results is a success
* `bind_eq_error`, `mapM_eq_error_iff` — where an error comes from
-/

namespace EntityMapping

variable {ω ω' ε α β γ : Type}

/-! ## Results -/

theorem exists_of_isOk {x : Except ε α} (h : x.isOk = true) : ∃ a, x = .ok a := by
  cases x with
  | error e => simp [Except.isOk, Except.toBool] at h
  | ok a => exact ⟨a, rfl⟩

theorem toOption_eq_some_iff {x : Except ε α} {a : α} : x.toOption = some a ↔ x = .ok a := by
  cases x <;> simp [Except.toOption]

/-- A sequence succeeds when both parts do. -/
theorem bind_eq_ok {x : Except ε α} {f : α → Except ε β} {b : β} :
    x >>= f = .ok b ↔ ∃ a, x = .ok a ∧ f a = .ok b := by
  cases x with
  | error e => simp [bind, Except.bind]
  | ok a => simp [bind, Except.bind]

/-- A sequence fails when the first part does, or the second one behind it. -/
theorem bind_eq_error {x : Except ε α} {f : α → Except ε β} {e : ε} :
    x >>= f = .error e ↔ x = .error e ∨ ∃ a, x = .ok a ∧ f a = .error e := by
  cases x with
  | error e => simp [bind, Except.bind]
  | ok a => simp [bind, Except.bind]

/-- A list of computations succeeds when each of them does. -/
theorem mapM_eq_ok {f : α → Except ε β} {as : List α} {bs : List β} :
    as.mapM f = .ok bs ↔ List.Forall₂ (fun a b => f a = .ok b) as bs := by
  induction as generalizing bs with
  | nil => simp [pure, Except.pure, eq_comm]
  | cons a as ih =>
    rw [List.mapM_cons, bind_eq_ok, List.forall₂_cons_left_iff]
    simp only [bind_eq_ok, ih, pure, Except.pure, Except.ok.injEq]
    constructor
    · rintro ⟨b, hb, bs, hbs, rfl⟩
      exact ⟨b, bs, hb, hbs, rfl⟩
    · rintro ⟨b, bs, hb, hbs, rfl⟩
      exact ⟨b, hb, bs, hbs, rfl⟩

/-- Of two lists that are related item by item, each item has one that it is related to. -/
theorem exists_of_forall₂ {R : α → β → Prop} {as : List α} {bs : List β} (h : List.Forall₂ R as bs) {a : α}
    (ha : a ∈ as) : ∃ b ∈ bs, R a b := by
  induction h with
  | nil => simp at ha
  | cons hb _ ih =>
    rcases List.mem_cons.mp ha with rfl | ha
    · exact ⟨_, List.mem_cons_self, hb⟩
    · obtain ⟨b, hmem, hb⟩ := ih ha
      exact ⟨b, List.mem_cons_of_mem _ hmem, hb⟩

/-- If a sequence of results is a success, each of them is. -/
theorem exists_of_mapM_eq_ok {f : α → Except ε β} {as : List α} {bs : List β} (h : as.mapM f = .ok bs) {a : α}
    (ha : a ∈ as) : ∃ b, f a = .ok b := by
  obtain ⟨b, -, hb⟩ := exists_of_forall₂ (mapM_eq_ok.mp h) ha
  exact ⟨b, hb⟩

theorem isOk_iff_ne_error {x : Except ε α} : x.isOk = true ↔ ∀ e, x ≠ .error e := by
  cases x <;> simp [Except.isOk, Except.toBool]

theorem bind_ok_eq_error_iff {x : Except ε α} {g : α → β} {e : ε} :
    (x >>= fun a => .ok (g a)) = .error e ↔ x = .error e := by
  cases x <;> simp [bind, Except.bind]

/-- Two computations fail with the first one, or with the second one behind it. -/
theorem pair_eq_error_iff {x : Except ε α} {y : Except ε β} {g : α → β → γ} {e : ε} :
    (do return g (← x) (← y)) = .error e ↔ x = .error e ∨ x.isOk = true ∧ y = .error e := by
  cases x <;> cases y <;> simp [bind, Except.bind, pure, Except.pure, Except.isOk, Except.toBool]

theorem mapM_cons_eq_error_iff {f : α → Except ε β} {a : α} {as : List α} {e : ε} :
    (a :: as).mapM f = .error e ↔ f a = .error e ∨ (f a).isOk = true ∧ as.mapM f = .error e := by
  rw [List.mapM_cons, pair_eq_error_iff]

/-- A list of computations fails with the first one that fails. -/
theorem mapM_eq_error_iff {f : α → Except ε β} {as : List α} {e : ε} :
    as.mapM f = .error e ↔
      ∃ before a after, as = before ++ a :: after ∧ (∀ b ∈ before, (f b).isOk = true) ∧ f a = .error e := by
  induction as with
  | nil => exact iff_of_false nofun (by simp)
  | cons a as ih =>
    rw [mapM_cons_eq_error_iff, ih]
    constructor
    · rintro (h | ⟨hok, before, b, after, rfl, hbefore, hb⟩)
      · exact ⟨[], a, as, rfl, by simp, h⟩
      · exact ⟨a :: before, b, after, rfl, List.forall_mem_cons.mpr ⟨hok, hbefore⟩, hb⟩
    · rintro ⟨before, b, after, heq, hbefore, hb⟩
      cases before with
      | nil =>
        cases heq
        exact .inl hb
      | cons c before =>
        cases heq
        obtain ⟨hok, hbefore⟩ := List.forall_mem_cons.mp hbefore
        exact .inr ⟨hok, before, b, after, rfl, hbefore, hb⟩

/-- If a sequence of results is an error, one of them is. -/
theorem exists_of_mapM_eq_error {f : α → Except ε β} {as : List α} {e : ε} (h : as.mapM f = .error e) :
    ∃ a ∈ as, f a = .error e := by
  obtain ⟨before, a, after, rfl, -, ha⟩ := mapM_eq_error_iff.mp h
  exact ⟨a, by simp, ha⟩

/-- Where all that fails fails alike, a sequence with something that fails does, too. -/
theorem mapM_eq_error_of_mem {f : α → Except ε β} {as : List α} {a : α} {e : ε}
    (halike : ∀ b ∈ as, ∀ e', f b = .error e' → e' = e) (ha : a ∈ as) (h : f a = .error e) : as.mapM f = .error e := by
  cases hmap : as.mapM f with
  | ok bs =>
    obtain ⟨b, hb⟩ := exists_of_mapM_eq_ok hmap ha
    cases h.symm.trans hb
  | error e' =>
    obtain ⟨b, hb, he⟩ := exists_of_mapM_eq_error hmap
    rw [halike b hb e' he]

/-- Lists of computations fail alike if the computations do. -/
theorem mapM_eq_error_congr {f : α → Except ε β} {g : α → Except ε γ} {as : List α} {e : ε}
    (h : ∀ a ∈ as, ∀ e, f a = .error e ↔ g a = .error e) : as.mapM f = .error e ↔ as.mapM g = .error e := by
  induction as with
  | nil => exact iff_of_false nofun nofun
  | cons a as ih =>
    obtain ⟨ha, has⟩ := List.forall_mem_cons.mp h
    have hok : (f a).isOk = true ↔ (g a).isOk = true := by simp only [isOk_iff_ne_error, ne_eq, ha]
    rw [mapM_cons_eq_error_iff, mapM_cons_eq_error_iff, ha, hok, ih has]

/-- A list of lists of computations fails like the list of all of them. -/
theorem mapM_flatMap_eq_error_iff {f : β → Except ε γ} {g : α → List β} {as : List α} {e : ε} :
    (as.flatMap g).mapM f = .error e ↔ (as.mapM fun a => (g a).mapM f) = .error e := by
  induction as with
  | nil => exact iff_of_false nofun nofun
  | cons a as ih => rw [List.flatMap_cons, List.mapM_append, pair_eq_error_iff, mapM_cons_eq_error_iff, ih]

/-- A list of computations depends on what they are on the items of the list. -/
theorem mapM_congr {m : Type → Type} [Monad m] [LawfulMonad m] {f g : α → m β} {as : List α}
    (h : ∀ a ∈ as, f a = g a) : as.mapM f = as.mapM g := by
  induction as with
  | nil => rfl
  | cons a as ih =>
    rw [List.mapM_cons, List.mapM_cons, h a List.mem_cons_self, ih fun b hb => h b (List.mem_cons_of_mem _ hb)]

/-- A choice for each item is a list of choices. -/
theorem exists_forall₂ {R : α → β → Prop} {as : List α} (h : ∀ a ∈ as, ∃ b, R a b) :
    ∃ bs, List.Forall₂ R as bs := by
  induction as with
  | nil => exact ⟨[], .nil⟩
  | cons a as ih =>
    obtain ⟨b, hb⟩ := h a List.mem_cons_self
    obtain ⟨bs, hbs⟩ := ih fun c hc => h c (List.mem_cons_of_mem _ hc)
    exact ⟨b :: bs, .cons hb hbs⟩

/-! ## Results of computations with notes -/

namespace Traced

@[simp] theorem result_fail (e : ε) : (fail e : Traced ω ε α).result = .error e := rfl

@[simp] theorem result_lift (x : Except ε α) : (lift x : Traced ω ε α).result = x := rfl

@[simp] theorem result_mapLog (f : ω → List ω') (x : Traced ω ε α) : (x.mapLog f).result = x.result := rfl

@[simp] theorem result_bind (x : Traced ω ε α) (f : α → Traced ω ε β) :
    (x >>= f).result = x.result >>= fun a => (f a).result := by
  cases h : x.result with
  | error e =>
    rw [bind_of_error h]
    rfl
  | ok a =>
    rw [bind_of_ok h]
    rfl

@[simp] theorem result_mapM (f : α → Traced ω ε β) (as : List α) :
    (as.mapM f).result = as.mapM fun a => (f a).result := by
  induction as with
  | nil => rfl
  | cons a as ih =>
    rw [List.mapM_cons, List.mapM_cons, result_bind]
    simp only [result_bind, ih]
    rfl

end Traced
end EntityMapping
