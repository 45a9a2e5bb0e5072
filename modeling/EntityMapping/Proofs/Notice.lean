import EntityMapping.Notice
import EntityMapping.Proofs.Traced

/-!
# Events of conversions

The constructor events of a sequence of conversions are those of its parts, one after the other, as long as nothing
fails.

* `Traced.events_bind`, `Traced.events_mapM` — the events of sequences that succeed
* `Traced.events_bind_eq_nil`, `Traced.events_mapM_eq_nil` — sequences without events, whatever becomes of them
-/

namespace EntityMapping
namespace Traced

variable {α β : Type}

@[simp] theorem events_pure (a : α) : (pure a : Conversion α).events = [] := rfl

@[simp] theorem events_lift (x : Except MapError α) : (lift x : Conversion α).events = [] := rfl

theorem events_bind {x : Conversion α} {a : α} (h : x.result = .ok a) (f : α → Conversion β) :
    (x >>= f).events = x.events ++ (f a).events := by
  rw [bind_of_ok h, events, List.filterMap_append]
  rfl

theorem events_mapM {f : α → Conversion β} {as : List α} (h : ∀ a ∈ as, ∃ b, (f a).result = .ok b) :
    (as.mapM f).events = as.flatMap fun a => (f a).events := by
  induction as with
  | nil => rfl
  | cons a as ih =>
    obtain ⟨⟨b, hb⟩, hrest⟩ := List.forall_mem_cons.mp h
    obtain ⟨bs, hbs⟩ : ∃ bs, (as.mapM f).result = .ok bs := by
      obtain ⟨bs, hbs⟩ := exists_forall₂ hrest
      exact ⟨bs, by rw [result_mapM, mapM_eq_ok]; exact hbs⟩
    rw [List.mapM_cons, events_bind hb, events_bind hbs, events_pure, List.append_nil, ih hrest, List.flatMap_cons]

theorem events_bind_eq_nil {x : Conversion α} {f : α → Conversion β} (hx : x.events = [])
    (hf : ∀ a, (f a).events = []) : (x >>= f).events = [] := by
  cases h : x.result with
  | error e =>
    rw [bind_of_error h]
    exact hx
  | ok a => rw [events_bind h, hx, hf a, List.append_nil]

theorem events_mapM_eq_nil {f : α → Conversion β} {as : List α} (h : ∀ a ∈ as, (f a).events = []) :
    (as.mapM f).events = [] := by
  induction as with
  | nil => rfl
  | cons a as ih =>
    rw [List.mapM_cons]
    refine events_bind_eq_nil (h a List.mem_cons_self) fun b => ?_
    exact events_bind_eq_nil (ih fun c hc => h c (List.mem_cons_of_mem _ hc)) fun bs => rfl

end Traced
end EntityMapping
