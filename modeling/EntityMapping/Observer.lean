import EntityMapping.KeyValue

/-!
# Observers

Observers look on while an entity goes into storage and comes back, and may change it before it goes. They are
called in the order of their registration.

Everything that the parties to such a way see is an event; a journal is a list of events in order.
-/

namespace EntityMapping

/-- Takes part in workflows. An observer may change an entity before it is converted. -/
structure Observer where
  name : String
  preEntity : EntityType → Object → Object

/-- An observer that only looks on. -/
def Observer.onlooker (name : String) : Observer := ⟨name, fun _ o => o⟩

/-- Something that happened in a workflow whose storage takes things of type `R`. -/
inductive Event (R : Type) where
  /-- The validator found these violations. -/
  | validated (violations : List Violation)
  /-- An observer saw the entity before its conversion, in this state, and may have changed it afterwards. -/
  | preEntity (observer : String) (type : EntityType) (o : Object)
  /-- An observer was told that a constructor is about to be called. -/
  | constructing (observer : String) (event : ConstructorEvent)
  /-- The storage action was given this. -/
  | action (given : R)
  /-- An observer saw the entity that came back. -/
  | postEntity (observer : String) (type : EntityType) (o : Object)

/-- The observers in use, in the order of their registration. -/
abbrev Observers := List Observer

namespace Observers

variable {R : Type}

/-- Shows an entity to every observer before its conversion; each sees what the one before it left. -/
def firePre (t : EntityType) : Observers → Object → List (Event R) × Object
  | [], o => ([], o)
  | observer :: observers, o =>
    let (events, p) := firePre t observers (observer.preEntity t o)
    (.preEntity observer.name t o :: events, p)

/-- Shows an entity to every observer after it came back. -/
def firePost (t : EntityType) (observers : Observers) (o : Object) : List (Event R) :=
  observers.map fun observer => .postEntity observer.name t o

/-- Tells every observer about the constructor events of a conversion. -/
def relay {α : Type} (observers : Observers) (x : Conversion α) : Traced (Event R) MapError α :=
  x.mapLog fun notice =>
    match notice.event? with
    | some event => observers.map fun observer => .constructing observer.name event
    | none => []

/-- The observers leave the entity as each of them in turn does. -/
theorem firePre_snd (t : EntityType) (observers : Observers) (o : Object) :
    (firePre (R := R) t observers o).2 = observers.foldl (fun o observer => observer.preEntity t o) o := by
  induction observers generalizing o with
  | nil => rfl
  | cons observer observers ih => exact ih _

end Observers
end EntityMapping
