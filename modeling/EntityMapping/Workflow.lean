import EntityMapping.Deferred
import EntityMapping.Observer
import EntityMapping.Validation

/-!
# Workflows

The way of an entity into storage and back: it is validated, observers may change it, it is converted to what its
storage family stores, a storage action takes that and returns what is stored now, and this is converted back.
The first failure ends the way.

A run leaves a journal of what the parties to it saw. `await_flowAsync` says that it makes no difference whether the
storage action pauses.
-/

namespace EntityMapping

/-! ## Storage families -/

/-- How the entities of a storage family are stored. -/
structure StorageFamily (R : Type) where
  store : TypeName → Object → Conversion R
  load : TypeName → R → Conversion Object

/-- Documents and columns are stored as records. -/
def Converter.recordFamily (c : Converter) : StorageFamily Record := ⟨c.write, c.read⟩

/-- Key-value storage takes pairs. -/
def Converter.keyValueFamily (c : Converter) : StorageFamily KeyValue := ⟨c.toKeyValue, c.ofKeyValue⟩

/-! ## Runs -/

/-- The parties to the way of an entity into storage, apart from the storage action. -/
structure Workflow (R : Type) where
  schema : Schema
  family : StorageFamily R
  /-- Those who see the entity. -/
  observers : Observers
  /-- Those who are told of constructors that are called. -/
  listeners : Observers
  validator : Validator

/-- A storage action on storage in a state of type `σ`. -/
abbrev StorageAction (σ ε R : Type) := R → σ → Except ε R × σ

namespace Workflow

variable {R σ ε : Type}

/-- Validates an entity, noting what the validator found. -/
def validate (w : Workflow R) (t : EntityType) (o : Object) : Traced (Event R) MapError Unit :=
  ⟨[.validated (w.validator o)], w.validator.check t.typeName o⟩

/-- The part of the way before the storage action. -/
def prepare (w : Workflow R) (t : EntityType) (o : Object) : Traced (Event R) MapError R := do
  w.validate t o
  let (events, changed) := w.observers.firePre t o
  Traced.mk events (.ok ())
  w.listeners.relay (w.family.store t.typeName changed)

/-- The part of the way behind the storage action. -/
def complete (w : Workflow R) (t : EntityType) (stored : R) : Traced (Event R) MapError Object := do
  let o ← w.listeners.relay (w.family.load t.typeName stored)
  Traced.mk (w.observers.firePost t o) (.ok o)

/-- The entity to be stored, with its type. -/
def accept (w : Workflow R) (type : TypeName) : Option Object → Except MapError (EntityType × Object)
  | none => .error (.nullArgument "entity")
  | some o => (w.schema.entity type).map fun t => (t, o)

/-- A run up to the storage action: the type of the entity, and what the storage action is given. -/
def start (w : Workflow R) (type : TypeName) (entity : Option Object) :
    Traced (Event R) MapError (EntityType × R) := do
  let (t, o) ← .lift (w.accept type entity)
  return (t, ← w.prepare t o)

/-- The rest of a run whose action was given `given` and returned `stored`. The action fails in its own terms,
`wrap` puts the errors of the workflow in them. -/
def finish (w : Workflow R) (wrap : MapError → ε) (t : EntityType) (journal : List (Event R))
    (given : R) : Except ε R → Traced (Event R) ε Object
  | .error e => ⟨journal ++ [.action given], .error e⟩
  | .ok stored =>
    let after := (w.complete t stored).mapError wrap
    ⟨journal ++ .action given :: after.log, after.result⟩

/-- The way of an entity of a type into storage and back. -/
def flow (w : Workflow R) (wrap : MapError → ε) (type : TypeName) (entity : Option Object)
    (action : StorageAction σ ε R) (s : σ) : Traced (Event R) ε Object × σ :=
  let before := w.start type entity
  match before.result with
  | .error e => (⟨before.log, .error (wrap e)⟩, s)
  | .ok (t, given) =>
    let (stored, s) := action given s
    (w.finish wrap t before.log given stored, s)

/-- The way of an entity of a type into storage and back, when the storage action may pause. -/
def flowAsync (w : Workflow R) (wrap : MapError → ε) (type : TypeName) (entity : Option Object)
    (action : R → Deferred σ (Except ε R)) : Deferred σ (Traced (Event R) ε Object) :=
  let before := w.start type entity
  match before.result with
  | .error e => .ready ⟨before.log, .error (wrap e)⟩
  | .ok (t, given) => (action given).map (w.finish wrap t before.log given)

/-- A run is the same whether its storage action pauses or not. -/
theorem await_flowAsync (w : Workflow R) (wrap : MapError → ε) (type : TypeName)
    (entity : Option Object) (action : R → Deferred σ (Except ε R)) (s : σ) :
    (w.flowAsync wrap type entity action).await s =
      w.flow wrap type entity (fun given => (action given).await) s := by
  unfold flowAsync flow
  cases h : (w.start type entity).result with
  | error e => simp only [h]; rfl
  | ok x => simp only [h, Deferred.await_map]

end Workflow
end EntityMapping
