import EntityMapping.Repository.DynamicReturn
import EntityMapping.Store
import EntityMapping.Workflow

/-!
# Templates

Storage for entities: entities go into document storage through a workflow, and what queries find is converted back.
A repository method is answered by a query in the shape that the method declares; a page request among its
arguments pages the query.
-/

namespace EntityMapping

/-- The parties to the mapping of entities, apart from storage. -/
structure Mapping where
  converter : Converter
  observers : Observers
  validator : Validator

namespace Mapping

/-- The workflow for documents, and for columns as well. -/
def recordWorkflow (m : Mapping) : Workflow Record :=
  ⟨m.converter.schema, m.converter.recordFamily, m.observers, m.observers, m.validator⟩

/-- The workflow for key-value storage. -/
def keyValueWorkflow (m : Mapping) : Workflow KeyValue :=
  ⟨m.converter.schema, m.converter.keyValueFamily, m.observers, m.observers, m.validator⟩

/-- What happens while a template is at work. -/
abbrev Answer (α : Type) := Traced (Event Record) MapError α

/-- The entity type of a name. -/
def entity (m : Mapping) (type : TypeName) : Answer EntityType := .lift (m.converter.schema.entity type)

/-- The object that a record stands for. -/
def load (m : Mapping) (type : TypeName) (r : Record) : Answer Object :=
  m.observers.relay (m.converter.read type r)

end Mapping

open Mapping (Answer)

/-- Storage for entities on top of storage for documents. -/
structure Template (σ : Type) where
  mapping : Mapping
  manager : DocumentManager σ

/-- The query for the record with an id. -/
def EntityType.idQuery (t : EntityType) (id : Value) : Except MapError DocumentQuery :=
  match t.id? with
  | some f => .ok ((DocumentQuery.select t.name).whereEq f.name id)
  | none => .error (.idNotFound t.name)

namespace Template

variable {σ : Type}

/-- Stores a new entity, and returns it as it was stored. -/
def insert (m : Template σ) (type : TypeName) (entity : Option Object) (s : σ) : Answer Object × σ :=
  m.mapping.recordWorkflow.flow id type entity m.manager.insert s

/-- Stores an entity in the place of the one with its id, and returns it as it was stored. -/
def update (m : Template σ) (type : TypeName) (entity : Option Object) (s : σ) : Answer Object × σ :=
  m.mapping.recordWorkflow.flow id type entity m.manager.update s

/-- The query for the entity of a type with an id. -/
def idQuery (m : Template σ) (type : TypeName) (id : Option Value) : Answer DocumentQuery := do
  match id with
  | none => .fail (.nullArgument "id")
  | some id => .lift ((← m.mapping.entity type).idQuery id)

/-- The only record that a query finds, if there is any, as an entity. -/
def single (m : Template σ) (method : RepositoryMethod) (type : TypeName) (q : DocumentQuery) (s : σ) :
    Answer (Option Object) := do
  let found := (m.manager.select q s).map fun records => (ResultStream.ofList records).answers
  match ← singleResult method (.lift found) with
  | none => return none
  | some r => return some (← m.mapping.load type r)

/-- All entities that a query finds. -/
def select (m : Template σ) (type : TypeName) (q : DocumentQuery) (s : σ) : Answer (List Object) := do
  (← .lift (m.manager.select q s)).mapM (m.mapping.load type)

/-- The entity with an id. -/
def findById (m : Template σ) (type : TypeName) (id : Option Value) (s : σ) :
    Answer (Option Object) := do
  let q ← m.idQuery type id
  m.single ⟨type, "find_by_id", .optional⟩ type q s

/-- All entities of a type. -/
def findAll (m : Template σ) (type : TypeName) (s : σ) : Answer (List Object) := do
  m.select type (.select (← m.mapping.entity type).name) s

/-- Deletes the entity with an id. Says whether there was one. -/
def deleteById (m : Template σ) (type : TypeName) (id : Option Value) (s : σ) : Answer Bool × σ :=
  let q := m.idQuery type id
  match q.result with
  | .error e => (⟨q.log, .error e⟩, s)
  | .ok query =>
    let (deleted, s) := m.manager.delete query s
    (⟨q.log, deleted.map fun n => 0 < n⟩, s)

/-- The number of entities of a type. -/
def count (m : Template σ) (type : TypeName) (s : σ) : Answer Nat := do
  .lift (m.manager.count (← m.mapping.entity type).name s)

/-! ## Repository methods -/

/-- Entities that were found, as they come. -/
abbrev Found := ResultStream (Event Record) Object

/-- The parts of a repository call that a query answers. -/
def parts (m : Template σ) (method : RepositoryMethod) (type : TypeName) (q : DocumentQuery)
    (pageable : Option Pageable) (s : σ) : DynamicReturnParts (Event Record) Found Object where
  classSource := some type
  method := some method
  single := some (m.single method type q s)
  result := some (do return .ofList (← m.select type q s))
  pagination := pageable
  singlePaged := some fun p => m.single method type (q.paged p) s
  streamPaged := some fun p => do return .ofList (← m.select type (q.paged p) s)
  page := some fun p => do return ⟨← m.select type (q.paged p) s, p⟩

/-- Answers a repository method by a query. -/
def query (m : Template σ) (method : RepositoryMethod) (type : TypeName) (q : DocumentQuery)
    (parameters : List Parameter) (s : σ) : Answer (RepositoryReturn Found Object) := do
  let q := q.withParameters (.ofList parameters)
  let call ← .lift (m.parts method type q (findPageable parameters) s).build
  call.execute ResultStream.collect

end Template

/-! ## Storage that takes its time -/

/-- Storage for entities on top of storage for documents whose answers may take their time. -/
structure AsyncTemplate (σ : Type) where
  mapping : Mapping
  manager : AsyncDocumentManager σ

namespace AsyncTemplate

variable {σ : Type}

/-- Stores a new entity, and returns it as it was stored. -/
def insert (m : AsyncTemplate σ) (type : TypeName) (entity : Option Object) :
    Deferred σ (Answer Object) :=
  m.mapping.recordWorkflow.flowAsync id type entity m.manager.insert

/-- Stores an entity in the place of the one with its id, and returns it as it was stored. -/
def update (m : AsyncTemplate σ) (type : TypeName) (entity : Option Object) :
    Deferred σ (Answer Object) :=
  m.mapping.recordWorkflow.flowAsync id type entity m.manager.update

/-- All entities of a type. -/
def findAll (m : AsyncTemplate σ) (type : TypeName) : Deferred σ (Answer (List Object)) :=
  match (m.mapping.converter.schema.entity type) with
  | .error e => .ready (.fail e)
  | .ok t =>
    (m.manager.select (.select t.name)).map fun found => do
      (← .lift found).mapM (m.mapping.load type)

end AsyncTemplate
end EntityMapping
