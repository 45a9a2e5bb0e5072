import EntityMapping.Deferred
import EntityMapping.Settings
import EntityMapping.Store.Order
import EntityMapping.Store.Query

/-!
# Stores

Storage in memory: the records of each name are kept in the order in which they were inserted. A record is identified
by its id field. One that is inserted without an id gets the next number of a counter; the counter moves on also
when the insertion fails afterwards, and starts over at the other end when it has passed the last number.

Storage as such is described by what it does to a state, so that a store can stand in any place where some storage
is needed.
-/

namespace EntityMapping

/-- Storage in memory. -/
structure Store where
  idField : String
  nextId : Int64
  collections : List (String × List Record)

namespace Store

/-- A store without records. -/
def empty (idField : String) (start : Int64) : Store := ⟨idField, start, []⟩

/-- A store without records, set up by settings: the id field is `id` and the first id 1 if they do not say
otherwise. -/
def ofSettings (settings : Settings) : Except MapError Store := do
  let start ← settings.getInt64 "id.start"
  return empty (settings.getOr "id.field" "id") (start.getD 1)

/-- The records of a name, in the order of their insertion. -/
def collection (s : Store) (name : String) : List Record := (Fields.get? name s.collections).getD []

/-- The store with other records of a name. -/
def put (s : Store) (name : String) (records : List Record) : Store :=
  { s with collections := Fields.add name records s.collections }

theorem collection_put (s : Store) (name key : String) (records : List Record) :
    (s.put name records).collection key = if key = name then records else s.collection key := by
  unfold collection put
  rw [Fields.get?_add]
  split <;> rfl

/-- Whether a stored record has an id. -/
def hasId (s : Store) (id : Value) (r : Record) : Bool := (r.get? s.idField).any fun v => v.eqv id

/-- A record with its id. If it has none it gets the next number. -/
def identify (s : Store) (r : Record) : (Record × Value) × Store :=
  match r.get? s.idField with
  | some id => ((r, id), s)
  | none =>
    let id := .integer s.nextId
    ((r.add s.idField id, id), { s with nextId := s.nextId + 1 })

/-- Stores a new record, and returns it with its id. -/
def insert (s : Store) (r : Record) : Except MapError Record × Store :=
  let ((r, id), s) := s.identify r
  let records := s.collection r.name
  if records.any (s.hasId id) then (.error (.storage (.alreadyExists r.name s.idField id)), s)
  else (.ok r, s.put r.name (records ++ [r]))

/-- Puts an item in the place of the first one with a property. -/
def replaceFirst {α : Type} (p : α → Bool) (a : α) : List α → Option (List α)
  | [] => none
  | b :: bs => if p b then some (a :: bs) else (replaceFirst p a bs).map (b :: ·)

/-- Puts a record in the place of the stored one with the same id. -/
def update (s : Store) (r : Record) : Except MapError Record × Store :=
  match r.get? s.idField with
  | none => (.error (.storage (.withoutId r.name s.idField)), s)
  | some id =>
    match replaceFirst (s.hasId id) r (s.collection r.name) with
    | none => (.error (.storage (.notFound r.name s.idField id)), s)
    | some records => (.ok r, s.put r.name records)

/-- The records that meet the condition of a query. -/
def matching (s : Store) (q : DocumentQuery) : List Record := (s.collection q.entity).filter q.accepts

/-- The records that meet the condition of a query, in the order of its sorts. The call breaks off if they cannot be
sorted. -/
def sorted (s : Store) (q : DocumentQuery) : Except MapError (List Record) :=
  match sortRecords? q.sorts (s.matching q) with
  | some records => .ok records
  | none => .error .unsortable

theorem sorted_eq_ok_iff {s : Store} {q : DocumentQuery} {records : List Record} :
    s.sorted q = .ok records ↔ Sortable q.sorts (s.matching q) ∧ sortRecords q.sorts (s.matching q) = records := by
  rw [← sortRecords?_eq_some_iff, sorted]
  cases sortRecords? q.sorts (s.matching q) <;> simp

/-- The records that a query asks for. -/
def select (s : Store) (q : DocumentQuery) : Except MapError (List Record) := (s.sorted q).map q.window

theorem select_eq_ok_iff {s : Store} {q : DocumentQuery} {rows : List Record} :
    s.select q = .ok rows ↔
      Sortable q.sorts (s.matching q) ∧ q.window (sortRecords q.sorts (s.matching q)) = rows := by
  constructor
  · intro h
    cases hsorted : s.sorted q with
    | error e => simp [select, hsorted, Except.map] at h
    | ok records =>
      obtain ⟨hsortable, rfl⟩ := sorted_eq_ok_iff.mp hsorted
      rw [select, hsorted] at h
      exact ⟨hsortable, Except.ok.inj h⟩
  · rintro ⟨hsortable, rfl⟩
    rw [select, sorted_eq_ok_iff.mpr ⟨hsortable, rfl⟩]
    rfl

theorem select_of_not_sortable {s : Store} {q : DocumentQuery} (h : ¬ Sortable q.sorts (s.matching q)) :
    s.select q = .error .unsortable := by
  rw [select, sorted, sortRecords?, if_neg h]
  rfl

/-- Without sorts the records are found in the order of their insertion. -/
theorem select_of_sorts_eq_nil {s : Store} {q : DocumentQuery} (h : q.sorts = []) :
    s.select q = .ok (q.window (s.matching q)) := by
  rw [select_eq_ok_iff, h]
  exact ⟨sortable_nil _, rfl⟩

/-- Deletes the records that meet the condition of a query, and returns how many there were. -/
def delete (s : Store) (q : DocumentQuery) : Nat × Store :=
  let records := s.collection q.entity
  let kept := records.filter fun r => !q.accepts r
  (records.length - kept.length, s.put q.entity kept)

/-- The number of records of a name. -/
def count (s : Store) (name : String) : Nat := (s.collection name).length

end Store

/-! ## Storage -/

/-- Storage for documents, as what it does to a state of type `σ`. -/
structure DocumentManager (σ : Type) where
  insert : Record → σ → Except MapError Record × σ
  update : Record → σ → Except MapError Record × σ
  select : DocumentQuery → σ → Except MapError (List Record)
  delete : DocumentQuery → σ → Except MapError Nat × σ
  count : String → σ → Except MapError Nat

/-- Storage for documents whose answers may take their time. -/
structure AsyncDocumentManager (σ : Type) where
  insert : Record → Deferred σ (Except MapError Record)
  update : Record → Deferred σ (Except MapError Record)
  select : DocumentQuery → Deferred σ (Except MapError (List Record))
  delete : DocumentQuery → Deferred σ (Except MapError Nat)
  count : String → Deferred σ (Except MapError Nat)

/-- Storage in memory. -/
def Store.manager : DocumentManager Store where
  insert r s := s.insert r
  update r s := s.update r
  select q s := s.select q
  delete q s := (.ok (s.delete q).1, (s.delete q).2)
  count name s := .ok (s.count name)

namespace DocumentManager

variable {σ : Type}

/-- The same storage in a form that could take its time, but does not. -/
def atOnce (m : DocumentManager σ) : AsyncDocumentManager σ where
  insert r := .done (m.insert r)
  update r := .done (m.update r)
  select q := .done fun s => (m.select q s, s)
  delete q := .done (m.delete q)
  count name := .done fun s => (m.count name s, s)

/-- The same storage, with every call made elsewhere while the caller pauses. -/
def elsewhere (m : DocumentManager σ) : AsyncDocumentManager σ where
  insert r := .elsewhere (m.insert r)
  update r := .elsewhere (m.update r)
  select q := .elsewhere fun s => (m.select q s, s)
  delete q := .elsewhere (m.delete q)
  count name := .elsewhere fun s => (m.count name s, s)

end DocumentManager
end EntityMapping
