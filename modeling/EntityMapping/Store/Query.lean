import EntityMapping.Pagination
import EntityMapping.Value.Equality

/-!
# Document queries

A request for the records of one name: those that hold a given value under a given name, in some order, without the
first few, and not more than a number of them.
-/

namespace EntityMapping

/-- A request for records. -/
structure DocumentQuery where
  entity : String
  /-- A value that the records must hold under a name. -/
  condition : Option (String × Value)
  skip : UInt64
  limit : Option UInt64
  sorts : List SortKey

namespace DocumentQuery

/-- All records of a name. -/
def select (entity : String) : DocumentQuery := ⟨entity, none, 0, none, []⟩

/-- Requires a value under a name. -/
def whereEq (q : DocumentQuery) (field : String) (v : Value) : DocumentQuery :=
  { q with condition := some (field, v) }

/-- Whether a record meets the condition. -/
def accepts (q : DocumentQuery) (r : Record) : Bool :=
  match q.condition with
  | none => true
  | some (field, v) => (r.get? field).any fun w => w.eqv v

/-- The part of a list that a query leaves of its results. -/
def window {α : Type} (q : DocumentQuery) (results : List α) : List α :=
  let rest := results.drop q.skip.toNat
  match q.limit with
  | none => rest
  | some limit => rest.take limit.toNat

/-- Applies what the arguments of a call say about sorts and limits. -/
def withParameters (q : DocumentQuery) (special : SpecialParameters) : DocumentQuery :=
  let q := { q with sorts := q.sorts ++ special.sorts }
  match special.limit with
  | none => q
  | some l => { q with skip := if l.start = 0 then 0 else l.start - 1, limit := some l.maxResults }

/-- The part of a query that a page request asks for. -/
def paged (q : DocumentQuery) (p : Pageable) : DocumentQuery :=
  { q with
    skip := addWithin q.skip p.offset
    limit := some p.size
    sorts := q.sorts ++ p.sorts }

end DocumentQuery
end EntityMapping
