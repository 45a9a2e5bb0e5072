import EntityMapping.Proofs.Template.Saving
import EntityMapping.Proofs.Template.Shapes

/-!
# Rows behind a call

What a repository call answers depends on storage only by the rows that one query finds, or by the error with which the
search for them ends: the shape that the method declares says how the rows are handed out, and the arguments say which
query it is.

* `Mapping.handOut` — an answer from rows
* `Template.query_eq_handOut` — every call is answered like this
* `DocumentQuery.effective_insert` — the query when a page is requested, from the one without the request
-/

namespace EntityMapping

/-! ## The query and the arguments -/

namespace SpecialParameters

variable {before after : List Parameter} {p : Pageable}

theorem sorts_insert : (ofList (before ++ .pageable p :: after)).sorts = (ofList (before ++ after)).sorts := by
  simp [sorts_ofList, Parameter.sortKeys]

theorem limit_insert : (ofList (before ++ .pageable p :: after)).limit = (ofList (before ++ after)).limit := by
  simp [limit_ofList, List.findSome?_append, List.findSome?_cons, Parameter.limit?]

end SpecialParameters

theorem findPageable_eq_none_iff {parameters : List Parameter} :
    findPageable parameters = none ↔ ∀ p, .pageable p ∉ parameters := by
  constructor
  · intro hnone p hp
    simpa using List.findSome?_eq_none_iff.mp hnone _ hp
  · intro hnone
    refine List.findSome?_eq_none_iff.mpr fun parameter hparameter => ?_
    cases parameter with
    | pageable p => exact absurd hparameter (hnone p)
    | sort | sorts | limit | other => rfl

namespace DocumentQuery

theorem effective_of_not_mem (q : DocumentQuery) {parameters : List Parameter}
    (h : ∀ p, .pageable p ∉ parameters) : q.effective parameters = q.withParameters (.ofList parameters) := by
  rw [effective, findPageable_eq_none_iff.mpr h]
  rfl

/-- A page request pages what the other arguments make of a query, wherever it stands among them. -/
theorem effective_insert (q : DocumentQuery) {before after : List Parameter} (hbefore : ∀ p, .pageable p ∉ before)
    (p : Pageable) :
    q.effective (before ++ .pageable p :: after) = (q.withParameters (.ofList (before ++ after))).paged p := by
  have hfind : findPageable (before ++ .pageable p :: after) = some p :=
    findPageable_eq_some_iff.mpr ⟨before, after, rfl, hbefore⟩
  rw [effective, hfind]
  simp only [Option.elim_some, withParameters, SpecialParameters.sorts_insert, SpecialParameters.limit_insert]

/-- The arguments of a call say nothing about which records match. -/
theorem entity_effective (q : DocumentQuery) (parameters : List Parameter) :
    (q.effective parameters).entity = q.entity :=
  (q.asks_effective parameters).entity

theorem accepts_effective (q : DocumentQuery) (parameters : List Parameter) :
    (q.effective parameters).accepts = q.accepts := by
  funext r
  rw [accepts, accepts, (q.asks_effective parameters).condition]

end DocumentQuery

/-! ## Handing out -/

namespace Mapping

variable (m : Mapping) (method : RepositoryMethod) (type : TypeName)

/-- The entity of the only row, if there is any. -/
def loadOnly : List Record → Answer (Option Object)
  | [] => pure none
  | [r] => do return some (← m.load type r)
  | _ => .fail (.nonUniqueResult method.text)

/-- Hands out the rows of a search in the shape that a method declares. A page is refused before there is a search if
none is requested. -/
def handOut (requested : Option Pageable) (rows : Except MapError (List Record)) :
    Answer (RepositoryReturn Template.Found Object) :=
  match method.returns with
  | .single | .optional => do return .single (← m.loadOnly method type (← .lift rows))
  | .list => do return .list (← (← .lift rows).mapM (m.load type))
  | .stream => do return .stream (.ofList (← (← .lift rows).mapM (m.load type)))
  | .page =>
    match requested with
    | some p => do return .page ⟨← (← .lift rows).mapM (m.load type), p⟩
    | none => .fail (.dynamicQuery (.pageWithoutRequest method.text))

end Mapping

namespace Template

variable {σ : Type} {m : Template σ} {type : TypeName} {q : DocumentQuery} {s : σ} {method : RepositoryMethod}
  {parameters : List Parameter} {rows : List Record}

theorem single_of_ok (h : m.manager.select q s = .ok rows) :
    m.single method type q s = m.mapping.loadOnly method type rows := by
  match rows with
  | [] => exact single_of_nil h
  | [r] =>
    rw [single_of_singleton h, map_eq_pure_bind]
    rfl
  | _ :: _ :: _ => exact single_of_many h (by simp)

theorem single_eq (m : Template σ) (method : RepositoryMethod) (type : TypeName) (q : DocumentQuery) (s : σ) :
    m.single method type q s = (do m.mapping.loadOnly method type (← .lift (m.manager.select q s))) := by
  cases h : m.manager.select q s with
  | error e => exact single_of_error h
  | ok rows => exact (single_of_ok h).trans (pure_bind rows _).symm

/-- **A call hands out the rows that its query finds.** -/
theorem query_eq_handOut (m : Template σ) (method : RepositoryMethod) (type : TypeName) (q : DocumentQuery)
    (parameters : List Parameter) (s : σ) :
    m.query method type q parameters s =
      m.mapping.handOut method type (findPageable parameters) (m.manager.select (q.effective parameters) s) := by
  rw [query_eq, Mapping.handOut.eq_def, select, single_eq]
  cases method.returns with
  | single | optional | list | stream => simp only [map_eq_pure_bind, bind_assoc]
  | page => cases findPageable parameters <;> simp only [map_eq_pure_bind, bind_assoc]

end Template
end EntityMapping
