import EntityMapping.Proofs.Pagination
import EntityMapping.Proofs.Traced
import EntityMapping.Template

/-!
# Shapes of results

A repository method declares in which shape it hands out its results. Whatever the shape, a call is answered by one
and the same query, and the answers differ only in how they hand out what it finds.

* `DocumentQuery.effective` — the query that answers a call
* `DocumentQuery.Asks` — what it asks for, in terms of the first query and the arguments
* `Template.query_eq` — the answer in each shape
* `Template.ShapesAgree` — how the answers in different shapes are related
* `Template.shapesAgree` — they are so for every call
-/

namespace EntityMapping

/-! ## The query that answers a call -/

/-- The query that answers a call with some arguments: it is sorted and limited as they say, and paged if they
request a page. -/
def DocumentQuery.effective (q : DocumentQuery) (parameters : List Parameter) : DocumentQuery :=
  let asked := q.withParameters (.ofList parameters)
  (findPageable parameters).elim asked asked.paged

namespace DocumentQuery

/-- What a query asks for that answers a call with some arguments. -/
structure Asks (q : DocumentQuery) (parameters : List Parameter) (asked : DocumentQuery) : Prop where
  entity : asked.entity = q.entity
  condition : asked.condition = q.condition
  /-- The sorts of the first query count, then those among the arguments, then those of the page request. -/
  sorts : asked.sorts =
    q.sorts ++ parameters.flatMap Parameter.sortKeys ++ (findPageable parameters).elim [] Pageable.sorts
  /-- There are as many results as fit on the page, or else as many as the first limit among the arguments allows, or
  else as many as the first query allows. -/
  limit : asked.limit = (findPageable parameters).elim
    ((parameters.findSome? Parameter.limit?).elim q.limit fun l => some l.maxResults) fun p => some p.size
  /-- The results in front of the page are left out, behind those that the first limit, or else the first query, leaves
  out. -/
  skip : asked.skip.toNat = min
    ((parameters.findSome? Parameter.limit?).elim q.skip.toNat (fun l => l.start.toNat - 1) +
      (findPageable parameters).elim 0 fun p => (p.page - 1).toNat * p.size.toNat) (2 ^ 64 - 1)

variable (q : DocumentQuery) (special : SpecialParameters)

theorem sorts_withParameters : (q.withParameters special).sorts = q.sorts ++ special.sorts := by
  unfold withParameters
  cases special.limit <;> rfl

theorem limit_withParameters :
    (q.withParameters special).limit = special.limit.elim q.limit fun l => some l.maxResults := by
  unfold withParameters
  cases special.limit <;> rfl

/-- A limit leaves out the results in front of its first one. -/
theorem toNat_skip_withParameters :
    (q.withParameters special).skip.toNat = special.limit.elim q.skip.toNat fun l => l.start.toNat - 1 := by
  unfold withParameters
  cases special.limit with
  | none => rfl
  | some l =>
    show (if l.start = 0 then 0 else l.start - 1).toNat = l.start.toNat - 1
    split
    · next h0 => simp [h0]
    · next h0 =>
      have hle : (1 : UInt64) ≤ l.start :=
        UInt64.le_iff_toNat_le.mpr (Nat.one_le_iff_ne_zero.mpr fun h => h0 (UInt64.toNat_inj.mp h))
      rw [UInt64.toNat_sub_of_le _ _ hle]
      rfl

theorem toNat_skip_paged (p : Pageable) :
    (q.paged p).skip.toNat = min (q.skip.toNat + (p.page - 1).toNat * p.size.toNat) (2 ^ 64 - 1) := by
  rw [paged, toNat_addWithin, Pageable.offset, toNat_mulWithin]
  omega

/-- The query that answers a call asks for what the first query and the arguments say. -/
theorem asks_effective (parameters : List Parameter) : q.Asks parameters (q.effective parameters) := by
  have hsorts := q.sorts_withParameters (.ofList parameters)
  have hlimit := q.limit_withParameters (.ofList parameters)
  have hskip := q.toNat_skip_withParameters (.ofList parameters)
  have hasked : (q.withParameters (.ofList parameters)).entity = q.entity ∧
      (q.withParameters (.ofList parameters)).condition = q.condition := by
    unfold withParameters
    cases (SpecialParameters.ofList parameters).limit <;> exact ⟨rfl, rfl⟩
  rw [SpecialParameters.sorts_ofList] at hsorts
  rw [SpecialParameters.limit_ofList] at hlimit hskip
  unfold effective
  constructor
  case entity => cases findPageable parameters <;> exact hasked.1
  case condition => cases findPageable parameters <;> exact hasked.2
  case sorts =>
    cases findPageable parameters with
    | none => exact hsorts.trans (List.append_nil _).symm
    | some p => exact congrArg (· ++ p.sorts) hsorts
  case limit =>
    cases findPageable parameters with
    | none => exact hlimit
    | some p => rfl
  case skip =>
    cases findPageable parameters with
    | none =>
      have hlt := (q.withParameters (.ofList parameters)).skip.toNat_lt
      simp only [Option.elim_none, ← hskip]
      omega
    | some p =>
      simp only [Option.elim_some, ← hskip]
      exact toNat_skip_paged _ p

end DocumentQuery

namespace ResultStream

/-- A sequence that was made of a list produces the list, without a note. -/
theorem collect_ofList {ω α : Type} (results : List α) :
    (ofList results : ResultStream ω α).collect = pure results := by
  have hnotes : (ofList results : ResultStream ω α).flatMap Prod.fst = [] := by
    simp [ofList]
  have hresults : (ofList results : ResultStream ω α).map Prod.snd = results := by
    simp [ofList, Function.comp_def]
  rw [collect, hnotes, hresults]
  rfl

end ResultStream

namespace Template

variable {σ : Type} {m : Template σ} {type : TypeName} {q : DocumentQuery} {s : σ} {method : RepositoryMethod}
  {parameters : List Parameter}

/-! ## A single result -/

theorem single_of_error {e : MapError} (h : m.manager.select q s = .error e) :
    m.single method type q s = .fail e := by
  rw [single, h]
  rfl

theorem single_of_nil (h : m.manager.select q s = .ok []) : m.single method type q s = pure none := by
  rw [single, h]
  rfl

theorem single_of_singleton {r : Record} (h : m.manager.select q s = .ok [r]) :
    m.single method type q s = some <$> m.mapping.load type r := by
  rw [single, h, map_eq_pure_bind]
  rfl

/-- A second row is an error before the first one is converted. -/
theorem single_of_many {rows : List Record} (h : m.manager.select q s = .ok rows) (hrows : 2 ≤ rows.length) :
    m.single method type q s = .fail (.nonUniqueResult method.text) := by
  match rows with
  | [] | [_] => simp at hrows
  | _ :: _ :: _ =>
    rw [single, h]
    rfl

theorem select_of_error {e : MapError} (h : m.manager.select q s = .error e) :
    m.select type q s = .fail e := by
  rw [select, h]
  rfl

theorem select_of_singleton {r : Record} (h : m.manager.select q s = .ok [r]) :
    m.select type q s = (fun o => [o]) <$> m.mapping.load type r := by
  rw [select, h, map_eq_pure_bind]
  show [r].mapM (m.mapping.load type) = _
  simp

/-! ## Answers in each shape -/

/-- All parts of a call that is answered by a query are supplied. -/
theorem build_parts (pageable : Option Pageable) :
    (m.parts method type q pageable s).build = .ok
      { classSource := type
        method := method
        single := m.single method type q s
        result := .ofList <$> m.select type q s
        pagination := pageable.map fun p =>
          { pageable := p
            single := fun p => m.single method type (q.paged p) s
            stream := fun p => .ofList <$> m.select type (q.paged p) s
            page := fun p => (⟨·, p⟩) <$> m.select type (q.paged p) s } } := by
  simp only [map_eq_pure_bind]
  cases pageable with
  | none => rfl
  | some p => rfl

/-- A call is answered by one query, whatever its shape. -/
theorem query_eq (m : Template σ) (method : RepositoryMethod) (type : TypeName) (q : DocumentQuery)
    (parameters : List Parameter) (s : σ) :
    m.query method type q parameters s =
      match method.returns with
      | .single | .optional => .single <$> m.single method type (q.effective parameters) s
      | .list => .list <$> m.select type (q.effective parameters) s
      | .stream => (fun os => .stream (.ofList os)) <$> m.select type (q.effective parameters) s
      | .page =>
        match findPageable parameters with
        | some p => (fun os => .page ⟨os, p⟩) <$> m.select type (q.effective parameters) s
        | none => .fail (.dynamicQuery (.pageWithoutRequest method.text)) := by
  rw [query, build_parts, DocumentQuery.effective]
  show DynamicReturn.execute ResultStream.collect _ = _
  cases findPageable parameters with
  | none =>
    cases hreturns : method.returns <;> simp [DynamicReturn.execute, hreturns, ResultStream.collect_ofList]
  | some p =>
    cases hreturns : method.returns <;> simp [DynamicReturn.execute, hreturns, ResultStream.collect_ofList]

theorem query_of_isSingle {repository name : String} {shape : ReturnShape} (h : shape.isSingle = true) :
    m.query ⟨repository, name, shape⟩ type q parameters s =
      .single <$> m.single ⟨repository, name, shape⟩ type (q.effective parameters) s := by
  rw [query_eq]
  cases shape with
  | single | optional => rfl
  | list | stream | page => simp [ReturnShape.isSingle] at h

/-- If the search for rows fails so does the call, unless it is refused before. -/
theorem query_of_error {e : MapError} (h : m.manager.select (q.effective parameters) s = .error e)
    (hshape : method.returns ≠ .page ∨ (findPageable parameters).isSome = true) :
    m.query method type q parameters s = .fail e := by
  rw [query_eq]
  cases hreturns : method.returns with
  | single | optional =>
    simp only [single_of_error h]
    rfl
  | list | stream =>
    simp only [select_of_error h]
    rfl
  | page =>
    obtain ⟨p, hp⟩ := Option.isSome_iff_exists.mp (hshape.resolve_left (by simp [hreturns]))
    simp only [hp, select_of_error h]
    rfl

/-- How the answers `ask` of a method in its different shapes are related to the rows that a query finds, which are
the same for all shapes. `load` converts a row, and `requested` is the page that was asked for. -/
structure ShapesAgree (rows : Except MapError (List Record)) (load : Record → Mapping.Answer Object)
    (requested : Option Pageable) (method : String)
    (ask : ReturnShape → Mapping.Answer (RepositoryReturn Found Object)) : Prop where
  list : ask .list = do return .list (← (← .lift rows).mapM load)
  stream : ask .stream = do return .stream (.ofList (← (← .lift rows).mapM load))
  /-- What comes one by one is the list, or its error. -/
  collected : (ask .stream >>= RepositoryReturn.intoList ResultStream.collect) =
    (ask .list >>= RepositoryReturn.intoList ResultStream.collect)
  page : ∀ p, requested = some p →
    ask .page = do return .page ⟨← ask .list >>= RepositoryReturn.intoList ResultStream.collect, p⟩
  notPaged : requested = none → ask .page = .fail (.dynamicQuery (.pageWithoutRequest method))
  /-- Several rows are an error whether or not they can be converted. -/
  several : ∀ found, rows = .ok found → 2 ≤ found.length → ∀ shape, shape.isSingle = true →
    ask shape = .fail (.nonUniqueResult method)
  nothing : rows = .ok [] → ∀ shape, shape.isSingle = true → ask shape = pure (.single none)
  one : ∀ r, rows = .ok [r] → (∀ shape, shape.isSingle = true → ask shape = do return .single (some (← load r))) ∧
    ask .list = do return .list [← load r]
  failed : ∀ e, rows = .error e → ∀ shape, shape ≠ .page ∨ requested.isSome = true → ask shape = .fail e

/-- **The answers of a method in its different shapes agree: they hand out what one and the same query finds, which asks
for what the arguments say, and is paged by the first page request among them.** -/
theorem shapesAgree (m : Template σ) (repository name : String) (type : TypeName) (q : DocumentQuery)
    (parameters : List Parameter) (s : σ) :
    (∃ asked, q.Asks parameters asked ∧
        ShapesAgree (m.manager.select asked s) (m.mapping.load type) (findPageable parameters)
          (repository ++ "::" ++ name) fun shape => m.query ⟨repository, name, shape⟩ type q parameters s) ∧
      findPageable parameters = (SpecialParameters.ofList parameters).pageable ∧
      ∀ p, findPageable parameters = some p ↔
        ∃ before after, parameters = before ++ .pageable p :: after ∧ ∀ p', .pageable p' ∉ before := by
  refine ⟨⟨q.effective parameters, q.asks_effective parameters, ?_⟩, findPageable_eq parameters,
    fun p => findPageable_eq_some_iff⟩
  constructor
  case list => simp [query_eq, select]
  case stream => simp [query_eq, select]
  case collected =>
    simp [query_eq, RepositoryReturn.intoList, ResultStream.collect_ofList]
  case page =>
    intro p hp
    simp [query_eq, hp, RepositoryReturn.intoList]
  case notPaged =>
    intro hnone
    simp only [query_eq, hnone]
    rfl
  case several =>
    intro found hfound hlength shape hshape
    rw [query_of_isSingle hshape, single_of_many hfound hlength]
    rfl
  case nothing =>
    intro hnil shape hshape
    rw [query_of_isSingle hshape, single_of_nil hnil]
    rfl
  case one =>
    intro r hr
    refine ⟨fun shape hshape => ?_, ?_⟩
    · rw [query_of_isSingle hshape, single_of_singleton hr]
      simp
    · rw [query_eq, select_of_singleton hr]
      simp
  case failed =>
    intro e he shape hshape
    exact query_of_error he hshape

end Template
end EntityMapping
