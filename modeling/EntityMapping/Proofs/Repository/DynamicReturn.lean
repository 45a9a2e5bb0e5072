import EntityMapping.Proofs.Traced
import EntityMapping.Repository.DynamicReturn
import Mathlib.Data.List.Induction

/-!
# Calls that are put together in steps

The parts of a repository call are supplied in steps of any order, and for each part the last one counts. A call is
made of them if none is missing that it needs. When it is executed, the shape of its results and whether a page is
requested decide which one of the functions is called. Whether its results ever end matters for a list only.

* `DynamicReturnParts.get?_ofList`, `DynamicReturnParts.pagination_ofList` — the last step counts
* `DynamicReturnParts.assembles` — what a call is made of, or which part is missing
* `DynamicReturn.executesSelected` — which function is called, and what becomes of its results
* `RepositoryMethod.asksTwice` — how a single result is looked for
* `DynamicReturn.put_together_and_executed` — all of it
-/

namespace EntityMapping

variable {ω τ α : Type}

/-! ## Parts -/

namespace CallPart

/-- What is said to be missing if a part is. -/
def wording : CallPart → String
  | classSource => "the class Source"
  | method => "the method Source"
  | single => "the single result supplier"
  | result => "the result supplier"
  | singlePaged => "the single result pagination function"
  | streamPaged => "the stream pagination function"
  | page => "the page function"

/-- The parts that a call needs, in the order in which they are looked for. Those for one page are needed only if one
is requested. -/
def needed (paged : Bool) : List CallPart :=
  [classSource, method, single, result] ++ if paged then [singlePaged, streamPaged, page] else []

/-- The part that gets the results for a shape. There is none for a page if none is requested. -/
def selected? (paged : Bool) : ReturnShape → Option CallPart
  | .single => some (if paged then singlePaged else single)
  | .optional => some (if paged then singlePaged else single)
  | .list => some (if paged then streamPaged else result)
  | .stream => some (if paged then streamPaged else result)
  | .page => if paged then some page else none

end CallPart

/-! ## Steps -/

namespace Supply

/-- What a step supplies as a part. -/
def part? (k : CallPart) : Supply ω τ α → Option (k.Carrier ω τ α)
  | part j x => if h : j = k then some (h ▸ x) else none
  | pagination _ => none

/-- What a step says about the page that is requested. -/
def pagination? : Supply ω τ α → Option (Option Pageable)
  | part _ _ => none
  | pagination p => some p

/-- What is supplied as a part in the last one of the steps that do so. -/
def last? (k : CallPart) (steps : List (Supply ω τ α)) : Option (k.Carrier ω τ α) :=
  (steps.filterMap (part? k)).getLast?

/-- The page that is requested by the last one of the steps that say so. -/
def requested? (steps : List (Supply ω τ α)) : Option Pageable := (steps.filterMap pagination?).getLast?.join

theorem last?_concat (k : CallPart) (steps : List (Supply ω τ α)) (step : Supply ω τ α) :
    last? k (steps ++ [step]) = (part? k step).or (last? k steps) := by
  rw [last?, List.filterMap_append, List.getLast?_append]
  cases h : part? k step <;> simp [h, last?]

theorem requested?_concat (steps : List (Supply ω τ α)) (step : Supply ω τ α) :
    requested? (steps ++ [step]) = step.pagination?.getD (requested? steps) := by
  rw [requested?, List.filterMap_append, List.getLast?_append]
  cases h : step.pagination? <;> simp [h, requested?]

end Supply

open Supply (last? requested?)

namespace DynamicReturnParts

variable {parts : DynamicReturnParts ω τ α}

/-- A part, if it has been supplied. -/
def get? (parts : DynamicReturnParts ω τ α) : (k : CallPart) → Option (k.Carrier ω τ α)
  | .classSource => parts.classSource
  | .method => parts.method
  | .single => parts.single
  | .result => parts.result
  | .singlePaged => parts.singlePaged
  | .streamPaged => parts.streamPaged
  | .page => parts.page

theorem get?_supply (parts : DynamicReturnParts ω τ α) (step : Supply ω τ α) (k : CallPart) :
    (parts.supply step).get? k = (step.part? k).or (parts.get? k) := by
  cases step with
  | part j x => cases j <;> cases k <;> rfl
  | pagination p => cases k <;> rfl

theorem pagination_supply (parts : DynamicReturnParts ω τ α) (step : Supply ω τ α) :
    (parts.supply step).pagination = step.pagination?.getD parts.pagination := by
  cases step with
  | part j x => cases j <;> rfl
  | pagination p => rfl

theorem ofList_concat (steps : List (Supply ω τ α)) (step : Supply ω τ α) :
    ofList (steps ++ [step]) = (ofList steps).supply step := by
  rw [ofList, List.foldl_concat, ofList]

/-- Of the steps that supply a part, the last one counts. -/
theorem get?_ofList (steps : List (Supply ω τ α)) (k : CallPart) : (ofList steps).get? k = last? k steps := by
  induction steps using List.reverseRecOn with
  | nil => cases k <;> rfl
  | append_singleton steps step ih => rw [ofList_concat, get?_supply, ih, Supply.last?_concat]

/-- Of the steps about the page that is requested, the last one counts. -/
theorem pagination_ofList (steps : List (Supply ω τ α)) : (ofList steps).pagination = requested? steps := by
  induction steps using List.reverseRecOn with
  | nil => rfl
  | append_singleton steps step ih => rw [ofList_concat, pagination_supply, ih, Supply.requested?_concat]

/-! ## Building -/

theorem required_eq_ok_iff {β : Type} {what : String} {x : Option β} {b : β} :
    required what x = .ok b ↔ x = some b := by
  cases x <;> simp [required]

/-- The first part that is missing is the one that is named, and nothing is wrong if there is none. -/
theorem build_cases (parts : DynamicReturnParts ω τ α) :
    match (CallPart.needed parts.pagination.isSome).find? fun k => (parts.get? k).isNone with
    | some k => parts.build = .error (.nullArgument k.wording)
    | none => ∃ d, parts.build = .ok d := by
  obtain ⟨classSource, method, single, result, pagination, singlePaged, streamPaged, page⟩ := parts
  -- the parts are looked for one after another, and those behind the first missing one do not matter
  rcases classSource with _ | classSource
  · rfl
  rcases method with _ | method
  · rfl
  rcases single with _ | single
  · rfl
  rcases result with _ | result
  · rfl
  rcases pagination with _ | p
  · exact ⟨_, rfl⟩
  rcases singlePaged with _ | singlePaged
  · rfl
  rcases streamPaged with _ | streamPaged
  · rfl
  rcases page with _ | page
  · rfl
  · exact ⟨_, rfl⟩

/-- What is made holds the parts. -/
theorem of_build_eq_ok {d : DynamicReturn ω τ α} (h : parts.build = .ok d) :
    parts.classSource = some d.classSource ∧ parts.method = some d.method ∧ parts.single = some d.single ∧
      parts.result = some d.result ∧ parts.pagination = d.pageable? ∧
      ∀ p, d.pagination = some p →
        parts.singlePaged = some p.single ∧ parts.streamPaged = some p.stream ∧ parts.page = some p.page := by
  simp only [build, bind_eq_ok, required_eq_ok_iff, pure, Except.pure, Except.ok.injEq] at h
  obtain ⟨classSource, hclassSource, method, hmethod, single, hsingle, result, hresult, pagination, hpagination, rfl⟩ :=
    h
  refine ⟨hclassSource, hmethod, hsingle, hresult, ?_⟩
  cases hparts : parts.pagination with
  | none =>
    rw [hparts] at hpagination
    obtain rfl : none = pagination := Except.ok.inj hpagination
    exact ⟨rfl, nofun⟩
  | some p =>
    rw [hparts, Option.mapM_some, map_eq_pure_bind, bind_eq_ok] at hpagination
    obtain ⟨made, hmade, hpagination⟩ := hpagination
    obtain rfl : some made = pagination := Except.ok.inj hpagination
    simp only [paginated, bind_eq_ok, required_eq_ok_iff, pure, Except.pure, Except.ok.injEq] at hmade
    obtain ⟨singlePaged, hsinglePaged, streamPaged, hstreamPaged, page, hpage, rfl⟩ := hmade
    refine ⟨rfl, fun q hq => ?_⟩
    obtain rfl := Option.some.inj hq
    exact ⟨hsinglePaged, hstreamPaged, hpage⟩

end DynamicReturnParts

/-- Whether a call consists of the parts that the last steps supplied. -/
structure DynamicReturn.IsMadeOf (d : DynamicReturn ω τ α) (steps : List (Supply ω τ α)) : Prop where
  classSource : last? .classSource steps = some d.classSource
  method : last? .method steps = some d.method
  single : last? .single steps = some d.single
  result : last? .result steps = some d.result
  requested : requested? steps = d.pageable?
  paged : ∀ p, d.pagination = some p →
    last? .singlePaged steps = some p.single ∧ last? .streamPaged steps = some p.stream ∧
      last? .page steps = some p.page

namespace DynamicReturnParts

/-- What becomes of the parts that are supplied in steps. -/
structure Assembles (steps : List (Supply ω τ α)) : Prop where
  /-- They make a call if none is missing that it needs. -/
  complete : (∃ d, (ofList steps).build = .ok d) ↔
    ∀ k ∈ CallPart.needed (requested? steps).isSome, (last? k steps).isSome = true
  /-- The call consists of what the last steps supplied. -/
  made : ∀ d, (ofList steps).build = .ok d → d.IsMadeOf steps
  /-- Otherwise the first one that is missing is named. -/
  missing : ∀ before k after, CallPart.needed (requested? steps).isSome = before ++ k :: after →
    (∀ j ∈ before, (last? j steps).isSome = true) → last? k steps = none →
      (ofList steps).build = .error (.nullArgument k.wording)

theorem assembles (steps : List (Supply ω τ α)) : Assembles steps := by
  have hbuild := build_cases (ofList steps)
  simp only [get?_ofList, pagination_ofList] at hbuild
  have herror {k : CallPart}
      (hk : (CallPart.needed (requested? steps).isSome).find? (fun k => (last? k steps).isNone) = some k) :
      (ofList steps).build = .error (.nullArgument k.wording) := by
    rwa [hk] at hbuild
  refine ⟨⟨?_, fun hall => ?_⟩, fun d hd => ?_, fun before k after hneeded hbefore hk => herror ?_⟩
  · rintro ⟨d, hd⟩ k hk
    by_contra hnone
    have hfound : ((CallPart.needed (requested? steps).isSome).find? fun k => (last? k steps).isNone).isSome = true :=
      List.find?_isSome.mpr ⟨k, hk, by simpa using hnone⟩
    obtain ⟨j, hj⟩ := Option.isSome_iff_exists.mp hfound
    rw [herror hj] at hd
    exact absurd hd nofun
  · have hnone : (CallPart.needed (requested? steps).isSome).find? (fun k => (last? k steps).isNone) = none :=
      List.find?_eq_none.mpr fun k hk => by simpa using Option.isSome_iff_ne_none.mp (hall k hk)
    rwa [hnone] at hbuild
  · obtain ⟨hclassSource, hmethod, hsingle, hresult, hrequested, hpaged⟩ := of_build_eq_ok hd
    rw [pagination_ofList] at hrequested
    have hlast (k : CallPart) := get?_ofList steps k
    exact ⟨(hlast .classSource).symm.trans hclassSource, (hlast .method).symm.trans hmethod,
      (hlast .single).symm.trans hsingle, (hlast .result).symm.trans hresult, hrequested, fun p hp =>
        ⟨(hlast .singlePaged).symm.trans (hpaged p hp).1, (hlast .streamPaged).symm.trans (hpaged p hp).2.1,
          (hlast .page).symm.trans (hpaged p hp).2.2⟩⟩
  · refine List.find?_eq_some_iff_append.mpr ⟨by simp [hk], before, after, hneeded, fun j hj => ?_⟩
    simpa using hbefore j hj

end DynamicReturnParts

/-! ## Executing -/

namespace DynamicReturn

/-- The same call with functions that first leave a note, which one is called and for which page. -/
def announced (called : CallPart → Option Pageable → ω) (d : DynamicReturn ω τ α) : DynamicReturn ω τ α where
  classSource := d.classSource
  method := d.method
  single := do Traced.note (called .single none); d.single
  result := do Traced.note (called .result none); d.result
  pagination := d.pagination.map fun p =>
    { pageable := p.pageable
      single := fun q => do Traced.note (called .singlePaged (some q)); p.single q
      stream := fun q => do Traced.note (called .streamPaged (some q)); p.stream q
      page := fun q => do Traced.note (called .page (some q)); p.page q }

/-- Gets at most one result, of the page that is requested if one is. -/
def one (d : DynamicReturn ω τ α) : Traced ω MapError (Option α) :=
  d.pagination.elim d.single fun p => p.single p.pageable

/-- Gets all results, of the page that is requested if one is. -/
def all (d : DynamicReturn ω τ α) : Traced ω MapError τ :=
  d.pagination.elim d.result fun p => p.stream p.pageable

variable {collect : τ → Traced ω MapError (List α)}

/-- How a call is executed. -/
structure ExecutesSelected (collect : τ → Traced ω MapError (List α)) (d : DynamicReturn ω τ α) : Prop where
  /-- One function is called, and that for the page which is requested. -/
  selected : ∀ (called : CallPart → Option Pageable → ω) (k : CallPart),
    CallPart.selected? d.pagination.isSome d.method.returns = some k →
      (d.announced called).execute collect =
        ⟨called k d.pageable? :: (d.execute collect).log, (d.execute collect).result⟩
  /-- If there is none for the shape, none is called. -/
  unselected : ∀ called : CallPart → Option Pageable → ω,
    CallPart.selected? d.pagination.isSome d.method.returns = none →
      (d.announced called).execute collect = .fail (.dynamicQuery (.pageWithoutRequest d.method.text))
  /-- A single result or an error is handed on. -/
  single : d.method.returns.isSingle = true → d.execute collect = d.one.mapResult .single
  /-- All results are produced for a list, and an error is handed on. -/
  list : d.method.returns = .list → d.execute collect =
    match d.all.result with
    | .ok results => ⟨d.all.log ++ (collect results).log, (collect results).result.map .list⟩
    | .error e => ⟨d.all.log, .error e⟩
  /-- No result is produced before it is asked for, and an error is handed on. -/
  stream : d.method.returns = .stream → d.execute collect = d.all.mapResult .stream
  /-- A page or an error is handed on. -/
  page : d.method.returns = .page → ∀ p, d.pagination = some p → d.execute collect = (p.page p.pageable).mapResult .page

theorem bind_pure_eq_mapResult {β γ : Type} (x : Traced ω MapError β) (f : β → γ) :
    (do return f (← x)) = x.mapResult f := by
  cases h : x.result with
  | ok b => simp [Traced.bind_of_ok h, Traced.mapResult, h, Except.map]
  | error e => simp [Traced.bind_of_error h, Traced.mapResult, h, Except.map]

/-- What a call does in each shape. -/
theorem execute_eq (d : DynamicReturn ω τ α) :
    d.execute collect =
      match d.method.returns with
      | .single | .optional => d.one.mapResult .single
      | .list => d.all >>= fun results => (collect results).mapResult .list
      | .stream => d.all.mapResult .stream
      | .page => d.pagination.elim (.fail (.dynamicQuery (.pageWithoutRequest d.method.text))) fun p =>
        (p.page p.pageable).mapResult .page := by
  rw [execute]
  cases d.method.returns with
  | single | optional => exact bind_pure_eq_mapResult d.one _
  | list => exact bind_congr fun results => bind_pure_eq_mapResult (collect results) _
  | stream => exact bind_pure_eq_mapResult d.all _
  | page =>
    cases d.pagination with
    | none => rfl
    | some p => exact bind_pure_eq_mapResult (p.page p.pageable) _

theorem one_announced (called : CallPart → Option Pageable → ω) (d : DynamicReturn ω τ α) :
    (d.announced called).one =
      (do Traced.note (called (if d.pagination.isSome then .singlePaged else .single) d.pageable?); d.one) := by
  rw [one, one, announced, pageable?]
  cases d.pagination <;> rfl

theorem all_announced (called : CallPart → Option Pageable → ω) (d : DynamicReturn ω τ α) :
    (d.announced called).all =
      (do Traced.note (called (if d.pagination.isSome then .streamPaged else .result) d.pageable?); d.all) := by
  rw [all, all, announced, pageable?]
  cases d.pagination <;> rfl

theorem execute_announced {d : DynamicReturn ω τ α} {k : CallPart}
    (h : CallPart.selected? d.pagination.isSome d.method.returns = some k) (called : CallPart → Option Pageable → ω) :
    (d.announced called).execute collect =
      ⟨called k d.pageable? :: (d.execute collect).log, (d.execute collect).result⟩ := by
  rw [execute_eq, execute_eq d, show (d.announced called).method = d.method from rfl]
  cases hreturns : d.method.returns with
  | single | optional =>
    rw [hreturns] at h
    obtain rfl := Option.some.inj h
    rw [one_announced]
    rfl
  | list =>
    rw [hreturns] at h
    obtain rfl := Option.some.inj h
    rw [all_announced, bind_assoc]
    rfl
  | stream =>
    rw [hreturns] at h
    obtain rfl := Option.some.inj h
    rw [all_announced]
    rfl
  | page =>
    rw [hreturns] at h
    rw [announced, pageable?]
    cases hpagination : d.pagination with
    | none => simp [hpagination, CallPart.selected?] at h
    | some p =>
      rw [hpagination] at h
      obtain rfl := Option.some.inj h
      rfl

theorem executesSelected (collect : τ → Traced ω MapError (List α)) (d : DynamicReturn ω τ α) :
    d.ExecutesSelected collect where
  selected called k hk := execute_announced hk called
  unselected called hnone := by
    cases hreturns : d.method.returns with
    | page =>
      rw [execute_eq, announced, hreturns]
      cases hpagination : d.pagination with
      | none => rfl
      | some p => simp [hreturns, hpagination, CallPart.selected?] at hnone
    | _ => simp [hreturns, CallPart.selected?] at hnone
  single h := by
    rw [execute_eq]
    cases hreturns : d.method.returns with
    | single | optional => rfl
    | _ => simp [hreturns, ReturnShape.isSingle] at h
  list h := by
    rw [execute_eq, h]
    cases hall : d.all.result with
    | ok results => exact Traced.bind_of_ok hall _
    | error e => exact Traced.bind_of_error hall _
  stream h := by rw [execute_eq, h]
  page h p hp := by rw [execute_eq, h, hp, Option.elim_some]

/-- A finite sequence is produced one result after the other for a list. -/
theorem execute_list (d : DynamicReturn ω (ResultStream ω α) α) (h : d.method.returns = .list) :
    d.execute ResultStream.collect =
      match d.all.result with
      | .ok results => ⟨d.all.log ++ results.flatMap Prod.fst, .ok (.list (results.map Prod.snd))⟩
      | .error e => ⟨d.all.log, .error e⟩ := by
  rw [(executesSelected ResultStream.collect d).list h]
  cases d.all.result <;> rfl

end DynamicReturn

/-! ## Single results -/

/-- How a single result is looked for. -/
structure RepositoryMethod.AsksTwice (method : RepositoryMethod) (supplier : Traced ω MapError (Answers ω α)) :
    Prop where
  /-- If there is nothing to ask, the error is handed on. -/
  failed : ∀ e, supplier.result = .error e → singleResult method supplier = ⟨supplier.log, .error e⟩
  /-- There may be no result, -/
  noResult : ∀ answers, supplier.result = .ok answers → answers 0 = none →
    singleResult method supplier = ⟨supplier.log, .ok none⟩
  /-- or exactly one, -/
  oneResult : ∀ answers notes a, supplier.result = .ok answers → answers 0 = some (notes, a) → answers 1 = none →
    singleResult method supplier = ⟨supplier.log ++ notes, .ok (some a)⟩
  /-- and a second one is an error. -/
  manyResults : ∀ answers notes a more b, supplier.result = .ok answers → answers 0 = some (notes, a) →
    answers 1 = some (more, b) →
      singleResult method supplier = ⟨supplier.log ++ (notes ++ more), .error (.nonUniqueResult method.text)⟩
  /-- Nothing depends on the answers to further requests, or on the second one if there is no first result. -/
  unasked : ∀ answers answers', supplier.result = .ok answers → answers' 0 = answers 0 →
    ((answers 0).isSome = true → answers' 1 = answers 1) →
      singleResult method ⟨supplier.log, .ok answers'⟩ = singleResult method supplier

theorem singleResult_of_ok (method : RepositoryMethod) {supplier : Traced ω MapError (Answers ω α)}
    {answers : Answers ω α} (h : supplier.result = .ok answers) :
    singleResult method supplier =
      match answers 0, answers 1 with
      | none, _ => ⟨supplier.log, .ok none⟩
      | some (notes, a), none => ⟨supplier.log ++ notes, .ok (some a)⟩
      | some (notes, _), some (more, _) =>
        ⟨supplier.log ++ (notes ++ more), .error (.nonUniqueResult method.text)⟩ := by
  rw [singleResult, Traced.bind_of_ok h]
  cases answers 0 with
  | none => simp
  | some first => cases answers 1 <;> rfl

theorem RepositoryMethod.asksTwice (method : RepositoryMethod) (supplier : Traced ω MapError (Answers ω α)) :
    method.AsksTwice supplier where
  failed e he := by rw [singleResult, Traced.bind_of_error he]
  noResult answers h h0 := by rw [singleResult_of_ok method h, h0]
  oneResult answers notes a h h0 h1 := by rw [singleResult_of_ok method h, h0, h1]
  manyResults answers notes a more b h h0 h1 := by rw [singleResult_of_ok method h, h0, h1]
  unasked answers answers' h h0 h1 := by
    rw [singleResult_of_ok method h, singleResult_of_ok method rfl, h0]
    cases hfirst : answers 0 with
    | none => rfl
    | some first => rw [h1 (by rw [hfirst]; rfl)]

/-! ## Calls from their first step to their result -/

/-- **A call is put together in steps and executed.** The last step about each part counts, and the first one that is
missing is named. One function is called, which gets the results in the shape of the method, and a single result is
found by asking at most twice. -/
theorem DynamicReturn.put_together_and_executed :
    (∀ {ω τ α : Type} (steps : List (Supply ω τ α)), DynamicReturnParts.Assembles steps) ∧
      (∀ {ω τ α : Type} (collect : τ → Traced ω MapError (List α)) (d : DynamicReturn ω τ α),
        d.ExecutesSelected collect) ∧
      (∀ {ω α : Type} (d : DynamicReturn ω (ResultStream ω α) α), d.method.returns = .list →
        d.execute ResultStream.collect =
          match d.all.result with
          | .ok results => ⟨d.all.log ++ results.flatMap Prod.fst, .ok (.list (results.map Prod.snd))⟩
          | .error e => ⟨d.all.log, .error e⟩) ∧
        ∀ {ω α : Type} (method : RepositoryMethod) (supplier : Traced ω MapError (Answers ω α)),
          method.AsksTwice supplier :=
  ⟨DynamicReturnParts.assembles, DynamicReturn.executesSelected, DynamicReturn.execute_list,
    RepositoryMethod.asksTwice⟩

/-- Steps in which most things are said twice. -/
def numberSteps : List (Supply Nat (ResultStream Nat Nat) Nat) :=
  [.part .result ⟨[1], .ok [([2], 20)]⟩, .part .method ⟨"Numbers", "find", .single⟩, .pagination (some ⟨1, 1, []⟩),
    .part .classSource "Number", .part .single ⟨[3], .ok none⟩, .part .result ⟨[4], .ok [([5], 50), ([6], 60)]⟩,
    .part .method ⟨"Numbers", "find_all", .list⟩, .pagination none]

/-- All natural numbers, each with a note. -/
def allNumbers : Answers Nat Nat := fun n => some ([n], n)

/-- Steps in which all natural numbers are supplied, as they come. -/
def allNumbersSteps : List (Supply Nat (Answers Nat Nat) Nat) :=
  [.part .classSource "Number", .part .method ⟨"Numbers", "all", .stream⟩, .part .single ⟨[1], .ok none⟩,
    .part .result ⟨[2], .ok allNumbers⟩]

/-- The function that was supplied last is called, functions for a page are missing if one is requested after all, all
natural numbers are handed out without looking at any, and of all natural numbers two are looked at for a single one. -/
theorem DynamicReturn.put_together_and_executed_numbers :
    (∃ d, (DynamicReturnParts.ofList numberSteps).build = .ok d ∧
        d.execute ResultStream.collect = ⟨[4, 5, 6], .ok (.list [50, 60])⟩) ∧
      (DynamicReturnParts.ofList (numberSteps ++ [.pagination (some ⟨1, 1, []⟩)])).build =
        .error (.nullArgument "the single result pagination function") ∧
      (∃ d, (DynamicReturnParts.ofList allNumbersSteps).build = .ok d ∧
        ∀ collect, d.execute collect = ⟨[2], .ok (.stream allNumbers)⟩) ∧
      singleResult ⟨"Numbers", "find", .single⟩ (pure allNumbers) =
        ⟨[0, 1], .error (.nonUniqueResult "Numbers::find")⟩ := by
  obtain ⟨hassembles, hexecutes, hlist, hasks⟩ := put_together_and_executed
  refine ⟨?_, ?_, ?_, ?_⟩
  · have hnumbers := hassembles numberSteps
    obtain ⟨d, hd⟩ := hnumbers.complete.mpr (by decide)
    have hmade := hnumbers.made d hd
    have hmethod : ⟨"Numbers", "find_all", .list⟩ = d.method := Option.some.inj hmade.method
    have hresult : ⟨[4], .ok [([5], 50), ([6], 60)]⟩ = d.result := Option.some.inj hmade.result
    have hpagination : d.pagination = none := Option.map_eq_none_iff.mp hmade.requested.symm
    have hall : d.all = ⟨[4], .ok [([5], 50), ([6], 60)]⟩ := by rw [all, hpagination, Option.elim_none, hresult]
    refine ⟨d, hd, ?_⟩
    rw [hlist d (by rw [← hmethod]), hall]
    rfl
  · exact (hassembles _).missing [.classSource, .method, .single, .result] .singlePaged [.streamPaged, .page] rfl
      (by decide) rfl
  · have hnumbers := hassembles allNumbersSteps
    obtain ⟨d, hd⟩ := hnumbers.complete.mpr (by decide)
    have hmade := hnumbers.made d hd
    have hmethod : ⟨"Numbers", "all", .stream⟩ = d.method := Option.some.inj hmade.method
    have hresult : ⟨[2], .ok allNumbers⟩ = d.result := Option.some.inj hmade.result
    have hpagination : d.pagination = none := Option.map_eq_none_iff.mp hmade.requested.symm
    refine ⟨d, hd, fun collect => ?_⟩
    rw [(hexecutes collect d).stream (by rw [← hmethod]), all, hpagination, Option.elim_none, ← hresult]
    rfl
  · exact (hasks _ _).manyResults allNumbers [0] 0 [1] 1 rfl rfl rfl

end EntityMapping
