import EntityMapping.Proofs.Schema.Instantiation
import Mathlib.Data.List.Nodup
import Mathlib.Logic.Function.Basic

/-!
# Arguments of a declared constructor

The arguments of a constructor are collected one after the other, whatever they are. When it is called, they must be as
many as there are mapped members, and each member must take its own.

* `ConstructorCall.log_invoke` — who is told of a call, whatever the constructor does
* `Declaration.BuildsFrom` — when there is an object, what it holds, and which error there is otherwise
* `Declaration.buildsFrom_invoke` — what comes of any arguments
-/

namespace EntityMapping

namespace ConstructorCall

/-- Arguments that are added follow those that are there. -/
theorem foldl_add (call : ConstructorCall) (arguments : List (Option Datum)) :
    arguments.foldl add call = { call with arguments := call.arguments ++ arguments } := by
  induction arguments generalizing call with
  | nil => rw [List.foldl_nil, List.append_nil]
  | cons x arguments ih => rw [List.foldl_cons, ih, add, List.append_assoc, List.singleton_append]

/-- A call with the right number of arguments is announced once, whatever comes of it; no other call is. -/
theorem log_invoke (call : ConstructorCall) :
    call.invoke.log =
      if call.arguments.length = call.constructor.parameters.length then [.constructing call.event] else [] := by
  unfold invoke
  dsimp only
  split <;> rfl

end ConstructorCall

namespace Declaration

variable {d : Declaration} {arguments : List (Option Datum)}

/-- What comes of a list of arguments for the mapped members of a type. -/
structure BuildsFrom (d : Declaration) (arguments : List (Option Datum)) (outcome : Conversion Object) : Prop where
  /-- There is an object exactly if each member takes its argument and none is left. -/
  isOk_iff : outcome.result.isOk = true ↔ List.Forall₂ (fun m x => m.takes x = true) d.mapped arguments
  type : ∀ o, outcome.result = .ok o → o.type = d.typeName
  names : ∀ o, outcome.result = .ok o → o.slots.map Prod.fst = d.members.map Member.name
  /-- A mapped member holds its argument, or nothing or its default if that is empty. -/
  mapped : ∀ o, outcome.result = .ok o → List.Forall₂ (fun m x => o.get? m.name = m.slot x) d.mapped arguments
  /-- Any other member holds what it starts with. -/
  skipped : ∀ o, outcome.result = .ok o → ∀ m ∈ d.members, ∀ initial, m.presence = .skipped initial →
    o.get? m.name = initial
  /-- The number of arguments is looked at first. -/
  count : arguments.length ≠ d.mapped.length →
    outcome.result = .error (.construction d.constructor.signature
      (.inl (.invalidArgument (.argumentCount d.mapped.length arguments.length))))
  /-- Otherwise the first argument that is refused is to blame. -/
  refused : arguments.length = d.mapped.length → ∀ m x,
    (d.mapped.zip arguments).find? (fun y => !y.1.takes y.2) = some (m, x) →
      outcome.result = .error (.construction d.constructor.signature (.inl (m.refusal x)))
  log : outcome.log =
    if arguments.length = d.mapped.length then
      [.constructing ⟨d.entityType.name, d.constructor.signature, d.mapped.map Member.name,
        arguments.map Option.isSome⟩]
    else []

/-- A list of as many values as there are different items has a value for each item. -/
theorem exists_eq_map_of_nodup {α β : Type} {as : List α} (hnodup : as.Nodup) {values : List β}
    (hlength : values.length = as.length) (default : β) : ∃ value : α → β, values = as.map value := by
  classical
  induction as generalizing values with
  | nil => exact ⟨fun _ => default, List.length_eq_zero_iff.mp hlength⟩
  | cons a as ih =>
    obtain ⟨hfresh, hrest⟩ := List.nodup_cons.mp hnodup
    cases values with
    | nil => simp at hlength
    | cons x values =>
      obtain ⟨value, rfl⟩ := ih hrest (by simpa using hlength)
      refine ⟨Function.update value a x, ?_⟩
      rw [List.map_cons, Function.update_self]
      refine congrArg (x :: ·) (List.map_congr_left fun b hb => ?_)
      exact (Function.update_of_ne (fun (h : b = a) => hfresh (h ▸ hb)) x value).symm

/-- A call with one argument for each mapped member is announced. -/
theorem log_invoke_map (value : Member → Option Datum) :
    (ConstructorCall.mk d.entityType.name d.constructor (d.mapped.map value)).invoke.log =
      [.constructing ⟨d.entityType.name, d.constructor.signature, d.mapped.map Member.name,
        d.mapped.map fun m => (value m).isSome⟩] := by
  rw [ConstructorCall.log_invoke, if_pos (by simp [constructor]), ConstructorCall.event, List.map_map]
  rfl

/-- What comes of one argument for each mapped member. -/
theorem buildsFrom_map (hnodup : (d.members.map Member.name).Nodup) (hcase : d.start = none)
    (value : Member → Option Datum) :
    d.BuildsFrom (d.mapped.map value)
      (ConstructorCall.mk d.entityType.name d.constructor (d.mapped.map value)).invoke := by
  have hresult := invoke_map hcase value
  have htakes : List.Forall₂ (fun m x => m.takes x = true) d.mapped (d.mapped.map value) ↔
      d.mapped.find? (fun m => !m.takes (value m)) = none := by
    rw [List.forall₂_map_right_iff, List.forall₂_same, List.find?_eq_none]
    simp
  have hbuilt : ∀ o, (ConstructorCall.mk d.entityType.name d.constructor (d.mapped.map value)).invoke.result = .ok o →
      o = d.objectOf value := by
    intro o ho
    rw [hresult] at ho
    split at ho
    · cases ho
    · exact (Except.ok.inj ho).symm
  refine ⟨?_, fun o ho => hbuilt o ho ▸ rfl, fun o ho => hbuilt o ho ▸ names_objectOf d value, fun o ho => ?_,
    fun o ho m hm initial hpresence => ?_, fun hcount => ?_, fun _ m x hfind => ?_, ?_⟩
  · rw [htakes, hresult]
    split
    · next h => simp [h, Except.isOk, Except.toBool]
    · next h => simp [h, Except.isOk, Except.toBool]
  · rw [List.forall₂_map_right_iff, List.forall₂_same, hbuilt o ho]
    intro m hm
    rw [get?_objectOf hnodup (mem_members hm), held, hcase]
  · rw [hbuilt o ho, get?_objectOf hnodup hm, held, hcase]
    show m.slot (value m) = _
    rw [Member.slot, hpresence]
  · exact absurd (List.length_map _) hcount
  · rw [← List.map_prod_left_eq_zip, List.find?_map, Option.map_eq_some_iff] at hfind
    obtain ⟨m', hm', heq⟩ := hfind
    cases heq
    rw [hresult]
    simp only [Function.comp_def] at hm'
    rw [hm']
  · rw [log_invoke_map, if_pos (List.length_map _), List.map_map]
    rfl

/-- **What comes of arguments that are collected one after the other, for any type with a constructor over its mapped
members.** -/
theorem buildsFrom_invoke (hnodup : (d.members.map Member.name).Nodup) (hcase : d.start = none) {t : EntityType}
    (ht : d.describe.build = .ok t) (arguments : List (Option Datum)) :
    ∃ call, t.call = .ok call ∧ d.BuildsFrom arguments (arguments.foldl ConstructorCall.add call).invoke := by
  obtain rfl := eq_entityType_of_build ht
  refine ⟨⟨d.entityType.name, d.constructor, []⟩, ?_, ?_⟩
  · simp [EntityType.call, EntityType.constructor?, entityType, hcase]
  rw [ConstructorCall.foldl_add, List.nil_append]
  by_cases hlength : arguments.length = d.mapped.length
  · obtain ⟨value, rfl⟩ := exists_eq_map_of_nodup (nodup_mapped hnodup).of_map hlength none
    exact buildsFrom_map hnodup hcase value
  · -- without the right number, nothing else is looked at
    have hinvoke : (ConstructorCall.mk d.entityType.name d.constructor arguments).invoke =
        .fail (.construction d.constructor.signature
          (.inl (.invalidArgument (.argumentCount d.mapped.length arguments.length)))) := by
      unfold ConstructorCall.invoke
      dsimp only
      rw [if_neg (by simpa [constructor] using hlength)]
      simp [ConstructorCall.failure, constructor]
    rw [hinvoke]
    constructor
    case isOk_iff => exact iff_of_false Bool.false_ne_true fun h => hlength h.length_eq.symm
    case count => exact fun _ => rfl
    case refused => exact fun h => absurd h hlength
    case log =>
      rw [if_neg hlength]
      rfl
    -- all else is about an object, and there is none
    all_goals
      intro o h
      cases h

/-- A book on a shelf, which may be lent. -/
def bookDeclaration : Declaration where
  name := "Book"
  typeName := "Book"
  embeddable := false
  recordName := none
  members :=
    [.required "isbn" "String" ⟨"String", .value .text⟩,
      .skip (some (.scalar .text "")) (.required "shelf" "String" ⟨"String", .value .text⟩),
      .optional "pages" "Option<i64>" ⟨"i64", .value .int64⟩,
      .withDefault (.scalar .boolean false) (.required "lent" "bool" ⟨"bool", .value .boolean⟩)]
  start := none
  order _ _ := .eq

/-- A book is built from its number alone. With a text for the number of pages, and no number of its own, the missing
number is to blame. -/
theorem buildsFrom_invoke_book :
    (bookDeclaration.members.map Member.name).Nodup ∧ bookDeclaration.start = none ∧
      bookDeclaration.describe.build = .ok bookDeclaration.entityType ∧
      (∃ call, bookDeclaration.entityType.call = .ok call ∧
        ∃ o, ([some (.scalar .text "978-0"), none, none].foldl ConstructorCall.add call).invoke.result = .ok o ∧
          o.get? "isbn" = some (.scalar .text "978-0") ∧ o.get? "shelf" = some (.scalar .text "") ∧
          o.get? "pages" = none ∧ o.get? "lent" = some (.scalar .boolean false)) ∧
      ∃ call, bookDeclaration.entityType.call = .ok call ∧
        ([none, some (.scalar .text "x"), none].foldl ConstructorCall.add call).invoke =
          ⟨[.constructing ⟨"Book", bookDeclaration.constructor.signature, ["isbn", "pages", "lent"],
            [false, true, false]⟩],
            .error (.construction bookDeclaration.constructor.signature (.inl (.missingArgument "isbn")))⟩ := by
  have hnodup : (bookDeclaration.members.map Member.name).Nodup := by decide
  have hbuild : bookDeclaration.describe.build = .ok bookDeclaration.entityType := rfl
  refine ⟨hnodup, rfl, hbuild, ?_, ?_⟩
  · obtain ⟨call, hcall, h⟩ := buildsFrom_invoke hnodup rfl hbuild [some (.scalar .text "978-0"), none, none]
    obtain ⟨o, ho⟩ := exists_of_isOk (h.isOk_iff.mpr (.cons (by decide) (.cons rfl (.cons rfl .nil))))
    obtain ⟨hisbn, hrest⟩ := List.forall₂_cons.mp (h.mapped o ho)
    obtain ⟨hpages, hrest⟩ := List.forall₂_cons.mp hrest
    obtain ⟨hlent, -⟩ := List.forall₂_cons.mp hrest
    exact ⟨call, hcall, o, ho, hisbn, h.skipped o ho _ (.tail _ (.head _)) _ rfl, hpages, hlent⟩
  · obtain ⟨call, hcall, h⟩ := buildsFrom_invoke hnodup rfl hbuild [none, some (.scalar .text "x"), none]
    have hresult := h.refused rfl _ none rfl
    exact ⟨call, hcall, congrArg₂ Traced.mk h.log hresult⟩

end Declaration
end EntityMapping
