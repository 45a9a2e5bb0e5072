import EntityMapping.Proofs.Converter.Filling

/-!
# Names that a record does not have

When an object is filled, the members of its own of which the record does not have the name stay as they are. An
embedded object does not fare as well: unless the record says nothing about it, it is replaced as a whole by one that
is read from the record. Whatever the record does not have is then as it is in a new object.

* `ObjectOf.at?` — what is held at the end of a path into embedded objects
* `DeclaredSchema.blank` — a new object of a type, in which nothing is put but the embedded objects
* `DeclaredSchema.at?_read` — an object that is read is like a new one where the record has no name
* `DeclaredSchema.fill_keepsMissing_iff` — when all that the record has no name of stays as it was
-/

namespace EntityMapping

/-! ## Places in embedded objects -/

/-- What an object holds in a member of an object inside, to which the path leads from member to member: something or
nothing, provided that the path leads to an object. -/
def ObjectOf.at? : Object → List String → String → Option (Option Datum)
  | o, [], member => some (o.get? member)
  | o, step :: path, member =>
    match o.get? step with
    | some (.object p) => ObjectOf.at? p path member
    | _ => none

namespace ObjectOf

variable {o p : Object} {step member : String} {path : List String}

@[simp] theorem at?_nil (o : Object) (member : String) : o.at? [] member = some (o.get? member) := rfl

theorem at?_cons (h : o.get? step = some (.object p)) : o.at? (step :: path) member = p.at? path member := by
  rw [at?, h]

/-- Behind a member, only what the member holds matters. -/
theorem at?_cons_congr (h : o.get? step = p.get? step) :
    o.at? (step :: path) member = p.at? (step :: path) member := by
  rw [at?, at?, h]

theorem exists_of_at?_cons {x : Option Datum} (h : o.at? (step :: path) member = some x) :
    ∃ p, o.get? step = some (.object p) ∧ p.at? path member = some x := by
  unfold at? at h
  split at h
  · next p hp => exact ⟨p, hp, h⟩
  · cases h

end ObjectOf

/-- The fields that the objects of a type are stored by, each behind the path of members that embed it. -/
inductive Schema.StoredAt (S : Schema) : TypeName → List String → FieldMapping → Prop
  | own {type : TypeName} {t : EntityType} {f : FieldMapping} (entity : S.entity type = .ok t) (field : f ∈ t.fields)
      (single : f.embeds? = none) : StoredAt S type [] f
  | inside {type u : TypeName} {t : EntityType} {f g : FieldMapping} {path : List String}
      (entity : S.entity type = .ok t) (field : g ∈ t.fields) (embeds : g.embeds? = some u)
      (rest : StoredAt S u path f) : StoredAt S type (g.member :: path) f

/-- Whether an object holds what another one does wherever the record does not have the name, also in the embedded
objects of the other one. -/
def Schema.KeepsMissing (S : Schema) (r : Record) (type : TypeName) (o p : Object) : Prop :=
  ∀ path f, S.StoredAt type path f → r.contains f.name = false →
    ∀ x, o.at? path f.member = some x → p.at? path f.member = some x

namespace DeclaredSchema

variable {D : DeclaredSchema} {c : Converter} {d : Declaration} {m : Member} {strict : Bool} {type u : TypeName}
  {r : Record} {o p q : Object} {path : List String} {f : FieldMapping}

/-! ## New objects -/

/-- A new object of a type, with the embedded objects that are read from a record in any case, and nothing else put
in. -/
def blank (D : DeclaredSchema) (strict : Bool) (r : Record) (type : TypeName) : Object :=
  match D.declaration? type with
  | none => default
  | some d => d.objectOf fun m =>
    match m.type.shape with
    | .embedded u =>
      -- members that are mapped embed what lies deeper
      if _h : D.depth u < D.depth type then
        if D.gives strict r (m.field d.typeName) then some (.object (D.blank strict r u)) else none
      else none
    | _ => none
termination_by D.depth type

/-- What is put into a member of a new object. -/
def blankValue (D : DeclaredSchema) (strict : Bool) (r : Record) (d : Declaration) (m : Member) : Option Datum :=
  match (m.field d.typeName).embeds? with
  | some u => if D.gives strict r (m.field d.typeName) then some (.object (D.blank strict r u)) else none
  | none => none

theorem get?_blank (strict : Bool) (r : Record) (hd : D.declaration? type = some d) (hm : m ∈ d.mapped) :
    (D.blank strict r type).get? m.name = d.held (D.blankValue strict r d) m := by
  have hmem := mem_of_declaration? hd
  rw [blank, hd]
  dsimp only
  rw [Declaration.get?_objectOf (D.nodup_members d hmem) (Declaration.mem_members hm)]
  refine Declaration.held_congr ?_
  unfold blankValue
  cases hshape : m.type.shape with
  | value t => simp [FieldMapping.embeds?, FieldMapping.shape, Member.field, hshape]
  | entity u => simp [FieldMapping.embeds?, FieldMapping.shape, Member.field, hshape]
  | collection kind u => simp [FieldMapping.embeds?, FieldMapping.shape, Member.field, hshape]
  | embedded u =>
    have hembeds : (m.field d.typeName).embeds? = some u := FieldMapping.embeds?_of_shape hshape
    have hdescribed : d.describe ∈ D.types := List.mem_of_find?_eq_some (find?_of_declaration? hd)
    have hdepth : D.depth u < D.depth type :=
      typeName_of_declaration? hd ▸ D.depth_lt d.describe hdescribed _ (List.mem_map_of_mem hm) u hembeds
    rw [hembeds]
    exact dif_pos hdepth

/-- An embedded object that the record gives is read from it. -/
theorem exists_read_of_gives (hc : c.schema = D.toSchema) {x : Option Datum} (hembeds : f.embeds? = some u)
    (hx : (c.contribution r f).value.result = .ok x) (hgives : D.gives c.strict r f = true) :
    ∃ p, (c.read u r).result = .ok p ∧ x = some (.object p) := by
  have hsome : x.isSome = true := (isSome_contribution hc hx).trans hgives
  rcases Converter.embedded_cases (FieldMapping.embeds?_eq_some_iff.mp hembeds) hx with
    ⟨t, p, -, -, hp, rfl⟩ | ⟨-, -, rfl⟩
  · split at hsome
    · cases hsome
    · next hholds => exact ⟨p, hp, if_neg hholds⟩
  · cases hsome

/-- About other fields than those it gives something to, a record says nothing. -/
theorem eq_none_of_not_gives (hc : c.schema = D.toSchema) {x : Option Datum}
    (hx : (c.contribution r f).value.result = .ok x) (hgives : D.gives c.strict r f = false) : x = none := by
  have hsome : x.isSome = false := (isSome_contribution hc hx).trans hgives
  simpa using hsome

theorem not_gives_of_missing (hembeds : f.embeds? = none) (hmissing : r.contains f.name = false) :
    D.gives strict r f = false := by
  rw [Schema.gives, hembeds]
  exact hmissing

/-- Where a record does not have the name, an object that is read from it is like a new one. -/
theorem at?_read (hc : c.schema = D.toSchema) (h : D.StoredAt type path f) (hmissing : r.contains f.name = false)
    (hread : (c.read type r).result = .ok q) : q.at? path f.member = (D.blank c.strict r type).at? path f.member := by
  induction h generalizing q with
  | @own type t f entity field single =>
    obtain ⟨d, value, hd, hvalue, -, rfl⟩ := exists_of_read hc hread
    obtain ⟨d', hd', rfl⟩ := exists_declaration? entity
    cases hd.symm.trans hd'
    obtain ⟨m, hm, rfl⟩ := List.mem_map.mp field
    have hnone : value m = none := eq_none_of_not_gives hc (hvalue m hm) (not_gives_of_missing single hmissing)
    have hblank : D.blankValue c.strict r d m = none := by rw [blankValue, single]
    show some ((d.objectOf value).get? m.name) = some ((D.blank c.strict r type).get? m.name)
    rw [get?_blank c.strict r hd hm, Declaration.get?_objectOf (D.nodup_members d (mem_of_declaration? hd))
      (Declaration.mem_members hm), Declaration.held_congr (hnone.trans hblank.symm)]
  | @inside type u t f g path entity field embeds rest ih =>
    obtain ⟨d, value, hd, hvalue, -, rfl⟩ := exists_of_read hc hread
    obtain ⟨d', hd', rfl⟩ := exists_declaration? entity
    cases hd.symm.trans hd'
    obtain ⟨m, hm, rfl⟩ := List.mem_map.mp field
    have hmapped : m.isMapped = true := (List.mem_filter.mp hm).2
    have hget : (d.objectOf value).get? m.name = d.held value m :=
      Declaration.get?_objectOf (D.nodup_members d (mem_of_declaration? hd)) (Declaration.mem_members hm)
    have hblank := get?_blank c.strict r hd hm
    show (d.objectOf value).at? (m.name :: path) f.member = (D.blank c.strict r type).at? (m.name :: path) f.member
    cases hgives : D.gives c.strict r (m.field d.typeName) with
    | true =>
      obtain ⟨p, hp, hvalue⟩ := exists_read_of_gives hc embeds (hvalue m hm) hgives
      have hblankValue : D.blankValue c.strict r d m = some (.object (D.blank c.strict r u)) := by
        rw [blankValue, embeds]
        exact if_pos hgives
      rw [ObjectOf.at?_cons (hget.trans (Declaration.held_of_some hmapped hvalue)),
        ObjectOf.at?_cons (hblank.trans (Declaration.held_of_some hmapped hblankValue))]
      exact ih hmissing hp
    | false =>
      have hnone : value m = none := eq_none_of_not_gives hc (hvalue m hm) hgives
      have hblankValue : D.blankValue c.strict r d m = none := by
        rw [blankValue, embeds]
        exact if_neg (by simp [hgives])
      refine ObjectOf.at?_cons_congr ?_
      rw [hget, hblank, Declaration.held_congr (hnone.trans hblankValue.symm)]

/-! ## After filling -/

/-- A member of its own of which the record does not have the name stays as it is. -/
theorem get?_fill_of_missing (hc : c.schema = D.toSchema) (hd : D.declaration? o.type = some d) (ho : d.HasInstance o)
    (h : (c.fill o r).2.result = .ok ()) (hm : m ∈ d.mapped)
    (hgives : D.gives c.strict r (m.field d.typeName) = false) : (c.fill o r).1.get? m.name = o.get? m.name := by
  obtain ⟨value, hvalue, hputs⟩ := exists_of_fill hc hd ho h
  rw [hputs.put m hm, eq_none_of_not_gives hc (hvalue m hm) hgives, Option.none_or]

/-- An embedded object that the record gives is like a new one where the record does not have the name. -/
theorem at?_fill_of_gives (hc : c.schema = D.toSchema) (hd : D.declaration? o.type = some d) (ho : d.HasInstance o)
    (h : (c.fill o r).2.result = .ok ()) (hm : m ∈ d.mapped) (hshape : m.type.shape = .embedded u)
    (hgives : D.gives c.strict r (m.field d.typeName) = true) (hf : D.StoredAt u path f)
    (hmissing : r.contains f.name = false) :
    (c.fill o r).1.at? (m.name :: path) f.member = (D.blank c.strict r u).at? path f.member := by
  obtain ⟨value, hvalue, hputs⟩ := exists_of_fill hc hd ho h
  have hembeds := FieldMapping.embeds?_of_shape (f := m.field d.typeName) hshape
  obtain ⟨p, hp, hx⟩ := exists_read_of_gives hc hembeds (hvalue m hm) hgives
  have hget : (c.fill o r).1.get? m.name = some (.object p) := by
    rw [hputs.put m hm, hx, Option.some_or]
  rw [ObjectOf.at?_cons hget]
  exact at?_read hc hf hmissing hp

/-- **When an object is filled, a member of its own of which the record does not have the name stays as it is. This
goes for the embedded objects as well exactly if those that the record gives hold what a new object does wherever the
record does not have the name.** -/
theorem fill_keepsMissing_iff (D : DeclaredSchema) (a : Attributes) (suppliers : Suppliers) (strict : Bool)
    (d : Declaration) (o : Object) (r : Record) (hd : D.declaration? o.type = some d) (ho : d.HasInstance o)
    (h : ((Converter.mk D.toSchema a suppliers strict).fill o r).2.result = .ok ()) :
    (∀ m ∈ d.mapped, (m.field d.typeName).embeds? = none → r.contains (m.field d.typeName).name = false →
      ((Converter.mk D.toSchema a suppliers strict).fill o r).1.get? m.name = o.get? m.name) ∧
    (D.KeepsMissing r o.type o ((Converter.mk D.toSchema a suppliers strict).fill o r).1 ↔
      ∀ m ∈ d.mapped, ∀ u p, m.type.shape = .embedded u → o.get? m.name = some (.object p) →
        D.gives strict r (m.field d.typeName) = true → D.KeepsMissing r u p (D.blank strict r u)) := by
  have hown : ∀ m ∈ d.mapped, (m.field d.typeName).embeds? = none → r.contains (m.field d.typeName).name = false →
      ((Converter.mk D.toSchema a suppliers strict).fill o r).1.get? m.name = o.get? m.name :=
    fun m hm hembeds hmissing => get?_fill_of_missing rfl hd ho h hm (not_gives_of_missing hembeds hmissing)
  refine ⟨hown, ?_, ?_⟩
  · intro hkeeps m hm u p hshape hp hgives path f hf hmissing x hx
    have hembeds := FieldMapping.embeds?_of_shape (f := m.field d.typeName) hshape
    have ht := entity_of_fill (c := ⟨D.toSchema, a, suppliers, strict⟩) rfl hd h
    have hkept := hkeeps _ f (.inside ht (List.mem_map_of_mem hm) hembeds hf) hmissing x
      ((ObjectOf.at?_cons hp).trans hx)
    rw [← hkept]
    exact (at?_fill_of_gives rfl hd ho h hm hshape hgives hf hmissing).symm
  · intro hblank path f hf hmissing x hx
    cases hf with
    | @own _ t _ entity field single =>
      obtain ⟨d', hd', rfl⟩ := exists_declaration? entity
      cases hd.symm.trans hd'
      obtain ⟨m, hm, rfl⟩ := List.mem_map.mp field
      rw [← hx]
      exact congrArg some (hown m hm single hmissing)
    | @inside _ u t _ g path entity field embeds rest =>
      obtain ⟨d', hd', rfl⟩ := exists_declaration? entity
      cases hd.symm.trans hd'
      obtain ⟨m, hm, rfl⟩ := List.mem_map.mp field
      have hshape : m.type.shape = .embedded u := FieldMapping.embeds?_eq_some_iff.mp embeds
      obtain ⟨p, hp, hpx⟩ := ObjectOf.exists_of_at?_cons hx
      cases hgives : D.gives strict r (m.field d.typeName) with
      | true =>
        rw [← hblank m hm u p hshape hp hgives path f rest hmissing x hpx]
        exact at?_fill_of_gives rfl hd ho h hm hshape hgives rest hmissing
      | false =>
        rw [← hx]
        exact ObjectOf.at?_cons_congr (get?_fill_of_missing rfl hd ho h hm hgives)

/-! ## A guide who moves -/

theorem hasInstance_guide (name : String) (phone street : Option String) :
    guideDeclaration.HasInstance (guide name (some (contact phone street))) where
  type := rfl
  slots := rfl
  fits m hm x hx := by
    rcases List.mem_pair.mp (show m ∈ guideDeclaration.members from hm) with rfl | rfl <;> cases hx <;> rfl
  present m hm hmay := by
    rcases List.mem_pair.mp (show m ∈ guideDeclaration.members from hm) with rfl | rfl
    · rfl
    · cases hmay

/-- The record of a guide of whom only the name is known. -/
def nameRecord : Record := ⟨"Guide", [("name", .text "Bob")]⟩

/-- A guide who takes another name keeps the phone and the street. -/
theorem fill_keepsMissing_nameRecord :
    guideDeclaration.HasInstance (guide "Ada" (some (contact (some "1") (some "Baker")))) ∧
      ((journeys.converter .empty).fill (guide "Ada" (some (contact (some "1") (some "Baker")))) nameRecord).1 =
        guide "Bob" (some (contact (some "1") (some "Baker"))) ∧
      journeys.KeepsMissing nameRecord "Guide" (guide "Ada" (some (contact (some "1") (some "Baker"))))
        ((journeys.converter .empty).fill (guide "Ada" (some (contact (some "1") (some "Baker")))) nameRecord).1 := by
  have hinstance := hasInstance_guide "Ada" (some "1") (some "Baker")
  refine ⟨hinstance, by cbv, ?_⟩
  refine (fill_keepsMissing_iff journeys .empty .standard true guideDeclaration _ nameRecord rfl hinstance
    (by cbv)).2.mpr ?_
  intro m hm u p hshape hp hgives
  rcases List.mem_pair.mp (show m ∈ guideDeclaration.members from hm) with rfl | rfl
  · cases hshape
  · -- the record has neither of the names in the contact
    have hunmentioned : journeys.gives true nameRecord
        ((Member.optional "contact" "Option<Contact>" ⟨"Contact", .embedded "Contact"⟩).field "Guide") = false := by cbv
    cases hunmentioned.symm.trans hgives

theorem distinctNames_journeys : journeys.DistinctNames := by
  intro d hd
  have hnote : journeys.flatNames "Note" = ["text"] := by cbv
  have hhouse : journeys.flatNames "House" = ["street"] := by cbv
  have hcontact : journeys.flatNames "Contact" = ["phone", "street"] := by cbv
  have hguide : journeys.flatNames "Guide" = ["name", "phone", "street"] := by cbv
  have hjourney : journeys.flatNames "Journey" = ["title", "text", "guide", "stops"] := by cbv
  simp only [journeys, List.mem_cons, List.not_mem_nil, or_false] at hd
  rcases hd with rfl | rfl | rfl | rfl | rfl
  · simp [noteDeclaration, hnote]
  · simp [Converter.houseDeclaration, hhouse]
  · simp [contactDeclaration, hcontact]
  · simp [guideDeclaration, hguide]
  · simp [journeyDeclaration, hjourney]

/-- The record of a guide of whom only the street is known. -/
def streetRecord : Record := ⟨"Guide", [("street", .text "Main")]⟩

/-- The record of a journey of which only the title is known. -/
def titleRecord : Record := ⟨"Journey", [("title", .text "b")]⟩

/-- A guide who moves to another street loses the phone. Unless in strict mode, even the title of a journey cannot be
replaced without losing the text of its note. -/
theorem fill_loses_phone :
    journeys.DistinctNames ∧
      guideDeclaration.HasInstance (guide "Ada" (some (contact (some "1") (some "Baker")))) ∧
      ((Converter.mk journeys.toSchema .empty .standard true).fill
        (guide "Ada" (some (contact (some "1") (some "Baker")))) streetRecord).2.result = .ok () ∧
      ((Converter.mk journeys.toSchema .empty .standard true).fill
        (guide "Ada" (some (contact (some "1") (some "Baker")))) streetRecord).1 =
          guide "Ada" (some (contact none (some "Main"))) ∧
      ¬ journeys.KeepsMissing streetRecord "Guide" (guide "Ada" (some (contact (some "1") (some "Baker"))))
        (guide "Ada" (some (contact none (some "Main")))) ∧
      journeyDeclaration.HasInstance (journey "a" (some (note (some "x"))) none []) ∧
      ((Converter.mk journeys.toSchema .empty .standard false).fill
        (journey "a" (some (note (some "x"))) none []) titleRecord).2.result = .ok () ∧
      ((Converter.mk journeys.toSchema .empty .standard false).fill
        (journey "a" (some (note (some "x"))) none []) titleRecord).1 = journey "b" (some (note none)) none [] ∧
      ¬ journeys.KeepsMissing titleRecord "Journey" (journey "a" (some (note (some "x"))) none [])
        (journey "b" (some (note none)) none []) := by
  refine ⟨distinctNames_journeys, hasInstance_guide "Ada" (some "1") (some "Baker"), by cbv, by cbv, ?_,
    hasInstance_journey "a" (some (some "x")) [], by cbv, by cbv, ?_⟩
  · intro hkeeps
    have hphone : journeys.StoredAt "Guide" ["contact"]
        ((Member.optional "phone" "Option<String>" ⟨"String", .value .text⟩).field "Contact") :=
      .inside (t := guideDeclaration.entityType)
        (g := (Member.optional "contact" "Option<Contact>" ⟨"Contact", .embedded "Contact"⟩).field "Guide")
        rfl (.tail _ (.head _)) rfl (.own (t := contactDeclaration.entityType) rfl (.head _) rfl)
    cases hkeeps _ _ hphone rfl (some (.scalar .text "1")) rfl
  · intro hkeeps
    have htext : journeys.StoredAt "Journey" ["note"]
        ((Member.optional "text" "Option<String>" ⟨"String", .value .text⟩).field "Note") :=
      .inside (t := journeyDeclaration.entityType)
        (g := (Member.optional "note" "Option<Note>" ⟨"Note", .embedded "Note"⟩).field "Journey")
        rfl (.tail _ (.head _)) rfl (.own (t := noteDeclaration.entityType) rfl (.head _) rfl)
    cases hkeeps _ _ htext rfl (some (.scalar .text "x")) rfl

end DeclaredSchema
end EntityMapping
