import EntityMapping.Proofs.Converter.Levels

/-!
# Embedded objects in strict mode

In strict mode it is decided twice whether an embedded object is there: before it is read, by the names in the record,
and afterwards by what it holds. The second decision never differs from the first: an object that was read because the
record has one of its names holds something, and so do the objects embedded in it.

* `DeclaredSchema.contribution_of_mentions` — what was read is kept
* `DeclaredSchema.showsMentioned` — what is there, at all levels
-/

namespace EntityMapping

namespace DeclaredSchema

variable {D : DeclaredSchema} {c : Converter} {d : Declaration} {m : Member} {type u v : TypeName} {r s : Record}
  {o p q : Object}

/-- An embedded object that is read because the record has one of its names is kept. -/
theorem contribution_of_mentions (hc : c.schema = D.toSchema) (hstrict : c.strict = true) {f : FieldMapping}
    (hshape : f.shape = .embedded v) (hmentions : Converter.mentions D.toSchema v s = .ok true)
    (h : (c.read v s).result = .ok q) : (c.contribution s f).value.result = .ok (some (.object q)) := by
  have hfound := Converter.mentions_of_accepts (accepts_of_read hc h) s
  exact contribution_of_mentioned hc hstrict hshape (Except.ok.inj (hfound.symm.trans hmentions)) h

/-- Whether the optional embedded members of an object are there exactly if the record has one of their names, and hold
what is read from the record. -/
structure ShowsMentioned (D : DeclaredSchema) (c : Converter) (type : TypeName) (r : Record) (o : Object) : Prop where
  isSome_iff : ∀ d, D.declaration? type = some d → ∀ m ∈ d.mapped, m.presence = .optional →
    ∀ u, m.type.shape = .embedded u →
      ((o.get? m.name).isSome = true ↔ ∃ name ∈ D.flatNames u, r.contains name = true)
  read : ∀ d, D.declaration? type = some d → ∀ m ∈ d.mapped, m.presence = .optional →
    ∀ u, m.type.shape = .embedded u → ∀ x, o.get? m.name = some x →
      ∃ p, x = .object p ∧ (c.read u r).result = .ok p

/-- What a record says about an optional embedded member is what the object holds. -/
theorem contribution_of_optional (hc : c.schema = D.toSchema) (hstarts : D.StartsEmpty)
    (hd : D.declaration? type = some d) (hm : m ∈ d.mapped) (hoptional : m.presence = .optional)
    (h : (c.read type r).result = .ok o) :
    (c.contribution r (m.field d.typeName)).value.result = .ok (o.get? m.name) := by
  obtain ⟨d', value, hd', hsaid, -, rfl⟩ := exists_of_read hc h
  cases hd.symm.trans hd'
  have hmem := mem_of_declaration? hd
  have hempty : ∀ s, d.start = some s → s.get? m.name = none := fun s hs =>
    hstarts d hmem s hs m hm (by simp [Member.mayBeEmpty, hoptional])
  rw [Declaration.get?_objectOf (D.nodup_members d hmem) (Declaration.mem_members hm),
    Declaration.held_of_optional hoptional hempty]
  exact hsaid m hm

theorem showsMentioned_of_read (hc : c.schema = D.toSchema) (hstrict : c.strict = true) (hstarts : D.StartsEmpty)
    (h : (c.read type r).result = .ok o) : D.ShowsMentioned c type r o where
  isSome_iff d hd m hm hoptional u hshape := by
    have hsaid := contribution_of_optional hc hstarts hd hm hoptional h
    have hembeds := FieldMapping.embeds?_of_shape (f := m.field d.typeName) hshape
    rw [isSome_contribution hc hsaid, Schema.gives, hembeds, hstrict]
    simp
  read d hd m hm hoptional u hshape x hx := by
    have hsaid := contribution_of_optional hc hstarts hd hm hoptional h
    rw [hx] at hsaid
    rcases Converter.embedded_cases (f := m.field d.typeName) hshape hsaid with
      ⟨t, p, -, -, hp, hvalue⟩ | ⟨-, -, hvalue⟩
    · split at hvalue
      · cases hvalue
      · exact ⟨p, Option.some.inj hvalue, hp⟩
    · cases hvalue

/-- **In strict mode, an optional embedded object is there exactly if the record has one of its names. This is so at
all levels of an object that is read, and no object is read and then dropped.** -/
theorem showsMentioned (D : DeclaredSchema) (a : Attributes) (suppliers : Suppliers) (hstarts : D.StartsEmpty)
    (type : TypeName) (r : Record) (o : Object)
    (h : ((Converter.mk D.toSchema a suppliers true).read type r).result = .ok o) :
    (∀ u s, D.Visits true type r u s →
      ∃ p, ((Converter.mk D.toSchema a suppliers true).read u s).result = .ok p ∧
        D.ShowsMentioned ⟨D.toSchema, a, suppliers, true⟩ u s p) ∧
    ∀ f u s p, f.shape = .embedded u → Converter.mentions D.toSchema u s = .ok true →
      ((Converter.mk D.toSchema a suppliers true).read u s).result = .ok p →
      ((Converter.mk D.toSchema a suppliers true).contribution s f).value.result = .ok (some (.object p)) := by
  constructor
  · intro u s hvisits
    obtain ⟨p, hp⟩ := exists_read_of_visits (c := ⟨D.toSchema, a, suppliers, true⟩) rfl h hvisits
    exact ⟨p, hp, showsMentioned_of_read rfl rfl hstarts hp⟩
  · intro f u s p hshape hmentions hp
    exact contribution_of_mentions rfl rfl hshape hmentions hp

/-- The house of a guide is there, two levels down, because the street is known. -/
theorem showsMentioned_journeyRecord :
    journeys.StartsEmpty ∧
      ((Converter.mk journeys.toSchema .empty .standard true).read "Journey" journeyRecord).result =
        .ok (journey "a" none (some (guide "Ada" (some (contact none (some "Baker")))))
          [journey "b" (some (note (some "x"))) none []]) ∧
      ∃ p, ((Converter.mk journeys.toSchema .empty .standard true).read "Contact" guideRecord).result = .ok p ∧
        (p.get? "house").isSome = true := by
  have hread : ((Converter.mk journeys.toSchema .empty .standard true).read "Journey" journeyRecord).result =
      .ok (journey "a" none (some (guide "Ada" (some (contact none (some "Baker")))))
        [journey "b" (some (note (some "x"))) none []]) := by cbv
  refine ⟨startsEmpty_journeys, hread, ?_⟩
  obtain ⟨p, hp, hshows⟩ := (showsMentioned journeys .empty .standard startsEmpty_journeys _ _ _ hread).1 _ _
    (visits_guideRecord true)
  refine ⟨p, hp, (hshows.isSome_iff contactDeclaration rfl
    (.optional "house" "Option<House>" ⟨"House", .embedded "House"⟩) (.tail _ (.head _)) rfl "House" rfl).mpr ?_⟩
  have hhouse : journeys.flatNames "House" = ["street"] := by cbv
  exact ⟨"street", by simp [hhouse], rfl⟩

end DeclaredSchema
end EntityMapping
