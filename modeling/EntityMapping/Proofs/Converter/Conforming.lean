import EntityMapping.Proofs.Converter.Levels

/-!
# Conforming records

Which records an object can be read from, and what the error is for the others. A record conforms to a type if what it
stores is of the right form, if the records inside conform, and if it gives the constructor what this demands. Otherwise
either some value is not of the right form, or the constructor of some object misses an argument, which is then the
first one that the record of this object does not give.

* `DeclaredSchema.Conforms` — the records that an object can be read from
* `DeclaredSchema.faulty_of_contribution` — what makes a record say nothing acceptable about a field
* `DeclaredSchema.isOk_read_iff_conforms` — when an object is read, and the errors if it is not
-/

namespace EntityMapping

/-- Whether a value is of the form in which something of a shape is stored. What is embedded has no value of its own. -/
def Shape.Reads : Shape → Value → Prop
  | .value t, v => (t.decode v).isOk = true
  | .embedded _, _ => True
  | .entity _, v => ∃ s, v = .record s
  | .collection .., v => ∃ rs, v.HoldsRecords rs

namespace DeclaredSchema

variable {D : DeclaredSchema} {c : Converter} {strict : Bool} {d : Declaration} {m : Member} {type u : TypeName}
  {r s : Record} {f : FieldMapping} {e : MapError}

/-! ## Records that conform -/

/-- The records that an object of a type can be read from. What they store is of the right form, the records inside
conform as well, and every member that the constructor demands is given. -/
inductive Conforms (D : DeclaredSchema) (strict : Bool) : TypeName → Record → Prop
  | intro {type : TypeName} {r : Record} {d : Declaration} (declared : D.declaration? type = some d)
      (stored : ∀ m ∈ d.mapped, ∀ v, r.get? (m.field d.typeName).name = some v → m.type.shape.Reads v)
      (inside : ∀ m ∈ d.mapped, ∀ u s, D.Enters strict r (m.field d.typeName) u s → Conforms D strict u s)
      (given : ∀ m ∈ d.mapped, d.demands m = true → D.gives strict r (m.field d.typeName) = true) :
      Conforms D strict type r

/-- What this means for one member. -/
structure MemberConforms (D : DeclaredSchema) (strict : Bool) (r : Record) (d : Declaration) (m : Member) : Prop where
  stored : ∀ v, r.get? (m.field d.typeName).name = some v → m.type.shape.Reads v
  inside : ∀ u s, D.Enters strict r (m.field d.typeName) u s → D.Conforms strict u s
  given : d.demands m = true → D.gives strict r (m.field d.typeName) = true

theorem conforms_iff (hd : D.declaration? type = some d) :
    D.Conforms strict type r ↔ ∀ m ∈ d.mapped, D.MemberConforms strict r d m := by
  constructor
  · rintro ⟨hd', stored, inside, given⟩ m hm
    cases hd.symm.trans hd'
    exact ⟨stored m hm, inside m hm, given m hm⟩
  · intro h
    exact .intro hd (fun m hm => (h m hm).stored) (fun m hm => (h m hm).inside) fun m hm => (h m hm).given

/-! ## What a record says -/

/-- What a record says something acceptable about is stored in the right form. -/
theorem reads_of_contribution {x : Option Datum} (hconverter : f.converter = none)
    (hx : (c.contribution r f).value.result = .ok x) {v : Value} (hv : r.get? f.name = some v) : f.shape.Reads v := by
  cases hshape : f.shape with
  | value t =>
    rw [Converter.contribution_of_value hshape, hv] at hx
    simp only [Converter.loadedValue, hconverter, bind_eq_ok] at hx
    obtain ⟨w, hw, hx⟩ := hx
    cases hw
    cases hdecode : t.decode v with
    | error why =>
      rw [hdecode] at hx
      cases hx
    | ok y => simp [Shape.Reads, hdecode, Except.isOk, Except.toBool]
  | embedded u => trivial
  | entity u =>
    rw [Converter.contribution_of_entity hshape, hv] at hx
    cases v with
    | record s => exact ⟨s, rfl⟩
    | _ => cases hx
  | collection kind u =>
    rw [Converter.contribution_of_collection hshape, hv] at hx
    obtain ⟨rs, hrs, -⟩ := bind_eq_ok.mp hx
    exact ⟨rs, Converter.nestedRecords_eq_ok_iff.mp hrs⟩

/-- Why a record says nothing acceptable about a field: what it stores is not of the right form, or the object in the
member cannot be read. -/
def Faulty (c : Converter) (r : Record) (f : FieldMapping) (e : MapError) : Prop :=
  (∃ v why, r.get? f.name = some v ∧ ¬ f.shape.Reads v ∧ e = .typeMismatch why) ∨
    ∃ u s, c.schema.Enters c.strict r f u s ∧ (c.read u s).result = .error e

theorem faulty_of_value {t : ScalarType} (hconverter : f.converter = none) (hshape : f.shape = .value t)
    (h : (c.contribution r f).value.result = .error e) : Faulty c r f e := by
  rw [Converter.contribution_of_value hshape] at h
  cases hv : r.get? f.name with
  | none =>
    rw [hv] at h
    cases h
  | some v =>
    have hplain : (c.loadedValue f v).result = .ok v := by
      rw [Converter.loadedValue, hconverter]
      rfl
    simp only [hv, hplain, bind, Except.bind] at h
    cases hdecode : t.decode v with
    | error why =>
      rw [hdecode] at h
      cases h
      exact .inl ⟨v, _, hv, by simp [hshape, Shape.Reads, hdecode, Except.isOk, Except.toBool], rfl⟩
    | ok y =>
      rw [hdecode] at h
      cases h

theorem faulty_of_embedded (hc : c.schema = D.toSchema) (hu : D.Accepts u) (hd : D.declaration? u = some d)
    (hshape : f.shape = .embedded u) (h : (c.contribution r f).value.result = .error e) : Faulty c r f e := by
  cases hstrict : c.strict with
  | false =>
    rw [Converter.contribution_of_embedded_lenient hshape hstrict, bind_eq_error] at h
    rcases h with h | ⟨o, -, h⟩
    · exact .inr ⟨u, r, .embedded hshape (by simp [hstrict]), h⟩
    · cases h
  | true =>
    rw [contribution_of_embedded_strict hc hu hstrict hshape hd] at h
    by_cases hmentioned : (D.flatNames u).any r.contains = true
    · rw [if_pos hmentioned, bind_eq_error] at h
      rcases h with h | ⟨o, -, h⟩
      · exact .inr ⟨u, r, .embedded hshape fun _ => hc ▸ hmentioned, h⟩
      · cases h
    · rw [if_neg hmentioned] at h
      cases h

theorem faulty_of_entity (hshape : f.shape = .entity u) (h : (c.contribution r f).value.result = .error e) :
    Faulty c r f e := by
  rw [Converter.contribution_of_entity hshape] at h
  cases hv : r.get? f.name with
  | none =>
    rw [hv] at h
    cases h
  | some v =>
    rw [hv] at h
    cases v with
    | record s =>
      rcases bind_eq_error.mp h with h | ⟨o, -, h⟩
      · exact .inr ⟨u, s, .entity hshape hv, h⟩
      · cases h
    | _ =>
      cases h
      exact .inl ⟨_, _, hv, by simp [hshape, Shape.Reads], rfl⟩

/-- The standard suppliers hand out what was read, so nothing else can be wrong with a collection. -/
theorem faulty_of_collection {kind : CollectionKind} (hc : c.schema = D.toSchema)
    (hsuppliers : c.suppliers = .standard) (hu : D.Accepts u) (hd : D.declaration? u = some d)
    (hshape : f.shape = .collection kind u) (h : (c.contribution r f).value.result = .error e) : Faulty c r f e := by
  cases hv : r.get? f.name with
  | none =>
    rw [Converter.contribution_of_collection hshape, hv] at h
    cases h
  | some v =>
    cases hrs : Converter.nestedRecords f v with
    | error e' =>
      rw [Converter.contribution_of_collection hshape, hv] at h
      simp only [hrs] at h
      cases h
      obtain ⟨why, rfl⟩ := Converter.nestedRecords_eq_error hrs
      refine .inl ⟨v, why, hv, ?_, rfl⟩
      rw [hshape]
      rintro ⟨rs, hrecords⟩
      cases hrs.symm.trans (Converter.nestedRecords_eq_ok_iff.mpr hrecords)
    | ok rs =>
      have ht : c.schema.entity u = .ok d.entityType := hc ▸ entity_of_accepts hu hd
      rw [contribution_of_collection_standard hc hsuppliers hshape hv hrs ht, bind_eq_error] at h
      rcases h with h | ⟨objects, -, h⟩
      · obtain ⟨s, hs, hread⟩ := exists_of_mapM_eq_error h
        exact .inr ⟨u, s, .collection hshape hv (Converter.nestedRecords_eq_ok_iff.mp hrs) hs, hread⟩
      · cases h

/-- A record says nothing acceptable about a field if what it stores is not of the right form, or if the object in the
member cannot be read. -/
theorem faulty_of_contribution (hc : c.schema = D.toSchema) (hD : D.Consistent)
    (hsuppliers : c.suppliers = .standard) (hd : D.declaration? type = some d)
    (hm : m ∈ d.mapped) (hconverter : m.converter = none)
    (h : (c.contribution r (m.field d.typeName)).value.result = .error e) : Faulty c r (m.field d.typeName) e := by
  have htarget {u : TypeName} (hu : m.type.shape.target? = some u) :
      ∃ d', D.declaration? u = some d' ∧ D.Accepts u := by
    obtain ⟨d', hd'⟩ := declaration?_of_target hd hm hu
    exact ⟨d', hd', accepts_of_declaration? hD hd'⟩
  cases hshape : m.type.shape with
  | value t => exact faulty_of_value hconverter hshape h
  | embedded u =>
    obtain ⟨d', hd', hu⟩ := htarget (u := u) (by rw [hshape, Shape.target?])
    exact faulty_of_embedded hc hu hd' hshape h
  | entity u => exact faulty_of_entity hshape h
  | collection kind u =>
    obtain ⟨d', hd', hu⟩ := htarget (u := u) (by rw [hshape, Shape.target?])
    exact faulty_of_collection hc hsuppliers hu hd' hshape h

/-! ## Reading -/

section Reading

variable (hc : c.schema = D.toSchema) (hD : D.Consistent) (hsuppliers : c.suppliers = .standard)
include hc hD hsuppliers

/-- What a record says about a member is acceptable if the record conforms in this member. -/
theorem answers_iff_memberConforms (hd : D.declaration? type = some d) (hm : m ∈ d.mapped)
    (hconverter : m.converter = none)
    (hinside : ∀ u s, D.Enters c.strict r (m.field d.typeName) u s →
      ((c.read u s).result.isOk = true ↔ D.Conforms c.strict u s)) :
    Answers c r d m ↔ D.MemberConforms c.strict r d m := by
  constructor
  · rintro ⟨x, hx, hdemands⟩
    have hstored (v : Value) (hv : r.get? (m.field d.typeName).name = some v) : m.type.shape.Reads v :=
      reads_of_contribution (f := m.field d.typeName) hconverter hx hv
    refine ⟨hstored, fun u s hs => ?_, fun hm => ?_⟩
    · obtain ⟨p, hp⟩ := exists_read_of_enters hx (hc ▸ hs)
      exact (hinside u s hs).mp (by rw [hp]; rfl)
    · rw [← isSome_contribution hc hx]
      exact hdemands hm
  · rintro ⟨stored, inside, given⟩
    cases hx : (c.contribution r (m.field d.typeName)).value.result with
    | ok x =>
      refine ⟨x, hx, fun hm => ?_⟩
      rw [isSome_contribution hc hx]
      exact given hm
    | error e =>
      -- nothing that could go wrong does
      rcases faulty_of_contribution hc hD hsuppliers hd hm hconverter hx with ⟨v, -, hv, hreads, -⟩ | ⟨u, s, hs, hread⟩
      · exact absurd (stored v hv) hreads
      · rw [hc] at hs
        have hok := (hinside u s hs).mpr (inside u s hs)
        rw [hread] at hok
        cases hok

theorem isOk_read_iff_conforms_of_plain (hplain : D.Plain) :
    ∀ d, D.declaration? type = some d → ((c.read type r).result.isOk = true ↔ D.Conforms c.strict type r) := by
  induction type, r using reading_induction D c.strict with
  | level type r ih =>
    intro d hd
    rw [isOk_read_iff hc hD hd, conforms_iff hd]
    refine forall₂_congr fun m hm => ?_
    refine answers_iff_memberConforms hc hD hsuppliers hd hm (hplain d (mem_of_declaration? hd) m hm) fun u s hs => ?_
    obtain ⟨d', hd'⟩ := declaration?_of_target hd hm hs.target?_eq
    exact ih d m u s hd hm hs d' hd'

/-- Whether an error says that the constructor of a type misses an argument, the first one that it demands and that a
record does not give. -/
def Misses (D : DeclaredSchema) (strict : Bool) (type : TypeName) (r : Record) (e : MapError) : Prop :=
  ∃ d m, D.declaration? type = some d ∧ d.missing? (fun m => D.gives strict r (m.field d.typeName)) = some m ∧
    e = .construction d.constructor.signature (.inl (.missingArgument m.name))

/-- An object is not read because a value is not of the right form, or because some constructor misses an argument. -/
theorem mismatch_or_misses_of_read (hplain : D.Plain) :
    ∀ d, D.declaration? type = some d → ∀ e, (c.read type r).result = .error e →
      (∃ why, e = .typeMismatch why) ∨
        ∃ u s, D.Visits c.strict type r u s ∧ (c.read u s).result = .error e ∧ D.Misses c.strict u s e := by
  induction type, r using reading_induction D c.strict with
  | level type r ih =>
    intro d hd e he
    rcases (read_eq_error_iff hc hd (entity_of_schema hc hD hd)).mp he with hmap | ⟨value, m, hsaid, hmissing, rfl⟩
    · obtain ⟨m, hm, hx⟩ := exists_of_mapM_eq_error hmap
      have hconverter := hplain d (mem_of_declaration? hd) m hm
      rcases faulty_of_contribution hc hD hsuppliers hd hm hconverter hx with ⟨v, why, -, -, rfl⟩ | ⟨u, s, hs, hread⟩
      · exact .inl ⟨why, rfl⟩
      · rw [hc] at hs
        obtain ⟨d', hd'⟩ := declaration?_of_target hd hm hs.target?_eq
        refine (ih d m u s hd hm hs d' hd' e hread).imp_right ?_
        rintro ⟨v, t, hvisits, hmisses⟩
        exact ⟨v, t, .inside hd hm hs hvisits, hmisses⟩
    · refine .inr ⟨type, r, .self, he, d, m, hd, ?_, rfl⟩
      rw [← hmissing]
      exact Declaration.missing?_congr fun n hn => (isSome_contribution hc (hsaid n hn)).symm

end Reading

/-- **An object is read exactly from the records that conform to its type. If it is not read, some value is not of the
right form, or the constructor of an object inside misses an argument: the first one that the record of this object
does not give.** -/
theorem isOk_read_iff_conforms (D : DeclaredSchema) (a : Attributes) (strict : Bool) (type : TypeName) (r : Record)
    (d : Declaration) (hD : D.Consistent) (hplain : D.Plain) (hd : D.declaration? type = some d) :
    (((Converter.mk D.toSchema a .standard strict).read type r).result.isOk = true ↔ D.Conforms strict type r) ∧
      ∀ e, ((Converter.mk D.toSchema a .standard strict).read type r).result = .error e →
        (∃ why, e = .typeMismatch why) ∨
          ∃ u s, D.Visits strict type r u s ∧
            ((Converter.mk D.toSchema a .standard strict).read u s).result = .error e ∧ D.Misses strict u s e := by
  constructor
  · exact isOk_read_iff_conforms_of_plain (c := ⟨D.toSchema, a, .standard, strict⟩) rfl hD rfl hplain d hd
  · intro e he
    exact mismatch_or_misses_of_read (c := ⟨D.toSchema, a, .standard, strict⟩) rfl hD rfl hplain d hd e he

theorem consistent_journeys : journeys.Consistent := by
  unfold Consistent
  decide

theorem plain_journeys : journeys.Plain := by
  unfold Plain
  decide

/-- The record of a journey with somebody to guide there whose name is not known. -/
def strayRecord : Record :=
  ⟨"Journey", [("title", .text "a"), ("guide", .record ⟨"Guide", [("street", .text "Baker")]⟩), ("stops", .records [])]⟩

/-- The record of a journey conforms, unless the name of somebody in it is missing. -/
theorem conforms_journeyRecord :
    journeys.Consistent ∧ journeys.Plain ∧ journeys.Conforms true "Journey" journeyRecord ∧
      ¬ journeys.Conforms true "Journey" strayRecord ∧
      ((Converter.mk journeys.toSchema .empty .standard true).read "Journey" strayRecord).result =
        .error (.construction "Guide(name: String, contact: Option<Contact>)" (.inl (.missingArgument "name"))) := by
  have hread (r : Record) := (isOk_read_iff_conforms journeys .empty true "Journey" r journeyDeclaration
    consistent_journeys plain_journeys rfl).1
  have hstray : ((Converter.mk journeys.toSchema .empty .standard true).read "Journey" strayRecord).result =
      .error (.construction "Guide(name: String, contact: Option<Contact>)" (.inl (.missingArgument "name"))) := by
    cbv
  refine ⟨consistent_journeys, plain_journeys, (hread journeyRecord).mp (by cbv), fun h => ?_, hstray⟩
  have hok := (hread strayRecord).mpr h
  rw [hstray] at hok
  cases hok

/-! ## Names that are used twice -/

/-- A type with two members that are stored under one name. -/
def twinsDeclaration : Declaration where
  name := "Twins"
  typeName := "Twins"
  embeddable := false
  recordName := none
  members :=
    [.optional "elder" "Option<String>" ⟨"String", .value .text⟩,
      (Member.optional "younger" "Option<String>" ⟨"String", .value .text⟩).named "elder"]
  start := some ⟨"Twins", [("elder", none), ("younger", none)]⟩
  order _ _ := .eq

/-- Twins. -/
def twins : DeclaredSchema where
  types := [twinsDeclaration].map Declaration.describe
  depth _ := 0
  depth_lt := by decide
  declarations := [twinsDeclaration]
  types_eq := rfl
  nodup_members := by decide
  exists_target := by decide
  start_eq := by decide

/-- Where the description of a type is not consistent, no object is read, although the record conforms. -/
theorem read_refuses_twins :
    twins.Plain ∧ twins.Conforms true "Twins" ⟨"Twins", []⟩ ∧
      ((Converter.mk twins.toSchema .empty .standard true).read "Twins" ⟨"Twins", []⟩).result =
        .error (.invalidArgument (.repeatedName "Twins" "elder")) := by
  have hplain : twins.Plain := by
    unfold Plain
    decide
  have htargets : ∀ m ∈ twinsDeclaration.mapped, m.type.shape.target? = none := by decide
  -- nothing is stored, nothing is inside, and nothing is demanded
  refine ⟨hplain, .intro (d := twinsDeclaration) rfl (fun m hm v hv => nomatch hv) ?_ ?_, by cbv⟩
  · intro m hm u s hs
    cases hs.target?_eq.symm.trans (htargets m hm)
  · intro m hm hdemands
    cases hdemands.symm.trans (Declaration.demands_of_start_some (d := twinsDeclaration) rfl)

end DeclaredSchema
end EntityMapping
