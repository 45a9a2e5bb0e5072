import EntityMapping.Proofs.Converter.Loading

/-!
# Levels of a reading

The objects inside of an object are read from the records inside of its record, each from one that is stored under the
name of a member; only what is embedded is read from the record itself. So a reading goes down level by level.

* `Schema.Enters`, `DeclaredSchema.Visits` — one level down, and any number of levels
* `DeclaredSchema.reading_induction` — what is handed up from the level below holds at all levels
* `DeclaredSchema.exists_read_of_visits` — an object that is read has been read at all levels
* `Schema.gives`, `DeclaredSchema.isSome_contribution` — the members that a record says something about
-/

namespace EntityMapping

/-! ## Lists of records -/

/-- Whether a value stands for a list of records. -/
inductive Value.HoldsRecords : Value → List Record → Prop
  | records (rs : List Record) : HoldsRecords (.records rs) rs
  | array (rs : List Record) : HoldsRecords (.array (rs.map .record)) rs

namespace Converter

variable {f : FieldMapping} {v : Value} {rs : List Record}

theorem nestedRecord_eq_ok_iff {r : Record} : nestedRecord f v = .ok r ↔ v = .record r := by
  constructor
  · intro h
    unfold nestedRecord at h
    split at h
    · cases h
      rfl
    · cases h
  · rintro rfl
    rfl

theorem nestedRecords_eq_ok_iff : nestedRecords f v = .ok rs ↔ v.HoldsRecords rs := by
  constructor
  · intro h
    unfold nestedRecords at h
    split at h
    · cases h
      exact .records rs
    · next vs =>
      simp only [mapM_eq_ok, nestedRecord_eq_ok_iff] at h
      have hvs : vs = rs.map .record := by
        rw [← List.forall₂_eq_eq_eq, List.forall₂_map_right_iff]
        exact h
      rw [hvs]
      exact .array rs
    · cases h
  · rintro (_ | _)
    · rfl
    · simp only [nestedRecords, mapM_eq_ok, List.forall₂_map_left_iff, nestedRecord_eq_ok_iff]
      exact List.forall₂_same.mpr fun _ _ => rfl

/-- A record that is stored in another one is smaller, -/
theorem sizeOf_lt_of_stored {r s : Record} {name : String} (h : r.get? name = some (.record s)) :
    sizeOf s < sizeOf r := by
  have hsize := sizeOf_lt_of_get? h
  simp only [Value.record.sizeOf_spec] at hsize
  omega

/-- and so is one in a list that is stored there. -/
theorem sizeOf_lt_of_item {r s : Record} (h : r.get? f.name = some v) (hrs : nestedRecords f v = .ok rs)
    (hs : s ∈ rs) : sizeOf s < sizeOf r :=
  Nat.lt_trans (sizeOf_lt_of_mem_nestedRecords hrs hs) (sizeOf_lt_of_get? h)

end Converter

/-! ## Going down -/

/-- The objects in a member are read from these records, each as an object of the type. In strict mode nothing is
embedded of which the record has no name. -/
inductive Schema.Enters (S : Schema) (strict : Bool) (r : Record) (f : FieldMapping) : TypeName → Record → Prop
  | embedded {u : TypeName} (shape : f.shape = .embedded u)
      (mentioned : strict = true → (S.flatNames u).any r.contains = true) : Enters S strict r f u r
  | entity {u : TypeName} {s : Record} (shape : f.shape = .entity u) (stored : r.get? f.name = some (.record s)) :
      Enters S strict r f u s
  | collection {kind : CollectionKind} {u : TypeName} {v : Value} {rs : List Record} {s : Record}
      (shape : f.shape = .collection kind u) (stored : r.get? f.name = some v) (records : v.HoldsRecords rs)
      (item : s ∈ rs) : Enters S strict r f u s

/-- Whether a record gives a field something. What is embedded is there unless it is left out in strict mode. -/
def Schema.gives (S : Schema) (strict : Bool) (r : Record) (f : FieldMapping) : Bool :=
  match f.embeds? with
  | some u => !strict || (S.flatNames u).any r.contains
  | none => r.contains f.name

namespace Schema.Enters

variable {S : Schema} {strict : Bool} {r s : Record} {f : FieldMapping} {u : TypeName}

theorem target?_eq (h : S.Enters strict r f u s) : f.shape.target? = some u := by
  cases h with
  | embedded shape => rw [shape, Shape.target?]
  | entity shape => rw [shape, Shape.target?]
  | collection shape => rw [shape, Shape.target?]

/-- What is embedded is read from the record itself. -/
theorem eq_of_embedded {v : TypeName} (h : S.Enters strict r f u s) (hshape : f.shape = .embedded v) :
    u = v ∧ s = r := by
  cases h with
  | embedded shape =>
    cases shape.symm.trans hshape
    exact ⟨rfl, rfl⟩
  | entity shape => cases shape.symm.trans hshape
  | collection shape => cases shape.symm.trans hshape

/-- Each level has a smaller record, or the same record and a type that lies deeper. -/
theorem lt (h : S.Enters strict r f u s) {d : TypeDescription} (hd : d ∈ S.types) (hf : f ∈ d.fields) :
    Prod.Lex (· < ·) (· < ·) (sizeOf s, S.depth u) (sizeOf r, S.depth d.typeName) := by
  cases h with
  | embedded shape => exact .right _ (S.depth_lt d hd f hf u (FieldMapping.embeds?_of_shape shape))
  | entity shape stored => exact .left _ _ (Converter.sizeOf_lt_of_stored stored)
  | collection shape stored records item =>
    exact .left _ _ (Converter.sizeOf_lt_of_item stored (Converter.nestedRecords_eq_ok_iff.mpr records) item)

end Schema.Enters

namespace DeclaredSchema

variable {D : DeclaredSchema} {c : Converter} {strict : Bool} {d : Declaration} {m : Member} {type u : TypeName}
  {r s : Record} {o : Object}

/-- The records that are read when an object of a type is read from a record, and the types that they are read as: the
record itself and those inside, at any depth. -/
inductive Visits (D : DeclaredSchema) (strict : Bool) : TypeName → Record → TypeName → Record → Prop
  | self {type : TypeName} {r : Record} : Visits D strict type r type r
  | inside {type u v : TypeName} {r s t : Record} {d : Declaration} {m : Member}
      (declared : D.declaration? type = some d) (mapped : m ∈ d.mapped)
      (enters : D.Enters strict r (m.field d.typeName) u s) (rest : Visits D strict u s v t) :
      Visits D strict type r v t

/-- What holds of a record if it holds of the records one level down, holds of all records. -/
theorem reading_induction (D : DeclaredSchema) (strict : Bool) {P : TypeName → Record → Prop}
    (level : ∀ type r, (∀ d m u s, D.declaration? type = some d → m ∈ d.mapped →
      D.Enters strict r (m.field d.typeName) u s → P u s) → P type r) (type : TypeName) (r : Record) : P type r :=
  level type r fun d m u s hd hm h => by
    have hlt := h.lt (List.mem_of_find?_eq_some (find?_of_declaration? hd)) (List.mem_map_of_mem hm)
    exact reading_induction D strict level u s
termination_by (sizeOf r, D.depth type)
decreasing_by
  rwa [← typeName_of_declaration? hd]

/-! ## What was read -/

/-- If a record says something acceptable about a field, the objects in the member are read. -/
theorem exists_read_of_enters {f : FieldMapping} {x : Option Datum} (hx : (c.contribution r f).value.result = .ok x)
    (h : c.schema.Enters c.strict r f u s) : ∃ p, (c.read u s).result = .ok p := by
  cases h with
  | embedded shape mentioned =>
    rcases Converter.embedded_cases shape hx with ⟨-, p, -, -, hp, -⟩ | ⟨hstrict, hmentions, -⟩
    · exact ⟨p, hp⟩
    · cases (mentioned hstrict).symm.trans (Converter.any_eq_false_of_mentions hmentions)
  | entity shape stored =>
    rw [Converter.contribution_of_entity shape, stored] at hx
    obtain ⟨p, hp, -⟩ := bind_eq_ok.mp hx
    exact ⟨p, hp⟩
  | collection shape stored records item =>
    rw [Converter.contribution_of_collection shape, stored] at hx
    simp only [bind_eq_ok] at hx
    obtain ⟨rs, hrs, -, -, -, -, objects, hobjects, -⟩ := hx
    cases hrs.symm.trans (Converter.nestedRecords_eq_ok_iff.mpr records)
    exact exists_of_mapM_eq_ok hobjects item

/-- An object that is read has been read at all levels. -/
theorem exists_read_of_visits (hc : c.schema = D.toSchema) (h : (c.read type r).result = .ok o)
    (hvisits : D.Visits c.strict type r u s) : ∃ p, (c.read u s).result = .ok p := by
  induction hvisits generalizing o with
  | self => exact ⟨o, h⟩
  | @inside type u v r s t d m declared mapped enters rest ih =>
    obtain ⟨d', value, hd', hsaid, -, -⟩ := exists_of_read hc h
    cases declared.symm.trans hd'
    obtain ⟨p, hp⟩ := exists_read_of_enters (hsaid m mapped) (hc ▸ enters)
    exact ih hp

/-! ## Members that are given something -/

/-- About the fields that it gives something to, a record says something. -/
theorem isSome_contribution (hc : c.schema = D.toSchema) {f : FieldMapping} {x : Option Datum}
    (hx : (c.contribution r f).value.result = .ok x) : x.isSome = D.gives c.strict r f := by
  unfold Schema.gives
  cases hembeds : f.embeds? with
  | none =>
    rw [RecordOf.contains_eq_isSome]
    cases hr : r.get? f.name with
    | none =>
      rw [Converter.contribution_of_get?_none hembeds hr] at hx
      cases hx
      rfl
    | some v => exact isSome_of_contribution hembeds hr hx
  | some u =>
    have hshape := FieldMapping.embeds?_eq_some_iff.mp hembeds
    rcases Converter.embedded_cases hshape hx with ⟨t, p, ht, hmentions, hp, hvalue⟩ | ⟨hstrict, hmentions, hvalue⟩
    · cases hstrict : c.strict with
      | false => simp [hvalue, hstrict]
      | true =>
        have hfound := Converter.mentions_of_accepts (accepts_of_read hc hp) r
        have hmentioned : (D.flatNames u).any r.contains = true :=
          Except.ok.inj (hfound.symm.trans (hc ▸ hmentions hstrict))
        cases hx.symm.trans (contribution_of_mentioned hc hstrict hshape hmentioned hp)
        simp [hmentioned]
    · have hunmentioned := Converter.any_eq_false_of_mentions hmentions
      rw [hc] at hunmentioned
      simp [hvalue, hstrict, hunmentioned]

/-! ## Journeys -/

/-- Where someone can be reached. -/
def contactDeclaration : Declaration where
  name := "Contact"
  typeName := "Contact"
  embeddable := true
  recordName := none
  members :=
    [.optional "phone" "Option<String>" ⟨"String", .value .text⟩,
      .optional "house" "Option<House>" ⟨"House", .embedded "House"⟩]
  start := none
  order _ _ := .eq

/-- Someone who guides others. -/
def guideDeclaration : Declaration where
  name := "Guide"
  typeName := "Guide"
  embeddable := false
  recordName := none
  members :=
    [.required "name" "String" ⟨"String", .value .text⟩,
      .optional "contact" "Option<Contact>" ⟨"Contact", .embedded "Contact"⟩]
  start := none
  order _ _ := .eq

/-- A journey, whose stops are journeys. -/
def journeyDeclaration : Declaration where
  name := "Journey"
  typeName := "Journey"
  embeddable := false
  recordName := none
  members :=
    [.required "title" "String" ⟨"String", .value .text⟩,
      .optional "note" "Option<Note>" ⟨"Note", .embedded "Note"⟩,
      .optional "guide" "Option<Guide>" ⟨"Guide", .entity "Guide"⟩,
      .required "stops" "Vec<Journey>" ⟨"Vec<Journey>", .collection .list "Journey"⟩]
  start := none
  order _ _ := .eq

/-- Journeys, with notes and guides. -/
def journeys : DeclaredSchema where
  types := [noteDeclaration, Converter.houseDeclaration, contactDeclaration, guideDeclaration,
    journeyDeclaration].map Declaration.describe
  depth u := if u = "Journey" then 2 else if u = "Guide" then 2 else if u = "Contact" then 1 else 0
  depth_lt := by decide
  declarations := [noteDeclaration, Converter.houseDeclaration, contactDeclaration, guideDeclaration,
    journeyDeclaration]
  types_eq := rfl
  nodup_members := by decide
  exists_target := by decide
  start_eq := by decide

def contact (phone street : Option String) : Object :=
  ⟨"Contact", [("phone", phone.map (.scalar .text)), ("house", street.map fun s => .object (Converter.house s))]⟩

def guide (name : String) (contact : Option Object) : Object :=
  ⟨"Guide", [("name", some (.scalar .text name)), ("contact", contact.map .object)]⟩

def journey (title : String) (note guide : Option Object) (stops : List Object) : Object :=
  ⟨"Journey", [("title", some (.scalar .text title)), ("note", note.map .object), ("guide", guide.map .object),
    ("stops", some (.collection .list "Journey" stops))]⟩

/-- The record of a guide whose street is known, but not the phone. -/
def guideRecord : Record := ⟨"Guide", [("name", .text "Ada"), ("street", .text "Baker")]⟩

/-- The record of a journey with a stop, which has a text but nobody to guide there. -/
def journeyRecord : Record :=
  ⟨"Journey", [("title", .text "a"), ("guide", .record guideRecord),
    ("stops", .array [.record ⟨"Journey", [("title", .text "b"), ("text", .text "x"), ("stops", .records [])]⟩])]⟩

theorem startsEmpty_journeys : journeys.StartsEmpty := by
  unfold StartsEmpty
  decide

theorem visits_guideRecord (strict : Bool) : journeys.Visits strict "Journey" journeyRecord "Contact" guideRecord := by
  have hstreet : (journeys.flatNames "Contact").any guideRecord.contains = true := by cbv
  have hguide : Member.optional "guide" "Option<Guide>" ⟨"Guide", .entity "Guide"⟩ ∈ journeyDeclaration.mapped :=
    .tail _ (.tail _ (.head _))
  have hcontact : Member.optional "contact" "Option<Contact>" ⟨"Contact", .embedded "Contact"⟩ ∈
      guideDeclaration.mapped := .tail _ (.head _)
  exact .inside (d := journeyDeclaration) rfl hguide (.entity rfl rfl)
    (.inside (d := guideDeclaration) rfl hcontact (.embedded rfl fun _ => hstreet) .self)

end DeclaredSchema
end EntityMapping
