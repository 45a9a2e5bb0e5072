import EntityMapping.Converter

/-!
# Records to objects

What a record says about a field of an object does not depend on the object: it is the *contribution* of the
field, something, nothing, or an error. An object is built from the contributions of all its fields: those of
the constructor's parameters become its arguments, and the others are put into the members afterwards.

An embedded object is read from the same record as its owner. In strict mode it is absent if the record has
none of its fields, and also if it was built but holds nothing.

Reading ends because each step goes to a smaller record, or stays with the record and goes to a type that is
embedded.
-/

namespace EntityMapping

/-- What a record says about a field. -/
structure Contribution where
  field : FieldMapping
  value : Conversion (Option Datum)

namespace Contribution

/-- Puts what a record says about a field into an object. -/
def apply (k : Contribution) (o : Object) : Conversion Object := do
  match ← k.value with
  | none => return o
  | some d => .lift (k.field.write o d)

/-- Puts what a record says about some fields into an object, from left to right. The first error ends it; the
object is returned in any case, as far as it was filled. -/
def overlay : List Contribution → Object → Object × Conversion Unit
  | [], o => (o, pure ())
  | k :: ks, o =>
    match (k.apply o).result with
    | .error e => (o, ⟨(k.apply o).log, .error e⟩)
    | .ok p =>
      let (q, rest) := overlay ks p
      (q, ⟨(k.apply o).log ++ rest.log, rest.result⟩)

/-- The object that is filled, if all of it was filled. -/
def fill (ks : List Contribution) (o : Object) : Conversion Object :=
  (overlay ks o).2 >>= fun _ => pure (overlay ks o).1

end Contribution

/-- Collects the arguments of a constructor from what a record says about the parameters. -/
def Constructor.argumentsFrom (k : Constructor) (contributions : List Contribution) :
    Conversion (List (Option Datum)) :=
  k.parameters.mapM fun p =>
    match contributions.find? fun c => c.field.member = p with
    | some c => c.value
    | none => .fail (.invalidArgument (.unmappedParameter k.signature p))

/-- Builds an object of a type from what a record says about its fields. -/
def EntityType.instantiate (t : EntityType) (contributions : List Contribution) : Conversion Object :=
  match t.creation with
  | .fresh o => Contribution.fill contributions o
  | .constructed k => do
    let arguments ← k.argumentsFrom contributions
    let o ← (ConstructorCall.mk t.name k arguments).invoke
    Contribution.fill (contributions.filter fun c => c.field.member ∉ k.parameters) o

namespace Converter

/-- The value that a stored value stands for, by the attribute converter of the field if it has one. -/
def loadedValue (c : Converter) (f : FieldMapping) (v : Value) : Conversion Value :=
  match f.converter with
  | some ref => do .lift ((← c.resolve ref).toEntity v)
  | none => pure v

/-- Whether a record has a field that belongs to a type, embedded types included. -/
def mentions (S : Schema) (type : TypeName) (r : Record) : Except MapError Bool :=
  match _ht : S.entity type with
  | .error e => .error e
  | .ok t =>
    t.fields.attach.anyM fun ⟨f, _hf⟩ =>
      match _hu : f.embeds? with
      | some u => mentions S u r
      | none => .ok (r.contains f.name)
termination_by S.depth type
decreasing_by exact Schema.depth_lt_of_embeds _ht _hf _hu

/-- The record that an element of a collection is stored as. -/
def nestedRecord (f : FieldMapping) : Value → Except MapError Record
  | .record r => .ok r
  | v => .error (.typeMismatch (.notNested f.name "a list of records" v))

/-- The records in a value that stands for a collection. -/
def nestedRecords (f : FieldMapping) : Value → Except MapError (List Record)
  | .records rs => .ok rs
  | .array vs => vs.mapM (nestedRecord f)
  | v => .error (.typeMismatch (.notNested f.name "a list of records" v))

/-- What a list of computations yields, one of them yields. -/
theorem exists_of_mem_mapM {ε α β : Type} {g : α → Except ε β} {as : List α} {bs : List β} {b : β}
    (h : as.mapM g = .ok bs) (hb : b ∈ bs) : ∃ a ∈ as, g a = .ok b := by
  induction as generalizing bs with
  | nil =>
    simp only [List.mapM_nil, pure, Except.pure, Except.ok.injEq] at h
    simp [← h] at hb
  | cons a as ih =>
    rw [List.mapM_cons] at h
    cases ha : g a with
    | error e => simp [ha, bind, Except.bind] at h
    | ok c =>
      cases has : as.mapM g with
      | error e => simp [ha, has, bind, Except.bind] at h
      | ok cs =>
        simp only [ha, has, bind, Except.bind, pure, Except.pure, Except.ok.injEq] at h
        subst h
        rcases List.mem_cons.mp hb with rfl | hmem
        · exact ⟨a, List.mem_cons_self, ha⟩
        · obtain ⟨a', hmem', ha'⟩ := ih has hmem
          exact ⟨a', List.mem_cons_of_mem _ hmem', ha'⟩

/-- The records in a value are smaller than the value. -/
theorem sizeOf_lt_of_mem_nestedRecords {f : FieldMapping} {v : Value} {rs : List Record} {r : Record}
    (h : nestedRecords f v = .ok rs) (hr : r ∈ rs) : sizeOf r < sizeOf v := by
  unfold nestedRecords at h
  split at h
  · injection h with h
    subst h
    have := List.sizeOf_lt_of_mem hr
    simp only [Value.records.sizeOf_spec]
    omega
  · obtain ⟨w, hw, hwr⟩ := exists_of_mem_mapM h hr
    have := List.sizeOf_lt_of_mem hw
    unfold nestedRecord at hwr
    split at hwr
    · injection hwr with hwr
      subst hwr
      simp only [Value.record.sizeOf_spec, Value.array.sizeOf_spec] at *
      omega
    · simp at hwr
  · simp at h

/-- Adds staged elements to a collection; they must be objects of its item type. -/
def assemble (f : FieldMapping) (t : EntityType) (kind : CollectionKind) (staged : Staging) :
    Except MapError Datum := do
  let items ← staged.elements.mapM fun d =>
    match d with
    | .object o =>
      if t.isInstance o then .ok o else .error (.typeMismatch (.wrongType f.member t.typeName))
    | _ => .error (.typeMismatch (.wrongType f.member t.typeName))
  return .collection kind t.typeName (kind.ofList t.order items)

/-- What a record says about a field. `read` builds the objects inside. -/
def readField (c : Converter) (f : FieldMapping) (r : Record)
    (read : (u : TypeName) → (s : Record) → sizeOf s < sizeOf r ∨ (s = r ∧ f.embeds? = some u) →
      Conversion Object) : Conversion (Option Datum) :=
  match hs : f.shape with
  | .value type =>
    match r.get? f.name with
    | none => pure none
    | some v => do
      let v ← c.loadedValue f v
      match type.decode v with
      | .ok x => return some (.scalar type x)
      | .error why => .fail (.typeMismatch (.inField f.member why))
  | .embedded u => do
    let t ← c.entity u
    let mentioned ← if c.strict then .lift (mentions c.schema u r) else pure true
    if mentioned then
      let o ← read u r (.inr ⟨rfl, FieldMapping.embeds?_of_shape hs⟩)
      return if c.strict && t.fields.all fun g => g.isNull o then none else some (.object o)
    else return none
  | .entity u =>
    match hr : r.get? f.name with
    | none => pure none
    | some (.record s) => do
      return some (.object (← read u s (.inl (by
        have := sizeOf_lt_of_get? hr
        simp only [Value.record.sizeOf_spec] at this
        omega))))
    | some v => .fail (.typeMismatch (.notNested f.name "a nested record" v))
  | .collection kind u =>
    match hr : r.get? f.name with
    | none => pure none
    | some v =>
      match hrs : nestedRecords f v with
      | .error e => .fail e
      | .ok rs => do
        let t ← c.entity u
        let staging ← .lift (c.suppliers.supply kind)
        let objects ← rs.attach.mapM fun ⟨s, hmem⟩ => read u s (.inl (Nat.lt_trans
          (sizeOf_lt_of_mem_nestedRecords hrs hmem) (sizeOf_lt_of_get? hr)))
        let staged := objects.foldl (fun staged o => staged.add (.object o)) staging
        return some (← .lift (assemble f t kind staged))

/-- The object of a type that a record stands for. -/
def read (c : Converter) (type : TypeName) (r : Record) : Conversion Object :=
  match _ht : c.schema.entity type with
  | .error e => .fail e
  | .ok t =>
    t.instantiate (t.fields.attach.map fun ⟨f, _hf⟩ =>
      ⟨f, c.readField f r fun u s _hs => read c u s⟩)
termination_by (sizeOf r, c.schema.depth type)
decreasing_by
  rcases _hs with hlt | ⟨rfl, hu⟩
  · exact Prod.Lex.left _ _ hlt
  · exact Prod.Lex.right _ (Schema.depth_lt_of_embeds _ht _hf hu)

/-- What a record says about a field. -/
def contribution (c : Converter) (r : Record) (f : FieldMapping) : Contribution :=
  ⟨f, c.readField f r fun u s _ => c.read u s⟩

/-- Fills an object from a record. Members of which the record says nothing stay as they are. The object is
returned also when there was an error, as far as it was filled. -/
def fill (c : Converter) (o : Object) (r : Record) : Object × Conversion Unit :=
  match c.schema.entity o.type with
  | .error e => (o, .fail e)
  | .ok t => Contribution.overlay (t.fields.map (c.contribution r)) o

end Converter
end EntityMapping
