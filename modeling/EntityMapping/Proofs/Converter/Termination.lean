import EntityMapping.Proofs.Converter.Levels
import EntityMapping.Proofs.Schema.Embedding

/-!
# Readings end

Entities and collections may hold objects of any type, so a reading can come back to the type that it started with. That
it ends all the same is not seen from the types alone and not from the records alone: what is embedded is read from the
same record, and what is not embedded may be of a type that embeds more. To state this for types of which nothing is
known, a reading is followed up to a number of calls within each other, and it has ended if that was enough.

* `UncheckedConverter.mentionsWithin`, `UncheckedConverter.readWithin` — readings up to a number of calls
* `UncheckedConverter.Calls` — the calls that are made within a call
* `UncheckedConverter.decreasing` — each is for a smaller record, or for the same record and a type that embeds less deep
* `UncheckedConverter.mentionsWithin_eq`, `UncheckedConverter.readWithin_eq` — how many calls are enough
* `UncheckedConverter.ends_of_acyclic` — all readings end if no type embeds itself
* `UncheckedConverter.never_ends` — if types embed each other in a circle, readings need not end
-/

namespace EntityMapping

/-- A converter of mapped types that may embed each other in any way. -/
structure UncheckedConverter where
  types : List TypeDescription
  attributes : Attributes
  suppliers : Suppliers
  strict : Bool

/-- A converter without what is known of its types. -/
def Converter.unchecked (c : Converter) : UncheckedConverter :=
  ⟨c.schema.types, c.attributes, c.suppliers, c.strict⟩

namespace UncheckedConverter

/-! ## Readings up to a number of calls -/

section Steps

variable (c : UncheckedConverter) (mentions : TypeName → Record → Option (Except MapError Bool))
  (read : TypeName → Record → Option (Conversion Object))

/-- The entity type of a name. -/
def entity (type : TypeName) : Except MapError EntityType :=
  match c.types.find? fun d => d.typeName = type with
  | some d => d.build
  | none => .error (.unknownEntity type)

/-- The value that a stored value stands for. This depends on the attribute converters only. -/
def loadedValue (f : FieldMapping) (v : Value) : Conversion Value :=
  Converter.loadedValue ⟨⟨[], fun _ => 0, nofun⟩, c.attributes, c.suppliers, c.strict⟩ f v

/-- Whether a record has a field that belongs to a type, when `mentions` answers for the types that are embedded. Without
an answer that is asked for there is no answer. -/
def mentionsStep (type : TypeName) (r : Record) : Option (Except MapError Bool) :=
  match c.entity type with
  | .error e => some (.error e)
  | .ok t =>
    let found : ExceptT MapError Option Bool := t.fields.anyM fun f =>
      match f.embeds? with
      | some u => mentions u r
      | none => pure (r.contains f.name)
    found

/-- What a record says about a field, when `mentions` and `read` answer for the types inside. For a collection, all items
are asked for, even behind one that fails. -/
def fieldStep (r : Record) (f : FieldMapping) : Option (Conversion (Option Datum)) :=
  match f.shape with
  | .value type =>
    match r.get? f.name with
    | none => some (pure none)
    | some v => some do
      let v ← c.loadedValue f v
      match type.decode v with
      | .error why => .fail (.typeMismatch (.inField f.member why))
      | .ok x => return some (.scalar type x)
  | .embedded u =>
    match c.entity u with
    | .error e => some (.fail e)
    | .ok t =>
      match if c.strict then mentions u r else some (.ok true) with
      | none => none
      | some (.error e) => some (.fail e)
      | some (.ok false) => some (pure none)
      | some (.ok true) => (read u r).map fun answer => do
        let o ← answer
        return if c.strict && t.fields.all fun g => g.isNull o then none else some (.object o)
  | .entity u =>
    match r.get? f.name with
    | none => some (pure none)
    | some (.record s) => (read u s).map fun answer => do return some (.object (← answer))
    | some v => some (.fail (.typeMismatch (.notNested f.name "a nested record" v)))
  | .collection kind u =>
    match r.get? f.name with
    | none => some (pure none)
    | some v =>
      match Converter.nestedRecords f v with
      | .error e => some (.fail e)
      | .ok rs =>
        match c.entity u, c.suppliers.supply kind with
        | .error e, _ => some (.fail e)
        | .ok _, .error e => some (.fail e)
        | .ok t, .ok staging => (rs.mapM (read u)).map fun answers => do
          let objects ← answers.mapM id
          let staged := objects.foldl (fun staged o => staged.add (.object o)) staging
          return some (← .lift (Converter.assemble f t kind staged))

/-- The object of a type that a record stands for, when `mentions` and `read` answer for the types inside. All fields are
asked for, even behind one that fails. -/
def readStep (type : TypeName) (r : Record) : Option (Conversion Object) :=
  match c.entity type with
  | .error e => some (.fail e)
  | .ok t =>
    (t.fields.mapM fun f => (c.fieldStep mentions read r f).map (Contribution.mk f)).map t.instantiate

/-- Whether a record has a field that belongs to a type, if at most `n` calls within each other tell. -/
def mentionsWithin : Nat → TypeName → Record → Option (Except MapError Bool)
  | 0 => fun _ _ => none
  | n + 1 => c.mentionsStep (mentionsWithin n)

/-- The object of a type that a record stands for, if at most `n` calls within each other tell. -/
def readWithin : Nat → TypeName → Record → Option (Conversion Object)
  | 0 => fun _ _ => none
  | n + 1 => c.readStep (c.mentionsWithin n) (readWithin n)

end Steps

/-! ## Calls -/

/-- A call: to search a record for the names of a type, or to read an object of a type from a record. -/
inductive Call where
  | mentions (type : TypeName) (r : Record)
  | read (type : TypeName) (r : Record)

/-- The size of the record that a call is for, and how deep the type embeds others. -/
noncomputable def Call.measure (types : List TypeDescription) : Call → Nat × Nat
  | .mentions type r => (sizeOf r, Schema.embeddingDepth types type)
  | .read type r => (sizeOf r, Schema.embeddingDepth types type)

/-- The calls that are made for a field when an object is read from a record. -/
inductive FieldCalls (c : UncheckedConverter) (r : Record) (f : FieldMapping) : Call → Prop
  | mentions {u : TypeName} (shape : f.shape = .embedded u) (strict : c.strict = true) : FieldCalls c r f (.mentions u r)
  | embedded {u : TypeName} (shape : f.shape = .embedded u) : FieldCalls c r f (.read u r)
  | entity {u : TypeName} {s : Record} (shape : f.shape = .entity u) (stored : r.get? f.name = some (.record s)) :
      FieldCalls c r f (.read u s)
  | collection {kind : CollectionKind} {u : TypeName} {v : Value} {rs : List Record} {s : Record}
      (shape : f.shape = .collection kind u) (stored : r.get? f.name = some v)
      (records : Converter.nestedRecords f v = .ok rs) (item : s ∈ rs) : FieldCalls c r f (.read u s)

/-- The calls that are made within a call. -/
inductive Calls (c : UncheckedConverter) : Call → Call → Prop
  | mentions {type u : TypeName} {r : Record} {t : EntityType} {f : FieldMapping} (found : c.entity type = .ok t)
      (field : f ∈ t.fields) (embeds : f.embeds? = some u) : Calls c (.mentions type r) (.mentions u r)
  | read {type : TypeName} {r : Record} {t : EntityType} {f : FieldMapping} {b : Call} (found : c.entity type = .ok t)
      (field : f ∈ t.fields) (asked : FieldCalls c r f b) : Calls c (.read type r) b

variable {c : UncheckedConverter} {type u : TypeName} {t : EntityType} {f : FieldMapping} {r s : Record}

/-! ### What an answer depends on -/

variable {p q : TypeName → Record → Option (Except MapError Bool)} {g h : TypeName → Record → Option (Conversion Object)}

theorem mentionsStep_congr (hmentions : ∀ u s, c.Calls (.mentions type r) (.mentions u s) → p u s = q u s) :
    c.mentionsStep p type r = c.mentionsStep q type r := by
  unfold mentionsStep
  cases ht : c.entity type with
  | error e => rfl
  | ok t =>
    refine Converter.anyM_congr fun f hf => ?_
    cases hu : f.embeds? with
    | none => rfl
    | some u => exact hmentions u r (.mentions ht hf hu)

theorem fieldStep_congr (hmentions : ∀ u s, c.FieldCalls r f (.mentions u s) → p u s = q u s)
    (hread : ∀ u s, c.FieldCalls r f (.read u s) → g u s = h u s) : c.fieldStep p g r f = c.fieldStep q h r f := by
  unfold fieldStep
  cases hshape : f.shape with
  | value type => rfl
  | embedded u =>
    have hasked : (if c.strict then p u r else some (.ok true)) = if c.strict then q u r else some (.ok true) := by
      cases hstrict : c.strict with
      | false => rfl
      | true => exact hmentions u r (.mentions hshape hstrict)
    dsimp only
    rw [hasked, hread u r (.embedded hshape)]
  | entity u =>
    cases hr : r.get? f.name with
    | none => rfl
    | some v =>
      cases v with
      | record s =>
        dsimp only
        rw [hread u s (.entity hshape hr)]
      | _ => rfl
  | collection kind u =>
    cases hr : r.get? f.name with
    | none => rfl
    | some v =>
      cases hrs : Converter.nestedRecords f v with
      | error e => simp only [hrs]
      | ok rs =>
        have hitems : rs.mapM (g u) = rs.mapM (h u) := mapM_congr fun s hs => hread u s (.collection hshape hr hrs hs)
        simp only [hrs, hitems]

theorem readStep_congr (hmentions : ∀ u s, c.Calls (.read type r) (.mentions u s) → p u s = q u s)
    (hread : ∀ u s, c.Calls (.read type r) (.read u s) → g u s = h u s) :
    c.readStep p g type r = c.readStep q h type r := by
  unfold readStep
  cases ht : c.entity type with
  | error e => rfl
  | ok t =>
    have hfields : (t.fields.mapM fun f => (c.fieldStep p g r f).map (Contribution.mk f)) =
        t.fields.mapM fun f => (c.fieldStep q h r f).map (Contribution.mk f) :=
      mapM_congr fun f hf => by
        rw [fieldStep_congr (fun u s hcall => hmentions u s (.read ht hf hcall))
          fun u s hcall => hread u s (.read ht hf hcall)]
    dsimp only
    rw [hfields]

/-! ### Calls are for something smaller -/

/-- The fields of an entity type are those of the description of its name. -/
theorem exists_of_entity (ht : c.entity type = .ok t) :
    ∃ d, c.types.find? (fun d => d.typeName = type) = some d ∧ t.fields = d.fields := by
  unfold entity at ht
  split at ht
  · next d hd => exact ⟨d, hd, TypeDescription.fields_of_build ht⟩
  · cases ht

theorem embeddingDepth_lt (hacyclic : Schema.Acyclic c.types) (ht : c.entity type = .ok t) (hf : f ∈ t.fields)
    (hu : f.embeds? = some u) : Schema.embeddingDepth c.types u < Schema.embeddingDepth c.types type := by
  obtain ⟨d, hd, hfields⟩ := exists_of_entity ht
  exact Schema.embeddingDepth_lt hacyclic hd (hfields ▸ hf) hu

/-- **If no type embeds itself, each call is for a smaller record, or for the same record and a type that embeds less
deep.** -/
theorem decreasing (hacyclic : Schema.Acyclic c.types) {a b : Call} (hcall : c.Calls a b) :
    Prod.Lex (· < ·) (· < ·) (b.measure c.types) (a.measure c.types) := by
  cases hcall with
  | mentions ht hf hu => exact .right _ (embeddingDepth_lt hacyclic ht hf hu)
  | read ht hf hasked =>
    cases hasked with
    | mentions shape => exact .right _ (embeddingDepth_lt hacyclic ht hf (FieldMapping.embeds?_of_shape shape))
    | embedded shape => exact .right _ (embeddingDepth_lt hacyclic ht hf (FieldMapping.embeds?_of_shape shape))
    | entity shape stored => exact .left _ _ (Converter.sizeOf_lt_of_stored stored)
    | collection shape stored records item => exact .left _ _ (Converter.sizeOf_lt_of_item stored records item)

/-- How many calls within each other a reading takes at most: for a smaller record, the types begin anew. -/
noncomputable def bound (c : UncheckedConverter) (type : TypeName) (r : Record) : Nat :=
  sizeOf r * (c.types.length + 1) + Schema.embeddingDepth c.types type

theorem bound_lt (hacyclic : Schema.Acyclic c.types) (hcall : c.Calls (.read type r) (.read u s)) :
    c.bound u s < c.bound type r := by
  have hdepth := Schema.embeddingDepth_le c.types u
  unfold bound
  rcases Prod.lex_def.mp (decreasing hacyclic hcall) with hsize | ⟨hsize, hlt⟩
  · have hsize : sizeOf s + 1 ≤ sizeOf r := hsize
    calc sizeOf s * (c.types.length + 1) + Schema.embeddingDepth c.types u
      _ < sizeOf s * (c.types.length + 1) + (c.types.length + 1) := by omega
      _ = (sizeOf s + 1) * (c.types.length + 1) := (Nat.succ_mul _ _).symm
      _ ≤ sizeOf r * (c.types.length + 1) := Nat.mul_le_mul_right _ hsize
      _ ≤ sizeOf r * (c.types.length + 1) + Schema.embeddingDepth c.types type := Nat.le_add_right _ _
  · have hsize : sizeOf s = sizeOf r := hsize
    rw [hsize]
    exact Nat.add_lt_add_left hlt _

/-! ## Readings that end -/

/-- A search in which every test has an answer. -/
theorem anyM_eq_some {ε α : Type} {x : α → ExceptT ε Option Bool} {y : α → Except ε Bool} {as : List α}
    (hanswered : ∀ a ∈ as, x a = ExceptT.mk (some (y a))) : as.anyM x = ExceptT.mk (some (as.anyM y)) := by
  induction as with
  | nil => rfl
  | cons a as ih =>
    rw [List.anyM, List.anyM, hanswered a List.mem_cons_self, ih fun b hb => hanswered b (List.mem_cons_of_mem _ hb)]
    cases y a with
    | error e => rfl
    | ok found => cases found <;> rfl

theorem entity_unchecked (d : Converter) (type : TypeName) : d.unchecked.entity type = d.schema.entity type := rfl

/-- When a converter answers for the types that are embedded, its answer for the type comes out. -/
theorem mentionsStep_unchecked (d : Converter) (type : TypeName) (r : Record) :
    d.unchecked.mentionsStep (fun u s => some (Converter.mentions d.schema u s)) type r =
      some (Converter.mentions d.schema type r) := by
  unfold mentionsStep
  rw [entity_unchecked]
  cases ht : d.schema.entity type with
  | error e => rw [Converter.mentions_of_error ht]
  | ok t =>
    rw [Converter.mentions_eq ht]
    refine anyM_eq_some fun f _ => ?_
    unfold Converter.mentionsField
    cases f.embeds? <;> rfl

theorem fieldStep_unchecked (d : Converter) (r : Record) (f : FieldMapping) :
    d.unchecked.fieldStep (fun u s => some (Converter.mentions d.schema u s)) (fun u s => some (d.read u s)) r f =
      some (d.contribution r f).value := by
  unfold fieldStep
  cases hshape : f.shape with
  | value type =>
    rw [Converter.traced_contribution_of_value hshape]
    cases r.get? f.name <;> rfl
  | embedded u =>
    have hstrict : d.unchecked.strict = d.strict := rfl
    rw [Converter.traced_contribution_of_embedded hshape]
    simp only [entity_unchecked, Converter.entity, hstrict]
    cases d.schema.entity u with
    | error e => rfl
    | ok t =>
      cases d.strict with
      | false => rfl
      | true =>
        cases Converter.mentions d.schema u r with
        | error e => rfl
        | ok mentioned => cases mentioned <;> rfl
  | entity u =>
    rw [Converter.traced_contribution_of_entity hshape]
    cases r.get? f.name with
    | none => rfl
    | some v => cases v <;> rfl
  | collection kind u =>
    rw [Converter.traced_contribution_of_collection hshape]
    cases r.get? f.name with
    | none => rfl
    | some v =>
      have hsuppliers : d.unchecked.suppliers = d.suppliers := rfl
      simp only [entity_unchecked, Converter.entity, hsuppliers]
      cases Converter.nestedRecords f v with
      | error e => rfl
      | ok rs =>
        have hitems : (rs.mapM fun s => some (d.read u s)) = some (rs.map (d.read u)) := List.mapM_pure
        cases d.schema.entity u with
        | error e => rfl
        | ok t =>
          cases d.suppliers.supply kind with
          | error e => rfl
          | ok staging =>
            simp only [hitems, Option.map_some, List.mapM_map]
            rfl

theorem readStep_unchecked (d : Converter) (type : TypeName) (r : Record) :
    d.unchecked.readStep (fun u s => some (Converter.mentions d.schema u s)) (fun u s => some (d.read u s)) type r =
      some (d.read type r) := by
  unfold readStep
  rw [entity_unchecked]
  cases ht : d.schema.entity type with
  | error e => rw [Converter.read_of_error ht]
  | ok t =>
    have hfields : (t.fields.mapM fun f => (d.unchecked.fieldStep (fun u s => some (Converter.mentions d.schema u s))
        (fun u s => some (d.read u s)) r f).map (Contribution.mk f)) = some (t.fields.map (d.contribution r)) := by
      simp only [fieldStep_unchecked]
      exact List.mapM_pure
    rw [Converter.read_eq ht]
    dsimp only
    rw [hfields]
    rfl

/-- The search of a record ends with the answer of a converter, after one more call than the type embeds others deep. -/
theorem mentionsWithin_eq (d : Converter) {type : TypeName} (r : Record) {n : Nat}
    (hn : Schema.embeddingDepth d.schema.types type < n) :
    d.unchecked.mentionsWithin n type r = some (Converter.mentions d.schema type r) := by
  induction n generalizing type with
  | zero => exact absurd hn (Nat.not_lt_zero _)
  | succ n ih =>
    rw [mentionsWithin, ← mentionsStep_unchecked]
    refine mentionsStep_congr fun u s hcall => ?_
    cases hcall with
    | mentions ht hf hu =>
      have hdepth := embeddingDepth_lt d.schema.acyclic ht hf hu
      exact ih (Nat.lt_of_lt_of_le hdepth (Nat.le_of_lt_succ hn))

/-- A reading ends with the answer of a converter, after more calls than the bound tells. -/
theorem readWithin_eq (d : Converter) {type : TypeName} {r : Record} {n : Nat} (hn : d.unchecked.bound type r < n) :
    d.unchecked.readWithin n type r = some (d.read type r) := by
  induction n generalizing type r with
  | zero => exact absurd hn (Nat.not_lt_zero _)
  | succ n ih =>
    have hn := Nat.le_of_lt_succ hn
    rw [readWithin, ← readStep_unchecked]
    refine readStep_congr (fun u s hcall => mentionsWithin_eq d s ?_) fun u s hcall => ih ?_
    -- a search that is asked for stays with the record, so the depth alone bounds it
    · cases hcall with
      | read ht hf hasked =>
        cases hasked with
        | mentions shape =>
          have hdepth := embeddingDepth_lt d.schema.acyclic ht hf (FieldMapping.embeds?_of_shape shape)
          exact Nat.lt_of_lt_of_le hdepth (Nat.le_trans (Nat.le_add_left _ _) hn)
    · exact Nat.lt_of_lt_of_le (bound_lt d.schema.acyclic hcall) hn

/-- Whether all readings of a converter end. -/
structure Ends (c : UncheckedConverter) : Prop where
  /-- An answer depends on the calls that are made for it, and on no others, -/
  mentions_congr : ∀ p q type r, (∀ u s, c.Calls (.mentions type r) (.mentions u s) → p u s = q u s) →
    c.mentionsStep p type r = c.mentionsStep q type r
  read_congr : ∀ p q g h type r, (∀ u s, c.Calls (.read type r) (.mentions u s) → p u s = q u s) →
    (∀ u s, c.Calls (.read type r) (.read u s) → g u s = h u s) → c.readStep p g type r = c.readStep q h type r
  /-- and each of these is for a smaller record, or for the same record and a type that embeds less deep. -/
  decreasing : ∀ a b, c.Calls a b → Prod.Lex (· < ·) (· < ·) (b.measure c.types) (a.measure c.types)
  /-- So the types make a schema, -/
  checked : ∃ d : Converter, d.unchecked = c
  accepted : (c.types.map TypeDescription.typeName).Nodup → (Schema.ofTypes? c.types).isSome
  /-- and what a converter with this schema answers is the answer that is reached: for the search of a record, with one
  more call than the type embeds others deep, -/
  mentions_ends : ∀ d : Converter, d.unchecked = c → ∀ type r n, Schema.embeddingDepth c.types type < n →
    c.mentionsWithin n type r = some (Converter.mentions d.schema type r)
  /-- and for a reading, with as many as the bound tells, and any number above. -/
  read_ends : ∀ d : Converter, d.unchecked = c → ∀ type r n, c.bound type r < n →
    c.readWithin n type r = some (d.read type r)

/-- **If no type embeds itself, all readings end.** How types refer to each other otherwise does not matter, nor does
the mode, nor how objects come into being. -/
theorem ends_of_acyclic (hacyclic : Schema.Acyclic c.types) : c.Ends where
  mentions_congr _ _ _ _ hmentions := mentionsStep_congr hmentions
  read_congr _ _ _ _ _ _ hmentions hread := readStep_congr hmentions hread
  decreasing _ _ hcall := decreasing hacyclic hcall
  checked := by
    obtain ⟨S, hS⟩ := Schema.exists_of_acyclic hacyclic
    exact ⟨⟨S, c.attributes, c.suppliers, c.strict⟩, by simp only [Converter.unchecked, hS]⟩
  accepted honce := (Schema.isSome_ofTypes? honce).mpr hacyclic
  mentions_ends := by
    rintro d rfl type r n hn
    exact mentionsWithin_eq d r hn
  read_ends := by
    rintro d rfl type r n hn
    exact readWithin_eq d hn

/-- An author of books. Authors start as copies of one without a name. -/
def authorDeclaration : Declaration where
  name := "Author"
  typeName := "Author"
  embeddable := false
  recordName := none
  members :=
    [.required "name" "String" ⟨"String", .value .text⟩,
      .optional "contact" "Option<Contact>" ⟨"Contact", .embedded "Contact"⟩,
      .required "books" "Vec<Book>" ⟨"Vec<Book>", .collection .list "Book"⟩]
  start := some ⟨"Author", [("name", some (.scalar .text "")), ("contact", none),
    ("books", some (.collection .list "Book" []))]⟩
  order _ _ := .eq

/-- A book, which may be made of books, and is built by its constructor. -/
def bookDeclaration : Declaration where
  name := "Book"
  typeName := "Book"
  embeddable := false
  recordName := none
  members :=
    [.required "title" "String" ⟨"String", .value .text⟩,
      .optional "author" "Option<Author>" ⟨"Author", .entity "Author"⟩,
      .required "parts" "Vec<Book>" ⟨"Vec<Book>", .collection .list "Book"⟩]
  start := none
  order _ _ := .eq

/-- A converter of books and authors, who can be reached somewhere. -/
def library (strict : Bool) : UncheckedConverter where
  types := [Converter.houseDeclaration, DeclaredSchema.contactDeclaration, authorDeclaration, bookDeclaration].map
    Declaration.describe
  attributes := .empty
  suppliers := .standard
  strict := strict

/-- The record of a book in one part, whose author has written another one. -/
def bookRecord : Record :=
  ⟨"Book", [("title", .text "a"),
    ("author", .record ⟨"Author", [("name", .text "Ada"), ("street", .text "Baker"),
      ("books", .records [⟨"Book", [("title", .text "b"), ("parts", .records [])]⟩])]⟩),
    ("parts", .array [.record ⟨"Book", [("title", .text "c"), ("parts", .records [])]⟩])]⟩

def author (name : String) (contact : Option Object) (books : List Object) : Object :=
  ⟨"Author", [("name", some (.scalar .text name)), ("contact", contact.map .object),
    ("books", some (.collection .list "Book" books))]⟩

def book (title : String) (author : Option Object) (parts : List Object) : Object :=
  ⟨"Book", [("title", some (.scalar .text title)), ("author", author.map .object),
    ("parts", some (.collection .list "Book" parts))]⟩

/-- Books and authors hold each other, and all their readings end. Where the author of a book lives is found by four calls
within each other, and not by three. -/
theorem ends_library :
    Schema.Acyclic (library true).types ∧ (library true).Ends ∧ (library false).Ends ∧
      (library true).readWithin 3 "Book" bookRecord = none ∧
      ((library true).readWithin 4 "Book" bookRecord).map Traced.result = some (.ok
        (book "a" (some (author "Ada" (some (DeclaredSchema.contact none (some "Baker"))) [book "b" none []]))
          [book "c" none []])) := by
  have hacyclic : Schema.Acyclic (library true).types := (Schema.isSome_ofTypes? (by decide)).mp (by decide)
  refine ⟨hacyclic, ends_of_acyclic hacyclic, ends_of_acyclic (c := library false) hacyclic, ?_, ?_⟩
  · cbv
  · cbv

/-! ## Readings that do not end -/

/-- An embedded object for whose type there are no answers has none. -/
theorem fieldStep_eq_none (hshape : f.shape = .embedded u) (ht : c.entity u = .ok t) (hmentions : p u r = none)
    (hread : g u r = none) : c.fieldStep p g r f = none := by
  unfold fieldStep
  rw [hshape]
  dsimp only
  rw [ht, hmentions, hread]
  cases c.strict <;> rfl

/-- If each of some types begins with an embedded object of one of them, no number of calls is enough. -/
theorem never_ends {P : TypeName → Prop} (hcircle : ∀ type, P type →
      ∃ t f fs u, c.entity type = .ok t ∧ t.fields = f :: fs ∧ f.shape = .embedded u ∧ P u)
    (htype : P type) (r : Record) (n : Nat) : c.mentionsWithin n type r = none ∧ c.readWithin n type r = none := by
  induction n generalizing type with
  | zero => exact ⟨rfl, rfl⟩
  | succ n ih =>
    obtain ⟨t, f, fs, u, ht, hfields, hshape, hu⟩ := hcircle type htype
    obtain ⟨hmentions, hread⟩ := ih hu
    obtain ⟨v, -, -, -, hv, -⟩ := hcircle u hu
    -- the first field asks for `u`, in either mode
    constructor
    · rw [mentionsWithin, mentionsStep, ht]
      dsimp only
      rw [hfields, List.anyM, FieldMapping.embeds?_of_shape hshape]
      dsimp only
      rw [hmentions]
      rfl
    · rw [readWithin, readStep, ht]
      dsimp only
      rw [hfields, List.mapM_cons, fieldStep_eq_none hshape hv hmentions hread]
      rfl

/-- A converter of hens that come from eggs that come from hens. -/
def hens (strict : Bool) : UncheckedConverter where
  types :=
    [⟨"Hen", "Hen", true, [.of "Hen" "egg" ⟨"Egg", .embedded "Egg"⟩], some (.fresh ⟨"Hen", []⟩), fun _ _ => .eq⟩,
      ⟨"Egg", "Egg", true, [.of "Egg" "hen" ⟨"Hen", .embedded "Hen"⟩], some (.fresh ⟨"Egg", []⟩), fun _ _ => .eq⟩]
  attributes := .empty
  suppliers := .standard
  strict := strict

example : (hens false).readWithin 9 "Hen" ⟨"Hen", [("egg", .text "first")]⟩ = none := by cbv

end UncheckedConverter
end EntityMapping
