import EntityMapping.Proofs.Converter.Contents
import EntityMapping.Proofs.Converter.Reading
import EntityMapping.Proofs.Scalar
import EntityMapping.Proofs.Schema.Instantiation
import EntityMapping.Proofs.Schema.Pruning

/-!
# Objects that come back

An object of a declared type is written to a record and read back from it, by a converter in strict mode with the
standard suppliers. What comes back is the pruned object.

The two halves meet at `Converter.Reflects`: the record that is written reflects the object, and from any record
that reflects an object the pruned object is read. The second half is about more records than the first one
because an embedded object is read from the record of its owner.

* `DeclaredSchema.exists_write` — an object is written
* `DeclaredSchema.memberReflects` — what a record that reflects an object has of each member
* `DeclaredSchema.isRead_of_throughout` — the pruned object is read
* `DeclaredSchema.read_write_eq_prune` — both together
-/

namespace EntityMapping
namespace DeclaredSchema

/-- A strict converter with the standard suppliers. -/
def converter (D : DeclaredSchema) (a : Attributes) : Converter := ⟨D.toSchema, a, .standard, true⟩

/-- Whether an object is of a declared type, and its members hold what they are meant to. -/
def IsInstance (D : DeclaredSchema) (o : Object) : Prop :=
  ∃ d, D.declaration? o.type = some d ∧ d.HasInstance o ∧
    ∀ m ∈ d.mapped, ∀ x, o.get? m.name = some x → x.Proper

/-- Whether the members of an object that are not mapped hold what they start with. -/
def SkipsInitial (D : DeclaredSchema) (o : Object) : Prop :=
  ∀ d, D.declaration? o.type = some d → ∀ m ∈ d.members, m.isMapped = false → o.get? m.name = d.initial m

/-- Whether something is stored of every embedded object that is not optional. -/
def FillsEmbedded (D : DeclaredSchema) (o : Object) : Prop :=
  ∀ d, D.declaration? o.type = some d → ∀ m ∈ d.mapped, m.mayBeEmpty = false →
    ∀ u p, m.type.shape = .embedded u → o.get? m.name = some (.object p) → D.populated p ≠ []

/-- Whether attribute converters turn the values in an object into others and back. -/
def Inverts (D : DeclaredSchema) (a : Attributes) (o : Object) : Prop :=
  ∀ d, D.declaration? o.type = some d → ∀ m ∈ d.mapped, ∀ ref, m.converter = some ref →
    ∀ t x, o.get? m.name = some (.scalar t x) →
      ∃ w, (a.resolve ref).toRecord (t.encode x) = .ok w ∧ (a.resolve ref).toEntity w = .ok (t.encode x)

/-- Whether an object can come back from its record. -/
structure Restorable (D : DeclaredSchema) (a : Attributes) (o : Object) : Prop where
  isInstance : D.IsInstance o
  skips : D.SkipsInitial o
  fills : D.FillsEmbedded o
  inverts : D.Inverts a o

/-- Whether the names under which a type stores its objects differ, for every type. -/
def DistinctNames (D : DeclaredSchema) : Prop := ∀ d ∈ D.declarations, (D.flatNames d.typeName).Nodup

/-- Whether optional members start with nothing where objects start as copies. -/
def StartsEmpty (D : DeclaredSchema) : Prop :=
  ∀ d ∈ D.declarations, ∀ o, d.start = some o → ∀ m ∈ d.mapped, m.mayBeEmpty = true → o.get? m.name = none

variable {D : DeclaredSchema} {a : Attributes} {c : Converter} {d : Declaration} {o : Object} {m : Member}

theorem entity_of_schema (hc : c.schema = D.toSchema) (hD : D.Consistent) {type : TypeName}
    (h : D.declaration? type = some d) : c.schema.entity type = .ok d.entityType :=
  hc ▸ entity_of_declaration? hD h

theorem flatNames_nodup (hnames : D.DistinctNames) {type : TypeName} (h : D.declaration? type = some d) :
    (D.flatNames type).Nodup := by
  rw [← typeName_of_declaration? h]
  exact hnames d (mem_of_declaration? h)

/-- Whether what a mapped member holds can come back from a record. -/
structure RestorableMember (D : DeclaredSchema) (a : Attributes) (m : Member) (x : Datum) : Prop where
  proper : x.Proper
  fills : m.mayBeEmpty = false → ∀ u p, m.type.shape = .embedded u → x = .object p → D.populated p ≠ []
  inverts : ∀ ref, m.converter = some ref → ∀ t y, x = .scalar t y →
    ∃ w, (a.resolve ref).toRecord (t.encode y) = .ok w ∧ (a.resolve ref).toEntity w = .ok (t.encode y)
  inside : ∀ p ∈ x.objects, D.Throughout (D.Restorable a) p

/-- An object can come back if what its members hold can. -/
theorem throughout_of_members (hd : D.declaration? o.type = some d) (ho : d.HasInstance o)
    (hskips : ∀ m ∈ d.members, m.isMapped = false → o.get? m.name = d.initial m)
    (hmembers : ∀ m ∈ d.mapped, ∀ x, o.get? m.name = some x → D.RestorableMember a m x) :
    D.Throughout (D.Restorable a) o := by
  refine (throughout_iff hd ho).mpr ⟨⟨⟨d, hd, ho, fun m hm x hx => (hmembers m hm x hx).proper⟩, ?_, ?_, ?_⟩,
    fun m hm x hx => (hmembers m hm x hx).inside⟩
  · intro e he
    cases hd.symm.trans he
    exact hskips
  · intro e he m hm hmay u p hshape hx
    cases hd.symm.trans he
    exact (hmembers m hm _ hx).fills hmay u p hshape rfl
  · intro e he m hm ref href t x hx
    cases hd.symm.trans he
    exact (hmembers m hm _ hx).inverts ref href t x rfl

/-! ## Values that come back -/

/-- A value that is stored is loaded as it was, if the attribute converter of the field turns it back. -/
theorem loadedValue_of_storedValue {c : Converter} {f : FieldMapping} {v w : Value}
    (hinverts : ∀ ref, f.converter = some ref → ∃ w, (c.attributes.resolve ref).toRecord v = .ok w ∧
      (c.attributes.resolve ref).toEntity w = .ok v)
    (h : (c.storedValue f v).result = .ok w) : (c.loadedValue f w).result = .ok v := by
  unfold Converter.storedValue at h
  unfold Converter.loadedValue
  cases hconverter : f.converter with
  | none =>
    simp only [hconverter] at h
    injection h with h
    rw [h]
    rfl
  | some ref =>
    obtain ⟨w', hto, hback⟩ := hinverts ref hconverter
    simp only [hconverter, Converter.resolve, Traced.result_bind, Traced.result_lift] at h ⊢
    have hw : Except.ok w' = Except.ok w := hto.symm.trans h
    injection hw with hw
    rw [← hw]
    exact hback

/-! ## Writing -/

/-- Each field of an object of a declared type can be written if the objects inside can. -/
theorem exists_parts (hc : c.schema = D.toSchema) (hD : D.Consistent) (hd : D.declaration? o.type = some d)
    (ho : d.HasInstance o) (hproper : ∀ m ∈ d.mapped, ∀ x, o.get? m.name = some x → x.Proper)
    (hinverts : D.Inverts c.attributes o) (hm : m ∈ d.mapped)
    (hinside : ∀ x, o.get? m.name = some x → ∀ p ∈ x.objects, ∃ r, (c.write p.type p).result = .ok r) :
    ∃ part, (c.parts o (m.field d.typeName)).result = .ok part := by
  have hread := ho.read_field hm
  cases hx : o.get? m.name with
  | none => exact ⟨[], Converter.parts_of_none (hread.trans hx)⟩
  | some x =>
    rw [hx] at hread
    have hfits : x.fits m.type.shape = true := ho.fits m hm x hx
    cases x with
    | scalar t x =>
      obtain ⟨v, hv⟩ : ∃ v, (c.storedValue (m.field d.typeName) (t.encode x)).result = .ok v := by
        unfold Converter.storedValue
        cases hconverter : m.converter with
        | none => exact ⟨t.encode x, by simp [Member.field, hconverter]⟩
        | some ref =>
          obtain ⟨w, hw, -⟩ := hinverts d hd m hm ref hconverter t x hx
          refine ⟨w, ?_⟩
          simp only [Member.field, hconverter, Converter.resolve, Traced.result_bind, Traced.result_lift]
          exact hw
      rw [Converter.parts_of_scalar hread]
      exact ⟨_, bind_eq_ok.mpr ⟨v, hv, rfl⟩⟩
    | object p =>
      obtain ⟨r, hr⟩ := hinside _ hx p (by simp [Datum.objects])
      rw [Converter.parts_of_object hread]
      cases hshape : m.type.shape with
      | embedded u | entity u =>
        obtain rfl : p.type = u := by simpa [hshape, Datum.fits] using hfits
        simp only [Member.field, FieldMapping.shape, hshape]
        exact ⟨_, bind_eq_ok.mpr ⟨r, hr, rfl⟩⟩
      | value | collection => simp [hshape, Datum.fits] at hfits
    | collection kind item items =>
      obtain ⟨d', hd'⟩ := declaration?_of_collection hd ho hm hx
      have hitems (p : Object) (hp : p ∈ items) : ∃ r, (c.write item p).result = .ok r := by
        have hitem : p.type = item := hproper m hm _ hx p hp
        exact hitem ▸ hinside _ hx p hp
      obtain ⟨rs, hrs⟩ := exists_forall₂ hitems
      rw [Converter.parts_of_collection hread]
      exact ⟨_, bind_eq_ok.mpr ⟨_, entity_of_schema hc hD hd', bind_eq_ok.mpr ⟨rs, mapM_eq_ok.mpr hrs, rfl⟩⟩⟩

/-- An object of a declared type is written, if the attribute converters do their part. -/
theorem exists_write (hc : c.schema = D.toSchema) (hD : D.Consistent)
    (h : D.Throughout (fun o => D.IsInstance o ∧ D.Inverts c.attributes o) o) :
    ∃ r, (c.write o.type o).result = .ok r := by
  induction h with
  | @intro o here inside ih =>
    obtain ⟨⟨d, hd, ho, hproper⟩, hinverts⟩ := here
    obtain ⟨fields, hfields⟩ : ∃ fields, List.Forall₂
        (fun f part => (c.parts o f).result = .ok part) d.entityType.fields fields := by
      refine exists_forall₂ fun f hf => ?_
      obtain ⟨m, hm, rfl⟩ := List.mem_map.mp hf
      exact exists_parts hc hD hd ho hproper hinverts hm fun x hx =>
        ih d.describe (find?_of_declaration? hd) _ hf x ((ho.read_field hm).trans hx)
    exact ⟨_, Converter.write_eq_ok.mpr ⟨_, _, entity_of_schema hc hD hd, rfl, hfields, rfl⟩⟩

/-! ## Reading -/

/-- Whether the pruned object is read from every record that reflects an object. -/
def IsRead (D : DeclaredSchema) (a : Attributes) (o : Object) : Prop :=
  ∀ r, (D.converter a).Reflects r o → ((D.converter a).read o.type r).result = .ok (D.prune o)

variable {r : Record}

/-- A scalar is read from its value. -/
theorem contribution_of_scalar (hinverts : D.Inverts c.attributes o) (hd : D.declaration? o.type = some d)
    (hm : m ∈ d.mapped) {t : ScalarType} {x : t.Carrier} (hx : o.get? m.name = some (.scalar t x))
    (hholds : t.Holds x) (hread : (m.field d.typeName).read o = some (.scalar t x)) {v : Value}
    (hv : c.Contributes o (m.field d.typeName) v) (hr : r.get? (m.field d.typeName).name = some v) :
    (c.contribution r (m.field d.typeName)).value.result = .ok (some (.scalar t x)) := by
  have hshape : (m.field d.typeName).shape = .value t := by
    have hfits := FieldMapping.fits_of_read hread
    cases hshape : (m.field d.typeName).shape <;> simp_all [Datum.fits]
  cases hv with
  | value hread' hstored =>
    rw [hread] at hread'
    cases hread'
    have hload := loadedValue_of_storedValue (fun ref href => hinverts d hd m hm ref href t x hx) hstored
    rw [Converter.contribution_of_value hshape, hr]
    exact bind_eq_ok.mpr ⟨_, hload, by rw [ScalarType.decode_encode t hholds]; rfl⟩
  | entity hread' => simp [hread] at hread'
  | collection hread' => simp [hread] at hread'

/-- An object of its own is read from its record. -/
theorem contribution_of_object {p : Object} (hnames : D.DistinctNames) (hp : D.IsInstance p) (hback : D.IsRead a p)
    {f : FieldMapping} (hread : f.read o = some (.object p)) {v : Value} (hv : (D.converter a).Contributes o f v)
    (hr : r.get? f.name = some v) :
    ((D.converter a).contribution r f).value.result = .ok (some (.object (D.prune p))) := by
  obtain ⟨d', hd', -⟩ := hp
  cases hv with
  | value hread' => simp [hread] at hread'
  | @entity u p' s hread' hshape hwritten =>
    rw [hread] at hread'
    cases hread'
    obtain rfl : p.type = u := by
      have hfits := FieldMapping.fits_of_read hread
      simpa [hshape, Datum.fits] using hfits
    rw [Converter.contribution_of_entity hshape, hr]
    exact bind_eq_ok.mpr
      ⟨_, hback s (Converter.reflects_of_write hwritten (flatNames_nodup hnames hd')), rfl⟩
  | collection hread' => simp [hread] at hread'

/-- The objects of a collection are read from their records, and put together in the way of its sort. -/
theorem contribution_of_objects (hD : D.Consistent) (hnames : D.DistinctNames) {kind : CollectionKind}
    {item : TypeName} {items : List Object} (hd : D.declaration? item = some d)
    (hitems : ∀ p ∈ items, p.type = item) (hback : ∀ p ∈ items, D.IsRead a p) {f : FieldMapping}
    (hread : f.read o = some (.collection kind item items)) {v : Value}
    (hv : (D.converter a).Contributes o f v) (hr : r.get? f.name = some v) :
    ((D.converter a).contribution r f).value.result =
      .ok (some (D.pruneDatum (.collection kind item items))) := by
  cases hv with
  | value hread' => simp [hread] at hread'
  | entity hread' => simp [hread] at hread'
  | @collection kind' item' items' t rs hread' ht hwritten =>
    rw [hread] at hread'
    cases hread'
    have ht' : t = d.entityType := Except.ok.inj (ht.symm.trans (entity_of_declaration? hD hd))
    have hshape : f.shape = .collection kind item := by
      have hfits := FieldMapping.fits_of_read hread
      cases hshape : f.shape <;> simp_all [Datum.fits]
    have hobjects :
        List.Forall₂ (fun s p => ((D.converter a).read item s).result = .ok p) rs (items.map D.prune) := by
      refine List.forall₂_map_right_iff.mpr (List.Forall₂.flip ?_)
      refine ((List.forall₂_and_left items rs).mpr ⟨fun _ hp => hp, hwritten⟩).imp fun p s hps => ?_
      have htype : p.type = item := hitems p hps.1
      rw [← htype] at hps ⊢
      exact hback p hps.1 s (Converter.reflects_of_write hps.2 (flatNames_nodup hnames (htype ▸ hd)))
    have htypes : ∀ p ∈ items.map D.prune, p.type = item := by
      intro p hp
      obtain ⟨q, hq, rfl⟩ := List.mem_map.mp hp
      exact (type_prune q).trans (hitems q hq)
    rw [Converter.contribution_some_objects rfl hshape hr rfl ht hobjects htypes, pruneDatum, pruneObjects_eq_map,
      ht', orderOf, hd]
    rfl

/-- Of an embedded object of which the record has no name nothing is read. -/
theorem contribution_of_unmentioned (hD : D.Consistent) {u : TypeName} (hd : D.declaration? u = some d)
    {f : FieldMapping} (hshape : f.shape = .embedded u) (hr : ∀ name ∈ D.flatNames u, r.get? name = none) :
    ((D.converter a).contribution r f).value.result = .ok none := by
  have hmentions : Converter.mentions D.toSchema u r = .ok false := by
    rw [Converter.mentions_of_accepts (accepts_of_declaration? hD hd)]
    refine congrArg Except.ok (List.any_eq_false.mpr fun name hname => ?_)
    simp [RecordOf.contains_eq_isSome, hr name hname]
  rw [Converter.contribution_of_embedded hshape]
  exact bind_eq_ok.mpr ⟨_, entity_of_declaration? hD hd, bind_eq_ok.mpr ⟨false, hmentions, rfl⟩⟩

/-- An embedded object of which the record has a name is read from the record. -/
theorem contribution_of_embedded_object (hD : D.Consistent) {p : Object} (hd : D.declaration? p.type = some d)
    (hp : d.HasInstance p) (hback : D.IsRead a p) {f : FieldMapping} (hshape : f.shape = .embedded p.type)
    (hr : (D.converter a).Reflects r p) (hpopulated : D.populated p ≠ []) :
    ((D.converter a).contribution r f).value.result = .ok (some (.object (D.prune p))) := by
  have hmentions : Converter.mentions D.toSchema p.type r = .ok true := by
    rw [Converter.mentions_of_accepts (accepts_of_declaration? hD hd)]
    obtain ⟨x, hx⟩ := List.exists_mem_of_ne_nil _ hpopulated
    obtain ⟨v, -, hv⟩ := hr.populated x hx
    have hname : x.1.name ∈ D.flatNames p.type :=
      (D.populated_sublist p).subset (List.mem_map_of_mem hx)
    exact congrArg Except.ok (List.any_eq_true.mpr ⟨_, hname, by simp [RecordOf.contains_eq_isSome, hv]⟩)
  have hall : (d.entityType.fields.all fun g => g.isNull (D.prune p)) = false := by
    simpa [List.all_eq_false] using exists_isNull_prune hd hp hpopulated
  rw [Converter.contribution_of_embedded hshape]
  refine bind_eq_ok.mpr ⟨_, entity_of_declaration? hD hd, bind_eq_ok.mpr ⟨true, hmentions, ?_⟩⟩
  refine bind_eq_ok.mpr ⟨_, hback r hr, ?_⟩
  rw [hall]
  rfl

/-- What a record that reflects an object has of a member that holds something or nothing. Of an embedded object it has
the fields, and of anything else the value. -/
inductive MemberReflects (D : DeclaredSchema) (c : Converter) (r : Record) (o : Object) (d : Declaration) (m : Member) :
    Option Datum → Prop
  | empty (embeds : (m.field d.typeName).embeds? = none) (absent : r.get? (m.field d.typeName).name = none) :
      MemberReflects D c r o d m none
  | stored {x : Datum} {v : Value} (embeds : (m.field d.typeName).embeds? = none)
      (read : (m.field d.typeName).read o = some x) (value : c.Contributes o (m.field d.typeName) v)
      (held : r.get? (m.field d.typeName).name = some v) : MemberReflects D c r o d m (some x)
  | unmentioned {u : TypeName} {e : Declaration} (shape : m.type.shape = .embedded u)
      (declared : D.declaration? u = some e) (absent : ∀ name ∈ D.flatNames u, r.get? name = none) :
      MemberReflects D c r o d m none
  | embedded {p : Object} (shape : m.type.shape = .embedded p.type) (reflects : c.Reflects r p) :
      MemberReflects D c r o d m (some (.object p))

/-- A record that reflects an object reflects its members. -/
theorem memberReflects (hc : c.schema = D.toSchema) (hD : D.Consistent) (hnames : D.DistinctNames)
    (hd : D.declaration? o.type = some d) (ho : d.HasInstance o) (hr : c.Reflects r o) (hm : m ∈ d.mapped) :
    D.MemberReflects c r o d m (o.get? m.name) := by
  have ht := entity_of_schema hc hD hd
  have hf : m.field d.typeName ∈ d.entityType.fields := List.mem_map_of_mem hm
  have hread := ho.read_field hm
  have hnodup : (c.schema.flatNames o.type).Nodup := hc ▸ flatNames_nodup hnames hd
  cases hembeds : (m.field d.typeName).embeds? with
  | none =>
    cases hx : o.get? m.name with
    | none =>
      exact .empty hembeds (hr.get?_of_none ht hnodup hf (hread.trans hx) (by simp [Schema.namesOf, hembeds]))
    | some x =>
      rw [hx] at hread
      obtain ⟨v, hv, hget⟩ := hr.exists_of_read ht hf hread hembeds
      exact .stored hembeds hread hv hget
  | some u =>
    have hshape : m.type.shape = .embedded u := FieldMapping.embeds?_eq_some_iff.mp hembeds
    cases hx : o.get? m.name with
    | none =>
      obtain ⟨e, he⟩ := declaration?_of_target hd hm (u := u) (by rw [hshape]; rfl)
      refine .unmentioned hshape he fun name hname => ?_
      refine hr.get?_of_none ht hnodup hf (hread.trans hx) ?_
      rw [Schema.namesOf, hembeds, hc]
      exact hname
    | some x =>
      rw [hx] at hread
      obtain ⟨p, rfl, rfl⟩ := FieldMapping.exists_of_embeds? hembeds hread
      -- the record of the owner is a record of the embedded object, too
      exact .embedded hshape (hr.embedded ht hnodup hf hread hembeds)

/-- What a record that reflects an object says about a mapped member is what the pruned object holds there. -/
theorem contribution_of_reflects (hD : D.Consistent) (hnames : D.DistinctNames)
    (hd : D.declaration? o.type = some d) (ho : d.HasInstance o)
    (hproper : ∀ m ∈ d.mapped, ∀ x, o.get? m.name = some x → x.Proper) (hfills : D.FillsEmbedded o)
    (hinverts : D.Inverts a o) (hr : (D.converter a).Reflects r o) (hm : m ∈ d.mapped)
    (hinside : ∀ x, o.get? m.name = some x → ∀ p ∈ x.objects, D.IsInstance p ∧ D.IsRead a p) :
    ((D.converter a).contribution r (m.field d.typeName)).value.result = .ok ((D.prune o).get? m.name) := by
  rw [get?_prune_of_mapped hd hm]
  have hreflects := memberReflects rfl hD hnames hd ho hr hm
  generalize hx : o.get? m.name = held at hreflects ⊢
  cases hreflects with
  | empty hembeds habsent => exact Converter.contribution_of_get?_none hembeds habsent
  | @stored x v hembeds hread hv hget =>
    cases x with
    | scalar t x => exact contribution_of_scalar hinverts hd hm hx (hproper m hm _ hx) hread hv hget
    | object p =>
      obtain ⟨hp, hback⟩ := hinside _ hx p (by simp [Datum.objects])
      -- an object of its own is kept, whatever is stored of it
      have hdrop : D.isDropped m (.object p) = false := by
        have hne : m.type.shape ≠ .embedded p.type := fun hshape => by
          simp [Member.field, FieldMapping.embeds?, FieldMapping.shape, hshape] at hembeds
        simp [isDropped, hne]
      rw [Option.bind_some, hdrop]
      exact contribution_of_object hnames hp hback hread hv hget
    | collection kind item items =>
      obtain ⟨d', hd'⟩ := declaration?_of_collection hd ho hm hx
      exact contribution_of_objects hD hnames hd' (hproper m hm _ hx)
        (fun p hp => (hinside _ hx p hp).2) hread hv hget
  | unmentioned hshape hd' habsent => exact contribution_of_unmentioned hD hd' hshape habsent
  | @embedded p hshape hrp =>
    obtain ⟨⟨e, he, hp, -⟩, hback⟩ := hinside _ hx p (by simp [Datum.objects])
    by_cases hpopulated : D.populated p = []
    -- nothing is stored of the object: it is taken out, and its names are not in the record
    · have hmay : m.mayBeEmpty = true := by
        cases hmay : m.mayBeEmpty with
        | true => rfl
        | false => exact absurd hpopulated (hfills d hd m hm hmay _ p hshape hx)
      have hdrop : D.isDropped m (.object p) = true := by simp [isDropped, hmay, hshape, hpopulated]
      rw [Option.bind_some, hdrop]
      refine contribution_of_unmentioned hD he hshape fun name hname => hrp.empty name hname ?_
      show name ∉ (D.populated p).map _
      simp [hpopulated]
    · have hdrop : D.isDropped m (.object p) = false := by simp [isDropped, hpopulated]
      rw [Option.bind_some, hdrop]
      exact contribution_of_embedded_object hD he hp hback hshape hrp hpopulated

/-- The pruned object is read from every record that reflects an object. -/
theorem isRead_of_throughout (hD : D.Consistent) (hnames : D.DistinctNames) (hstarts : D.StartsEmpty)
    (h : D.Throughout (D.Restorable a) o) : D.IsInstance o ∧ D.IsRead a o := by
  induction h with
  | @intro o here inside ih =>
    refine ⟨here.isInstance, fun r hr => ?_⟩
    obtain ⟨d, hd, ho, hproper⟩ := here.isInstance
    have hmem := mem_of_declaration? hd
    have hprune := hasInstance_prune hd ho
    -- it is the pruned object that is built: the record says what its members hold
    have hsaid : d.Says ((D.converter a).contribution r) d.mapped fun m => (D.prune o).get? m.name := fun m hm =>
      contribution_of_reflects hD hnames hd ho hproper here.fills here.inverts hr hm fun x hx =>
        ih d.describe (find?_of_declaration? hd) _ (List.mem_map_of_mem hm) x ((ho.read_field hm).trans hx)
    have hfills : d.Fills ((D.converter a).contribution r) :=
      ⟨fun _ => rfl, fun m hm x hx => hprune.fits m hm x (Except.ok.inj ((hsaid m hm).symm.trans hx))⟩
    rw [Converter.read_eq (entity_of_schema rfl hD hd)]
    refine (Declaration.instantiate_eq_ok_iff (D.nodup_members d hmem) (D.start_eq d hmem) hfills).mpr
      ⟨_, hsaid, fun m hm hdemands => hprune.present m hm (Declaration.mayBeEmpty_of_demands hdemands), ?_⟩
    refine (Declaration.objectOf_get? (D.nodup_members d hmem) hprune (fun m hm hmapped => ?_)
      (hstarts d hmem)).symm
    rw [get?_prune_of_not_mapped hd hm hmapped]
    exact here.skips d hd m hm hmapped

/-! ## Both together -/

/-- **An object that is written to a record comes back from it pruned.** -/
theorem read_write_eq_prune (D : DeclaredSchema) (a : Attributes) (o : Object) (hD : D.Consistent)
    (hnames : D.DistinctNames) (hstarts : D.StartsEmpty) (ho : D.Throughout (D.Restorable a) o) :
    ∃ r, ((D.converter a).write o.type o).result = .ok r ∧
      ((D.converter a).read o.type r).result = .ok (D.prune o) := by
  obtain ⟨r, hr⟩ := exists_write (c := D.converter a) rfl hD (ho.imp fun _ h => ⟨h.isInstance, h.inverts⟩)
  obtain ⟨⟨d, hd, -⟩, hback⟩ := isRead_of_throughout hD hnames hstarts ho
  exact ⟨r, hr, hback r (Converter.reflects_of_write hr (flatNames_nodup hnames hd))⟩

/-! ## Pages and notes -/

/-- Stores a truth value as a word. -/
def yesNo : ConverterRef where
  name := "YesNo"
  fresh :=
    { toRecord := fun
        | .boolean b => .ok (.text (if b then "yes" else "no"))
        | _ => .error (.typeMismatch (.other "no truth value"))
      toEntity := fun
        | .text s => .ok (.boolean (s = "yes"))
        | _ => .error (.typeMismatch (.other "no word")) }

/-- A note that may be without text. -/
def noteDeclaration : Declaration where
  name := "Note"
  typeName := "Note"
  embeddable := true
  recordName := none
  members := [.optional "text" "Option<String>" ⟨"String", .value .text⟩]
  start := some ⟨"Note", [("text", none)]⟩
  order _ _ := .eq

/-- A page with a note, and with links to other pages. -/
def pageDeclaration : Declaration where
  name := "Page"
  typeName := "Page"
  embeddable := false
  recordName := some "pages"
  members :=
    [.required "title" "String" ⟨"String", .value .text⟩,
      (Member.required "done" "bool" ⟨"bool", .value .boolean⟩).via yesNo,
      .optional "note" "Option<Note>" ⟨"Note", .embedded "Note"⟩,
      .required "links" "BTreeSet<Page>" ⟨"BTreeSet<Page>", .collection .sortedSet "Page"⟩,
      (Member.required "cache" "i64" ⟨"i64", .value .int64⟩).skip (some (.scalar .int64 0))]
  start := none
  order o p :=
    match o.get? "title", p.get? "title" with
    | some (.scalar .text s), some (.scalar .text t) => compare s t
    | _, _ => .eq

/-- Pages and notes. -/
def pages : DeclaredSchema where
  types := [noteDeclaration, pageDeclaration].map Declaration.describe
  depth u := if u = "Page" then 1 else 0
  depth_lt := by decide
  declarations := [noteDeclaration, pageDeclaration]
  types_eq := rfl
  nodup_members := by decide
  exists_target := by decide
  start_eq := by decide

/-- A note, with a text if there is one. -/
def note (text : Option String) : Object := ⟨"Note", [("text", text.map (.scalar .text))]⟩

/-- A page, with a note if there is one. -/
def page (title : String) (note : Option Object) (links : List Object) : Object :=
  ⟨"Page", [("title", some (.scalar .text title)), ("done", some (.scalar .boolean true)),
    ("note", note.map .object), ("links", some (.collection .sortedSet "Page" links)),
    ("cache", some (.scalar .int64 0))]⟩

theorem consistent_pages : pages.Consistent := by
  unfold Consistent
  decide

theorem distinctNames_pages : pages.DistinctNames := by
  intro d hd
  have hnote : pages.flatNames "Note" = ["text"] := by cbv
  have hpage : pages.flatNames "Page" = ["title", "done", "text", "links"] := by cbv
  rcases List.mem_pair.mp hd with rfl | rfl
  · simp [noteDeclaration, hnote]
  · simp [pageDeclaration, hpage]

theorem startsEmpty_pages : pages.StartsEmpty := by
  unfold StartsEmpty
  decide

theorem mem_mapped_page {m : Member} (hm : m ∈ pageDeclaration.mapped) :
    m = .required "title" "String" ⟨"String", .value .text⟩ ∨
      m = (Member.required "done" "bool" ⟨"bool", .value .boolean⟩).via yesNo ∨
      m = .optional "note" "Option<Note>" ⟨"Note", .embedded "Note"⟩ ∨
      m = .required "links" "BTreeSet<Page>" ⟨"BTreeSet<Page>", .collection .sortedSet "Page"⟩ := by
  have hmapped : pageDeclaration.mapped = pageDeclaration.members.take 4 := rfl
  rw [hmapped] at hm
  simpa [pageDeclaration] using hm

theorem hasInstance_note (text : Option String) : noteDeclaration.HasInstance (note text) where
  type := rfl
  slots := rfl
  fits m hm x hx := by
    obtain rfl := List.mem_singleton.mp (show m ∈ noteDeclaration.members from hm)
    cases text with
    | none => cases hx
    | some s =>
      cases hx
      rfl
  present m hm hmay := by
    obtain rfl := List.mem_singleton.mp (show m ∈ noteDeclaration.members from hm)
    cases hmay

theorem hasInstance_page (title : String) (text : Option (Option String)) (links : List Object) :
    pageDeclaration.HasInstance (page title (text.map note) links) where
  type := rfl
  slots := rfl
  fits m hm x hx := by
    rcases mem_mapped_page hm with rfl | rfl | rfl | rfl
    · cases hx
      rfl
    · cases hx
      rfl
    · cases text with
      | none => cases hx
      | some text =>
        cases hx
        rfl
    · cases hx
      rfl
  present m hm hmay := by
    rcases mem_mapped_page hm with rfl | rfl | rfl | rfl
    · rfl
    · rfl
    · cases hmay
    · rfl

theorem restorableMember_text {D : DeclaredSchema} {a : Attributes} {m : Member} (hconverter : m.converter = none)
    (s : String) : D.RestorableMember a m (.scalar .text s) where
  proper := trivial
  fills _ _ _ _ h := by cases h
  inverts ref href := by simp [hconverter] at href
  inside p hp := by simp [Datum.objects] at hp

theorem throughout_note (a : Attributes) (text : Option String) :
    pages.Throughout (pages.Restorable a) (note text) := by
  refine throughout_of_members (d := noteDeclaration) rfl (hasInstance_note text) ?_ fun m hm x hx => ?_
  · intro m hm hmapped
    obtain rfl := List.mem_singleton.mp hm
    cases hmapped
  · obtain rfl := List.mem_singleton.mp (show m ∈ noteDeclaration.members from hm)
    cases text with
    | none => cases hx
    | some s =>
      cases hx
      exact restorableMember_text rfl s

theorem throughout_page (title : String) (text : Option (Option String)) {links : List Object}
    (hlinks : ∀ p ∈ links, p.type = "Page" ∧ pages.Throughout (pages.Restorable .empty) p) :
    pages.Throughout (pages.Restorable .empty) (page title (text.map note) links) := by
  refine throughout_of_members (d := pageDeclaration) rfl (hasInstance_page title text links) ?_ fun m hm x hx => ?_
  · intro m hm hmapped
    simp only [pageDeclaration, List.mem_cons, List.not_mem_nil, or_false] at hm
    rcases hm with rfl | rfl | rfl | rfl | rfl
    · cases hmapped
    · cases hmapped
    · cases hmapped
    · cases hmapped
    · rfl
  · rcases mem_mapped_page hm with rfl | rfl | rfl | rfl
    · cases hx
      exact restorableMember_text rfl title
    · cases hx
      refine ⟨trivial, fun _ _ _ h => (nomatch h), fun ref href t y hy => ?_, fun p hp => (nomatch hp)⟩
      cases hy
      cases href
      exact ⟨.text "yes", rfl, rfl⟩
    · cases text with
      | none => cases hx
      | some text =>
        cases hx
        refine ⟨trivial, fun h => (nomatch h), fun _ h => (nomatch h), fun p hp => ?_⟩
        obtain rfl := List.mem_singleton.mp hp
        exact throughout_note _ text
    · cases hx
      exact ⟨fun p hp => (hlinks p hp).1, fun _ _ _ h => (nomatch h), fun _ h => (nomatch h),
        fun p hp => (hlinks p hp).2⟩

/-- A page that links to two others: notes without text are taken out. -/
theorem read_write_page :
    ∃ r, ((pages.converter .empty).write "Page" (page "a" (some (note none))
        [page "b" (some (note none)) [], page "c" (some (note (some "x"))) []])).result = .ok r ∧
      ((pages.converter .empty).read "Page" r).result =
        .ok (page "a" none [page "b" none [], page "c" (some (note (some "x"))) []]) := by
  have hlink (title : String) (text : Option String) : (page title (some (note text)) []).type = "Page" ∧
      pages.Throughout (pages.Restorable .empty) (page title (some (note text)) []) :=
    ⟨rfl, throughout_page title (some text) (by simp)⟩
  have hprune : pages.prune (page "a" (some (note none))
      [page "b" (some (note none)) [], page "c" (some (note (some "x"))) []]) =
        page "a" none [page "b" none [], page "c" (some (note (some "x"))) []] := by cbv
  rw [← hprune]
  refine read_write_eq_prune pages .empty _ consistent_pages distinctNames_pages startsEmpty_pages
    (throughout_page "a" (some none) ?_)
  simp only [List.mem_cons, List.not_mem_nil, or_false, forall_eq_or_imp, forall_eq]
  exact ⟨hlink _ _, hlink _ _⟩

/-! ## Names of embedded fields -/

/-- A type with a label that is stored under the name of an embedded member. -/
def labelledDeclaration : Declaration where
  name := "Labelled"
  typeName := "Labelled"
  embeddable := false
  recordName := none
  members :=
    [.optional "note" "Option<Note>" ⟨"Note", .embedded "Note"⟩,
      (Member.optional "label" "Option<String>" ⟨"String", .value .text⟩).named "note"]
  start := none
  order _ _ := .eq

/-- Labelled objects and notes. -/
def labels : DeclaredSchema where
  types := [noteDeclaration, labelledDeclaration].map Declaration.describe
  depth u := if u = "Labelled" then 1 else 0
  depth_lt := by decide
  declarations := [noteDeclaration, labelledDeclaration]
  types_eq := rfl
  nodup_members := by decide
  exists_target := by decide
  start_eq := by decide

/-- An object with a label. -/
def labelled (label : String) : Object :=
  ⟨"Labelled", [("note", none), ("label", some (.scalar .text label))]⟩

theorem mem_mapped_labelled {m : Member} (hm : m ∈ labelledDeclaration.mapped) :
    m = .optional "note" "Option<Note>" ⟨"Note", .embedded "Note"⟩ ∨
      m = (Member.optional "label" "Option<String>" ⟨"String", .value .text⟩).named "note" :=
  List.mem_pair.mp (show m ∈ labelledDeclaration.members from hm)

theorem throughout_labelled (label : String) : labels.Throughout (labels.Restorable .empty) (labelled label) := by
  have ho : labelledDeclaration.HasInstance (labelled label) := by
    refine ⟨rfl, rfl, fun m hm x hx => ?_, fun m hm hmay => ?_⟩
    · rcases mem_mapped_labelled hm with rfl | rfl
      · cases hx
      · cases hx
        rfl
    · rcases mem_mapped_labelled hm with rfl | rfl <;> cases hmay
  refine throughout_of_members (d := labelledDeclaration) rfl ho (fun m hm hmapped => ?_) fun m hm x hx => ?_
  · rcases List.mem_pair.mp hm with rfl | rfl <;> cases hmapped
  · rcases mem_mapped_labelled hm with rfl | rfl
    · cases hx
    · cases hx
      exact restorableMember_text rfl label

theorem distinctNames_labels : labels.DistinctNames := by
  intro d hd
  have hnote : labels.flatNames "Note" = ["text"] := by cbv
  have hlabelled : labels.flatNames "Labelled" = ["text", "note"] := by cbv
  rcases List.mem_pair.mp hd with rfl | rfl
  · simp [noteDeclaration, hnote]
  · simp [labelledDeclaration, hlabelled]

/-- An object is not written whose type stores a field under the name of an embedded member, although the name of
the embedded member stands in no record. -/
theorem write_refuses_labelled :
    labels.DistinctNames ∧ labels.StartsEmpty ∧ labels.Throughout (labels.Restorable .empty) (labelled "x") ∧
      ((labels.converter .empty).write "Labelled" (labelled "x")).result =
        .error (.invalidArgument (.repeatedName "Labelled" "note")) := by
  refine ⟨distinctNames_labels, ?_, throughout_labelled "x", by cbv⟩
  unfold StartsEmpty
  decide

end DeclaredSchema
end EntityMapping
