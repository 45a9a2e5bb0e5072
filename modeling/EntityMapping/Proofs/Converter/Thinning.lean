import EntityMapping.Proofs.Converter.Levels

/-!
# Thinned objects

An object that was read without strict mode has all embedded objects, also those of which the record has no name. When
it is *thinned*, these are taken out, at every level: an object inside is looked at together with the record from which
it was read. What was not read from a record is left as it is.

* `Converter.sources` — the records from which the objects in a member were read
* `DeclaredSchema.thin` — the thinned object
* `DeclaredSchema.get?_thin_of_mapped` — what its members hold
-/

namespace EntityMapping

namespace Converter

/-- The records from which the objects in a member are read, in order. -/
def sources (r : Record) (f : FieldMapping) : List Record :=
  match f.shape, r.get? f.name with
  | .embedded _, _ => [r]
  | .entity _, some (.record s) => [s]
  | .collection .., some v => (nestedRecords f v).toOption.getD []
  | _, _ => []

variable {r s : Record} {f : FieldMapping} {u : TypeName}

theorem sources_of_embedded (h : f.shape = .embedded u) : sources r f = [r] := by
  unfold sources
  rw [h]

theorem sources_of_entity (h : f.shape = .entity u) (hr : r.get? f.name = some (.record s)) : sources r f = [s] := by
  unfold sources
  rw [h, hr]

theorem sources_of_collection {kind : CollectionKind} {v : Value} {rs : List Record} (h : f.shape = .collection kind u)
    (hr : r.get? f.name = some v) (hrs : nestedRecords f v = .ok rs) : sources r f = rs := by
  unfold sources
  rw [h, hr]
  dsimp only
  rw [hrs]
  rfl

/-- Nothing is read from a record that does not have the name of a field, unless the field is embedded. -/
theorem sources_of_get?_none (h : f.embeds? = none) (hr : r.get? f.name = none) : sources r f = [] := by
  unfold sources
  rw [hr]
  cases hshape : f.shape with
  | embedded u => simp [FieldMapping.embeds?_of_shape hshape] at h
  | value | entity | collection => rfl

end Converter

namespace DeclaredSchema

/-- Whether a member is embedded and the record has no name of it. -/
def isUnmentioned (D : DeclaredSchema) (r : Record) (m : Member) : Bool :=
  match m.type.shape with
  | .embedded u => !(D.flatNames u).any r.contains
  | _ => false

mutual

/-- A thinned object, read from a record. -/
def thinObject (D : DeclaredSchema) (r : Record) : ObjectOf Datum → ObjectOf Datum
  | ⟨type, slots⟩ => ⟨type, thinSlots D r type slots⟩

/-- The slots of a thinned object. Members that are not mapped are left alone. -/
def thinSlots (D : DeclaredSchema) (r : Record) (type : TypeName) :
    List (String × Option Datum) → List (String × Option Datum)
  | [] => []
  | (name, none) :: slots => (name, none) :: thinSlots D r type slots
  | (name, some x) :: slots =>
    (name, match D.member? type name with
      | some m => if D.isUnmentioned r m then none else some (thinDatum D (Converter.sources r (m.field type)) x)
      | none => some x) :: thinSlots D r type slots

/-- What a member holds, with the objects inside thinned. -/
def thinDatum (D : DeclaredSchema) (rs : List Record) : Datum → Datum
  | .scalar t x => .scalar t x
  | .object o =>
    match rs with
    | r :: _ => .object (thinObject D r o)
    | [] => .object o
  | .collection kind item items => .collection kind item (thinObjects D rs items)

/-- Thinned objects, each read from a record of its own. -/
def thinObjects (D : DeclaredSchema) (rs : List Record) : List (ObjectOf Datum) → List (ObjectOf Datum)
  | [] => []
  | o :: os =>
    match rs with
    | r :: rs => thinObject D r o :: thinObjects D rs os
    | [] => o :: os

end

/-- **A thinned object, read from a record: embedded objects of which there is no name in the record that they were read
from are taken out, at every level.** -/
def thin (D : DeclaredSchema) (r : Record) (o : Object) : Object := thinObject D r o

variable {D : DeclaredSchema}

@[simp] theorem type_thin (r : Record) (o : Object) : (D.thin r o).type = o.type := by
  cases o
  rfl

/-- What was not read from a record is left as it is. -/
@[simp] theorem thinDatum_nil (x : Datum) : D.thinDatum [] x = x := by
  cases x with
  | scalar | object => rfl
  | collection kind item items => cases items <;> rfl

@[simp] theorem thinDatum_object (r : Record) (rs : List Record) (o : Object) :
    D.thinDatum (r :: rs) (.object o) = .object (D.thin r o) := rfl

theorem thinDatum_of_fits_value {rs : List Record} {x : Datum} {t : ScalarType} (h : x.fits (.value t) = true) :
    D.thinDatum rs x = x := by
  cases x with
  | scalar => rfl
  | object | collection => simp [Datum.fits] at h

@[simp] theorem thinDatum_collection (rs : List Record) (kind : CollectionKind) (item : TypeName)
    (items : List Object) :
    D.thinDatum rs (.collection kind item items) = .collection kind item (thinObjects D rs items) := rfl

/-- Objects that were read from as many records are thinned one by one. -/
theorem forall₂_thinObjects {R : Record → Object → Prop} {rs : List Record} {os : List Object}
    (h : List.Forall₂ (fun r o => R r (D.thin r o)) rs os) : List.Forall₂ R rs (thinObjects D rs os) := by
  induction h with
  | nil => exact .nil
  | cons ho _ ih => exact .cons ho ih

/-! ## Slots -/

/-- What is left of something in a slot. -/
def thinSlot (D : DeclaredSchema) (r : Record) (type : TypeName) (name : String) (x : Datum) : Option Datum :=
  match D.member? type name with
  | some m => if D.isUnmentioned r m then none else some (D.thinDatum (Converter.sources r (m.field type)) x)
  | none => some x

theorem thinSlots_eq_map (r : Record) (type : TypeName) (slots : List (String × Option Datum)) :
    thinSlots D r type slots = slots.map fun s => (s.1, s.2.bind (D.thinSlot r type s.1)) := by
  induction slots with
  | nil => rfl
  | cons s slots ih =>
    obtain ⟨name, x⟩ := s
    cases x with
    | none => rw [thinSlots, ih, List.map_cons, Option.bind_none]
    | some x => rw [thinSlots, ih, List.map_cons, Option.bind_some, thinSlot]

theorem slots_thin (r : Record) (o : Object) :
    (D.thin r o).slots = o.slots.map fun s => (s.1, s.2.bind (D.thinSlot r o.type s.1)) := by
  cases o
  exact thinSlots_eq_map _ _ _

theorem names_thin (r : Record) (o : Object) : (D.thin r o).slots.map Prod.fst = o.slots.map Prod.fst := by
  rw [slots_thin, List.map_map]
  rfl

theorem get?_thin (r : Record) (o : Object) (name : String) :
    (D.thin r o).get? name = (o.get? name).bind (D.thinSlot r o.type name) :=
  get?_of_slots_eq (slots_thin r o) name

/-! ## Members -/

/-- What is left in a member of an object that was read from a record. -/
def thinMember (D : DeclaredSchema) (r : Record) (type : TypeName) (m : Member) (x : Datum) : Option Datum :=
  if D.isUnmentioned r m then none else some (D.thinDatum (Converter.sources r (m.field type)) x)

variable {d : Declaration} {o : Object} {m : Member}

/-- What a mapped member of a thinned object holds. -/
theorem get?_thin_of_mapped (r : Record) (h : D.declaration? o.type = some d) (hm : m ∈ d.mapped) :
    (D.thin r o).get? m.name = (o.get? m.name).bind (D.thinMember r o.type m) := by
  rw [get?_thin]
  congr 1
  funext x
  rw [thinSlot, member?_of_mapped h hm, thinMember]

theorem get?_thin_of_not_mapped (r : Record) (h : D.declaration? o.type = some d) (hm : m ∈ d.members)
    (hmapped : m.isMapped = false) : (D.thin r o).get? m.name = o.get? m.name := by
  rw [get?_thin]
  have hkeep (x : Datum) : D.thinSlot r o.type m.name x = some x := by
    rw [thinSlot, member?_of_not_mapped h hm hmapped]
  cases o.get? m.name with
  | none => rfl
  | some x => exact hkeep x

theorem presence_of_isUnmentioned {r : Record} (hunmentioned : D.isUnmentioned r m = true)
    (hoptional : ∀ u, m.type.shape = .embedded u → m.presence = .optional) : m.presence = .optional := by
  unfold isUnmentioned at hunmentioned
  split at hunmentioned
  · next u hshape => exact hoptional u hshape
  · cases hunmentioned

/-- A member that is not embedded is kept. -/
theorem thinMember_of_not_embedded {r : Record} {type : TypeName} (h : (m.field type).embeds? = none) (x : Datum) :
    D.thinMember r type m x = some (D.thinDatum (Converter.sources r (m.field type)) x) := by
  have hunmentioned : D.isUnmentioned r m = false := by
    unfold isUnmentioned
    split
    · next u hu => exact absurd hu (shape_ne_embedded h u)
    · rfl
  rw [thinMember, hunmentioned]
  rfl

/-- What the record gives nothing for is left as it is. -/
theorem thinMember_of_not_gives {r : Record} {type : TypeName} (h : D.gives false r (m.field type) = false)
    (x : Datum) : D.thinMember r type m x = some x := by
  unfold Schema.gives at h
  split at h
  · cases h
  · next hembeds =>
    have hname : r.get? (m.field type).name = none := by simpa [RecordOf.contains_eq_isSome] using h
    rw [thinMember_of_not_embedded hembeds, Converter.sources_of_get?_none hembeds hname, thinDatum_nil]

/-- An object that was built from what a record says is thinned by thinning what the record says. -/
theorem thin_objectOf {r : Record} {type : TypeName} {value : Member → Option Datum} (hd : D.declaration? type = some d)
    (hoptional : ∀ m ∈ d.mapped, ∀ u, m.type.shape = .embedded u → m.presence = .optional)
    (hstart : ∀ s, d.start = some s → ∀ m ∈ d.mapped, m.presence = .optional → s.get? m.name = none)
    (hvalue : ∀ m ∈ d.mapped, (value m).isSome = D.gives false r (m.field type)) :
    D.thin r (d.objectOf value) = d.objectOf fun m => (value m).bind (D.thinMember r type m) := by
  have hnodup := D.nodup_members d (mem_of_declaration? hd)
  obtain rfl := typeName_of_declaration? hd
  refine ObjectOf.ext_get? (type_thin r _) ?_ ?_ fun name hname => ?_
  · rw [names_thin, Declaration.names_objectOf, Declaration.names_objectOf]
  · rwa [names_thin, Declaration.names_objectOf]
  rw [names_thin, Declaration.names_objectOf] at hname
  obtain ⟨m, hm, rfl⟩ := List.mem_map.mp hname
  rw [Declaration.get?_objectOf hnodup hm]
  cases hmapped : m.isMapped with
  | false =>
    rw [get?_thin_of_not_mapped r (o := d.objectOf value) hd hm hmapped, Declaration.get?_objectOf hnodup hm]
    exact Declaration.held_of_not_mapped _ _ hmapped
  | true =>
    have hmem : m ∈ d.mapped := List.mem_filter.mpr ⟨hm, hmapped⟩
    rw [get?_thin_of_mapped r (o := d.objectOf value) hd hmem, Declaration.get?_objectOf hnodup hm]
    show (d.held value m).bind (D.thinMember r d.typeName m) = _
    cases hx : value m with
    | none =>
      have hgives : D.gives false r (m.field d.typeName) = false := by
        rw [← hvalue m hmem, hx]
        rfl
      have hsame : d.held (fun m => (value m).bind (D.thinMember r d.typeName m)) m = d.held value m :=
        Declaration.held_congr (by simp [hx])
      rw [hsame]
      cases d.held value m with
      | none => rfl
      | some x => exact thinMember_of_not_gives hgives x
    | some x =>
      rw [Declaration.held_of_some hmapped hx, Option.bind_some]
      cases hthin : D.thinMember r d.typeName m x with
      | some y => exact (Declaration.held_of_some hmapped (by simp [hx, hthin])).symm
      | none =>
        -- what is taken out is optional, so nothing is left
        have hunmentioned : D.isUnmentioned r m = true := by
          by_contra hmentioned
          simp [thinMember, hmentioned] at hthin
        have hpresence := presence_of_isUnmentioned hunmentioned (hoptional m hmem)
        rw [Declaration.held_of_optional hpresence fun s hs => hstart s hs m hmem hpresence, hx, Option.bind_some,
          hthin]

end DeclaredSchema
end EntityMapping
