import EntityMapping.Converter.Reading
import EntityMapping.Proofs.Traced
import Mathlib.Data.List.Flatten
import Mathlib.Data.List.Nodup
import Mathlib.Data.List.Pairwise

/-!
# Flattened names

The fields of embedded objects are stored among those of their owner, so the names under which a type stores its
objects are those of its own fields together with those of the types that it embeds, at any depth.

* `Schema.flatNames` — all these names, in order
* `Schema.populated` — the fields that an object stores something under, in the same order
* `Converter.mentions_of_accepts` — the search for these names in a record
-/

namespace EntityMapping

/-! ## Entity types -/

/-- An entity type is its description, with the way in which objects come into being. -/
theorem TypeDescription.eq_of_build {d : TypeDescription} {t : EntityType} (h : d.build = .ok t) :
    d.creation = some t.creation ∧
      t = ⟨d.name, d.typeName, d.embeddable, d.fields, t.creation, d.order⟩ := by
  unfold build at h
  dsimp only at h
  split at h
  · simp at h
  · split at h
    · simp at h
    · split at h
      · simp at h
      · next creation hcreation =>
        split at h
        · simp at h
        · injection h with h
          subst h
          exact ⟨hcreation, rfl⟩

namespace FieldMapping

theorem embeds?_eq_some_iff {f : FieldMapping} {u : TypeName} :
    f.embeds? = some u ↔ f.shape = .embedded u := by
  unfold embeds?
  split <;> simp_all

theorem fits_of_read {f : FieldMapping} {o : Object} {x : Datum} (h : f.read o = some x) :
    x.fits f.shape = true := by
  unfold read at h
  split at h
  · exact (Option.filter_eq_some_iff.mp h).2
  · simp at h

/-- An embedded member holds an object of the type that it embeds. -/
theorem exists_of_embeds? {f : FieldMapping} {u : TypeName} {o : Object} {x : Datum} (hu : f.embeds? = some u)
    (h : f.read o = some x) : ∃ p, x = .object p ∧ p.type = u := by
  have hfits := fits_of_read h
  rw [embeds?_eq_some_iff.mp hu] at hfits
  cases x with
  | object p => exact ⟨p, rfl, by simpa [Datum.fits] using hfits⟩
  | scalar | collection => simp [Datum.fits] at hfits

/-- What holds no object does not embed any. -/
theorem embeds?_of_read {f : FieldMapping} {o : Object} {x : Datum} (h : f.read o = some x)
    (hx : ∀ p, x ≠ .object p) : f.embeds? = none := by
  cases hu : f.embeds? with
  | none => rfl
  | some u =>
    obtain ⟨p, hp, -⟩ := exists_of_embeds? hu h
    exact absurd hp (hx p)

end FieldMapping

namespace Schema

variable {S : Schema} {type : TypeName}

theorem typeName_of_find? {d : TypeDescription} (h : S.find? type = some d) : d.typeName = type := by
  simpa using List.find?_some h

/-- An entity type is made from the description of its name. -/
theorem find?_of_entity {t : EntityType} (h : S.entity type = .ok t) :
    ∃ d, S.find? type = some d ∧ d.build = .ok t := by
  unfold entity at h
  split at h
  · next d hd => exact ⟨d, hd, h⟩
  · simp at h

/-- The fields of an entity type are described in the schema. -/
theorem exists_mem_types_of_mem_fields {t : EntityType} (ht : S.entity type = .ok t) {f : FieldMapping}
    (hf : f ∈ t.fields) : ∃ d ∈ S.types, f ∈ d.fields := by
  obtain ⟨d, hd, hbuild⟩ := find?_of_entity ht
  exact ⟨d, List.mem_of_find?_eq_some hd, TypeDescription.fields_of_build hbuild ▸ hf⟩

theorem entity_of_find? {d : TypeDescription} (h : S.find? type = some d) : S.entity type = d.build := by
  rw [entity, h]

/-- Whether the descriptions of a type and of all types that it embeds are consistent. -/
inductive Accepts (S : Schema) : TypeName → Prop
  | intro {type : TypeName} {t : EntityType} (entity : S.entity type = .ok t)
      (embedded : ∀ f ∈ t.fields, ∀ u, f.embeds? = some u → Accepts S u) : Accepts S type

/-- What an accepted type embeds is accepted. -/
theorem Accepts.of_embeds? {t : EntityType} (h : S.Accepts type) (ht : S.entity type = .ok t) {f : FieldMapping}
    (hf : f ∈ t.fields) {u : TypeName} (hu : f.embeds? = some u) : S.Accepts u := by
  obtain ⟨ht', embedded⟩ := h
  cases ht.symm.trans ht'
  exact embedded f hf u hu

/-- If all descriptions are consistent, and the types that are embedded are there, every type is accepted. -/
theorem accepts_of_forall {type : TypeName} (hbuild : ∀ d ∈ S.types, d.build.isOk = true)
    (hembeds : ∀ d ∈ S.types, ∀ f ∈ d.fields, ∀ u ∈ f.embeds?, (S.find? u).isSome = true)
    (h : (S.find? type).isSome = true) : S.Accepts type := by
  obtain ⟨d, hd⟩ := Option.isSome_iff_exists.mp h
  have hmem := List.mem_of_find?_eq_some hd
  obtain ⟨t, ht⟩ := exists_of_isOk (hbuild d hmem)
  have hfields := TypeDescription.fields_of_build ht
  refine .intro ((entity_of_find? hd).trans ht) fun f hf u hu => ?_
  have hf : f ∈ d.fields := hfields ▸ hf
  -- the recursion is over the depth: embedded types lie deeper
  have hdepth : S.depth u < S.depth type := typeName_of_find? hd ▸ S.depth_lt d hmem f hf u hu
  exact accepts_of_forall hbuild hembeds (hembeds d hmem f hf u hu)
termination_by S.depth type

/-! ## Names of a type -/

/-- The names under which the objects of a type are stored, embedded types included. -/
def flatNames (S : Schema) (type : TypeName) : List String :=
  match _h : S.find? type with
  | none => []
  | some d => d.fields.attach.flatMap fun ⟨f, _hf⟩ =>
    match _hu : f.embeds? with
    | some u => flatNames S u
    | none => [f.name]
termination_by S.depth type
decreasing_by
  rw [← typeName_of_find? _h]
  exact S.depth_lt d (List.mem_of_find?_eq_some _h) f _hf u _hu

/-- The names under which a member is stored. -/
def namesOf (S : Schema) (f : FieldMapping) : List String :=
  match f.embeds? with
  | some u => S.flatNames u
  | none => [f.name]

theorem flatNames_of_find? {d : TypeDescription} (h : S.find? type = some d) :
    S.flatNames type = d.fields.flatMap S.namesOf := by
  rw [flatNames]
  split
  · next hnone => simp [h] at hnone
  · next d' hd' =>
    rw [h] at hd'
    injection hd' with hd'
    subst hd'
    -- the proofs of membership were there for the recursion only
    rw [List.flatMap_subtype (g := S.namesOf) fun f hf => ?_, List.unattach_attach]
    unfold namesOf
    dsimp only
    split
    · next hu => simp only [hu]
    · next hu => simp only [hu]

theorem flatNames_of_entity {t : EntityType} (h : S.entity type = .ok t) :
    S.flatNames type = t.fields.flatMap S.namesOf := by
  obtain ⟨d, hd, hbuild⟩ := find?_of_entity h
  rw [flatNames_of_find? hd, TypeDescription.fields_of_build hbuild]

/-- If the names of a type differ, each one belongs to one field only. -/
theorem eq_of_mem_namesOf {t : EntityType} (ht : S.entity type = .ok t) (hnames : (S.flatNames type).Nodup)
    {f g : FieldMapping} (hf : f ∈ t.fields) (hg : g ∈ t.fields) {name : String} (hname : name ∈ S.namesOf f)
    (hname' : name ∈ S.namesOf g) : g = f := by
  rw [flatNames_of_entity ht, List.nodup_flatMap] at hnames
  by_contra hne
  have hdisjoint : List.Disjoint (S.namesOf g) (S.namesOf f) :=
    have : Std.Symm (Function.onFun List.Disjoint S.namesOf) := ⟨fun _ _ => List.disjoint_symm⟩
    hnames.2.forall hg hf hne
  exact hdisjoint hname' hname

/-! ## Fields of an object -/

/-- The fields that an object stores something under, each with the object that has it: its own fields that hold
something, and those of the embedded objects that are there. -/
def populated (S : Schema) (o : Object) : List (FieldMapping × Object) :=
  match S.find? o.type with
  | none => []
  | some d => d.fields.flatMap fun f =>
    match _h : f.read o with
    | none => []
    | some (.object p) => if f.embeds?.isSome then populated S p else [(f, o)]
    | some _ => [(f, o)]
termination_by sizeOf o
decreasing_by
  have := FieldMapping.sizeOf_lt_of_read _h
  simp only [Datum.object.sizeOf_spec] at this
  omega

/-- The fields that a member of an object stores something under. -/
def populatedBy (S : Schema) (o : Object) (f : FieldMapping) : List (FieldMapping × Object) :=
  match f.read o with
  | none => []
  | some (.object p) => if f.embeds?.isSome then S.populated p else [(f, o)]
  | some _ => [(f, o)]

theorem populated_of_find? {o : Object} {d : TypeDescription} (h : S.find? o.type = some d) :
    S.populated o = d.fields.flatMap (S.populatedBy o) := by
  rw [populated, h]
  refine List.flatMap_congr fun f _ => ?_
  unfold populatedBy
  split <;> simp_all

theorem populated_of_entity {o : Object} {t : EntityType} (h : S.entity o.type = .ok t) :
    S.populated o = t.fields.flatMap (S.populatedBy o) := by
  obtain ⟨d, hd, hbuild⟩ := find?_of_entity h
  rw [populated_of_find? hd, TypeDescription.fields_of_build hbuild]

/-- A member stores something under its names, under each at most once, if the object in it does. -/
theorem populatedBy_sublist_of (S : Schema) {o : Object} {f : FieldMapping}
    (h : ∀ p, f.read o = some (.object p) →
      ((S.populated p).map fun x => x.1.name).Sublist (S.flatNames p.type)) :
    ((S.populatedBy o f).map fun x => x.1.name).Sublist (S.namesOf f) := by
  cases hread : f.read o with
  | none => simp [populatedBy, hread]
  | some x =>
    cases hu : f.embeds? with
    | none => cases x <;> simp [populatedBy, hread, namesOf, hu]
    | some u =>
      obtain ⟨p, rfl, rfl⟩ := FieldMapping.exists_of_embeds? hu hread
      simpa [populatedBy, hread, namesOf, hu] using h p hread

/-- An object stores its fields under names of its type, under each at most once. -/
theorem populated_sublist (S : Schema) (o : Object) :
    ((S.populated o).map fun x => x.1.name).Sublist (S.flatNames o.type) := by
  cases h : S.find? o.type with
  | none =>
    rw [populated, h]
    exact List.nil_sublist _
  | some d =>
    rw [populated_of_find? h, flatNames_of_find? h, List.map_flatMap]
    refine List.Sublist.flatMap_right _ fun f _ => populatedBy_sublist_of S fun p hread => ?_
    have := FieldMapping.sizeOf_lt_of_read hread
    exact populated_sublist S p
termination_by sizeOf o
decreasing_by
  simp only [Datum.object.sizeOf_spec] at this
  omega

theorem populatedBy_sublist (S : Schema) (o : Object) (f : FieldMapping) :
    ((S.populatedBy o f).map fun x => x.1.name).Sublist (S.namesOf f) :=
  populatedBy_sublist_of S fun p _ => S.populated_sublist p

end Schema

/-! ## Names in a record -/

namespace Converter

/-- A search whose every test succeeds. -/
theorem anyM_eq_ok {ε α : Type} {f : α → Except ε Bool} {p : α → Bool} {as : List α}
    (h : ∀ a ∈ as, f a = .ok (p a)) : as.anyM f = .ok (as.any p) := by
  induction as with
  | nil => rfl
  | cons a as ih =>
    rw [List.anyM, h a List.mem_cons_self, List.any_cons, ih fun b hb => h b (List.mem_cons_of_mem _ hb)]
    cases p a <;> rfl

theorem anyM_congr {m : Type → Type} [Monad m] {α : Type} {f g : α → m Bool} {as : List α}
    (h : ∀ a ∈ as, f a = g a) : as.anyM f = as.anyM g := by
  induction as with
  | nil => rfl
  | cons a as ih =>
    rw [List.anyM, List.anyM, h a List.mem_cons_self, ih fun b hb => h b (List.mem_cons_of_mem _ hb)]

/-- A search that ends without having found anything has tested every item. -/
theorem eq_false_of_anyM {ε α : Type} {f : α → Except ε Bool} {as : List α} (h : as.anyM f = .ok false) :
    ∀ a ∈ as, f a = .ok false := by
  induction as with
  | nil => simp
  | cons a as ih =>
    rw [List.anyM, bind_eq_ok] at h
    obtain ⟨found, ha, hrest⟩ := h
    cases found with
    | true => cases hrest
    | false => exact List.forall_mem_cons.mpr ⟨ha, ih hrest⟩

/-- A search in a list that carries facts about its items does not depend on the facts. -/
theorem anyM_subtype {ε α : Type} {p : α → Prop} {as : List { a // p a }} {f : { a // p a } → Except ε Bool}
    {g : α → Except ε Bool} (h : ∀ a ha, f ⟨a, ha⟩ = g a) : as.anyM f = as.unattach.anyM g := by
  induction as with
  | nil => rfl
  | cons a as ih =>
    rw [List.unattach_cons, List.anyM, List.anyM, h a.1 a.2]
    congr 1
    funext found
    cases found with
    | true => rfl
    | false => exact ih

/-- Whether a record has a field that belongs to a member. -/
def mentionsField (S : Schema) (r : Record) (f : FieldMapping) : Except MapError Bool :=
  match f.embeds? with
  | some u => mentions S u r
  | none => .ok (r.contains f.name)

theorem mentions_of_error {S : Schema} {type : TypeName} {e : MapError} (h : S.entity type = .error e) (r : Record) :
    mentions S type r = .error e := by
  rw [mentions]
  split
  · next h' => exact congrArg Except.error (Except.error.inj (h'.symm.trans h))
  · next h' => cases h'.symm.trans h

theorem mentions_eq {S : Schema} {type : TypeName} {t : EntityType} (h : S.entity type = .ok t) (r : Record) :
    mentions S type r = t.fields.anyM (mentionsField S r) := by
  rw [mentions]
  split
  · next herror => simp [h] at herror
  · next t' ht =>
    rw [h] at ht
    injection ht with ht
    subst ht
    rw [anyM_subtype (g := mentionsField S r) fun f hf => ?_, List.unattach_attach]
    unfold mentionsField
    dsimp only
    split <;> next hu => rw [hu]

/-- The search in a record finds the names of a type that are there. -/
theorem mentions_of_accepts {S : Schema} {type : TypeName} (h : S.Accepts type) (r : Record) :
    mentions S type r = .ok ((S.flatNames type).any r.contains) := by
  induction h with
  | @intro type t entity embedded ih =>
    have hfield : ∀ f ∈ t.fields, mentionsField S r f = .ok ((S.namesOf f).any r.contains) := fun f hf => by
      unfold mentionsField Schema.namesOf
      cases hu : f.embeds? with
      | some u => exact ih f hf u hu
      | none => simp
    rw [mentions_eq entity, anyM_eq_ok hfield, Schema.flatNames_of_entity entity, List.any_flatMap]

/-- A search that finds nothing has looked at all types that are embedded, so they are consistent. -/
theorem accepts_of_mentions {S : Schema} {type : TypeName} {r : Record} (h : mentions S type r = .ok false) :
    S.Accepts type := by
  cases ht : S.entity type with
  | error e =>
    rw [mentions_of_error ht] at h
    cases h
  | ok t =>
    rw [mentions_eq ht] at h
    refine .intro ht fun f hf u hu => ?_
    have hdepth := Schema.depth_lt_of_embeds ht hf hu
    have hfield := eq_false_of_anyM h f hf
    rw [mentionsField, hu] at hfield
    exact accepts_of_mentions hfield
termination_by S.depth type

/-- A search that finds nothing is right. -/
theorem any_eq_false_of_mentions {S : Schema} {type : TypeName} {r : Record} (h : mentions S type r = .ok false) :
    (S.flatNames type).any r.contains = false :=
  (Except.ok.inj (h.symm.trans (mentions_of_accepts (accepts_of_mentions h) r))).symm

end Converter
end EntityMapping
