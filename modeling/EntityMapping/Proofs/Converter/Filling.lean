import EntityMapping.Proofs.Converter.Conforming

/-!
# Filling an object

An object that is there already is filled from a record from left to right: each mapped member takes what the record
says about it, and keeps what it held if the record says nothing. The first error ends this. What was put in before
stays, and nothing else has changed. A type with an inconsistent description is refused before that, whatever the
record says.

* `Contribution.overlay_append` — filling in two parts
* `ObjectOf.PutsInto` — some members of an object have new values, and the rest is as it was
* `DeclaredSchema.exists_of_fill` — what it means that an object was filled
* `DeclaredSchema.fill_isOverlay` — an object is filled up to the first error
* `DeclaredSchema.fill_refuses_twins` — although the record says nothing that is an error
-/

namespace EntityMapping

/-! ## One contribution after the other -/

namespace Contribution

variable {k : Contribution} {ks : List Contribution} {o p : Object} {e : MapError}

/-- All is filled exactly if there is no error on the way. -/
theorem result_fill_eq_ok_iff :
    (fill ks o).result = .ok p ↔ (overlay ks o).2.result = .ok () ∧ (overlay ks o).1 = p := by
  rw [fill, Traced.result_bind, bind_eq_ok]
  constructor
  · rintro ⟨⟨⟩, hdone, hp⟩
    exact ⟨hdone, Except.ok.inj hp⟩
  · rintro ⟨hdone, rfl⟩
    exact ⟨(), hdone, rfl⟩

/-- An error leaves the object as it is. -/
theorem overlay_of_error (ks : List Contribution) (h : (k.apply o).result = .error e) :
    (overlay (k :: ks) o).1 = o ∧ (overlay (k :: ks) o).2.result = .error e := by
  rw [overlay, h]
  exact ⟨rfl, rfl⟩

theorem overlay_of_ok (ks : List Contribution) (h : (k.apply o).result = .ok p) :
    (overlay (k :: ks) o).1 = (overlay ks p).1 ∧
      (overlay (k :: ks) o).2.result = (overlay ks p).2.result := by
  rw [overlay, h]
  exact ⟨rfl, rfl⟩

/-- After a part without errors, the rest is put on top of what it has made. -/
theorem overlay_append (ls : List Contribution) (h : (overlay ks o).2.result = .ok ()) :
    (overlay (ks ++ ls) o).1 = (overlay ls (overlay ks o).1).1 ∧
      (overlay (ks ++ ls) o).2.result = (overlay ls (overlay ks o).1).2.result := by
  induction ks generalizing o with
  | nil => exact ⟨rfl, rfl⟩
  | cons k ks ih =>
    cases happly : (k.apply o).result with
    | error e =>
      rw [(overlay_of_error ks happly).2] at h
      cases h
    | ok p =>
      obtain ⟨hobject, hresult⟩ := overlay_of_ok ks happly
      obtain ⟨hobject', hresult'⟩ := overlay_of_ok (ks ++ ls) happly
      rw [hresult] at h
      obtain ⟨hrest, hrest'⟩ := ih h
      rw [List.cons_append, hobject, hobject', hresult']
      exact ⟨hrest, hrest'⟩

end Contribution

/-! ## Members with new values -/

/-- Whether an object has become another one because values were put into some of its members, as far as there are
values for them. -/
structure ObjectOf.PutsInto (d : Declaration) (members : List Member) (value : Member → Option Datum)
    (o p : Object) : Prop where
  type : p.type = o.type
  slots : p.slots.map Prod.fst = o.slots.map Prod.fst
  /-- These members hold the values, or what they held if there is none. -/
  put : ∀ m ∈ members, p.get? m.name = (value m).or (o.get? m.name)
  /-- All other members, mapped or not, hold what they held. -/
  rest : ∀ m ∈ d.members, m ∉ members → p.get? m.name = o.get? m.name

namespace Declaration

variable {d : Declaration} {k : FieldMapping → Contribution} {value : Member → Option Datum} {o : Object}
  {members : List Member}

theorem putsInto_putAll (hnodup : (d.members.map Member.name).Nodup) (ho : d.HasInstance o)
    (hmembers : members.Sublist d.members) :
    o.PutsInto d members value (o.putAll Member.name value members) where
  type := ObjectOf.type_putAll members o
  slots := ObjectOf.names_putAll fun m hm => by
    rw [ho.slots]
    exact List.mem_map_of_mem (hmembers.subset hm)
  put m hm := ObjectOf.get?_putAll (hnodup.sublist (hmembers.map Member.name)) hm
  rest m hm hnot := by
    refine ObjectOf.get?_putAll_of_ne fun n hn hname => hnot ?_
    -- a member of that name would be this one
    rwa [← List.inj_on_of_nodup_map hnodup (hmembers.subset hn) hm hname]

/-- A record that says something acceptable about some mapped members is put into them. -/
theorem overlay_of_says (hk : d.Fills k) (htype : o.type = d.typeName) (hmembers : ∀ m ∈ members, m ∈ d.mapped)
    (hvalue : d.Says k members value) :
    (Contribution.overlay (members.map fun m => k (m.field d.typeName)) o).2.result = .ok () ∧
      (Contribution.overlay (members.map fun m => k (m.field d.typeName)) o).1 =
        o.putAll Member.name value members :=
  Contribution.result_fill_eq_ok_iff.mp (Contribution.fill_of_says hk htype hmembers hvalue)

/-- If it then says something that is an error, this is where it ends. -/
theorem overlay_of_says_error (hk : d.Fills k) (htype : o.type = d.typeName) {n : Member} {after : List Member}
    {e : MapError} (hmembers : ∀ m ∈ members ++ n :: after, m ∈ d.mapped) (hvalue : d.Says k members value)
    (herror : (k (n.field d.typeName)).value.result = .error e) :
    (Contribution.overlay ((members ++ n :: after).map fun m => k (m.field d.typeName)) o).2.result = .error e ∧
      (Contribution.overlay ((members ++ n :: after).map fun m => k (m.field d.typeName)) o).1 =
        o.putAll Member.name value members := by
  obtain ⟨hdone, hobject⟩ := overlay_of_says hk htype (fun m hm => hmembers m (List.mem_append_left _ hm)) hvalue
  obtain ⟨hall, hresult⟩ := Contribution.overlay_append
    ((n :: after).map fun m => k (m.field d.typeName)) hdone
  have htype' : (o.putAll Member.name value members).type = d.typeName :=
    (ObjectOf.type_putAll members o).trans htype
  have hn : n ∈ d.mapped := hmembers n (List.mem_append_right _ List.mem_cons_self)
  have happly := Contribution.result_apply hk htype' hn
  rw [herror] at happly
  obtain ⟨hstays, hstops⟩ := Contribution.overlay_of_error
    (after.map fun m => k (m.field d.typeName)) happly
  rw [List.map_append, hall, hresult, hobject, List.map_cons]
  exact ⟨hstops, hstays⟩

end Declaration

/-! ## Filling from a record -/

namespace DeclaredSchema

variable {D : DeclaredSchema} {c : Converter} {d : Declaration} {value : Member → Option Datum} {r : Record}
  {o : Object}

theorem fill_eq (hd : D.declaration? o.type = some d) (ht : c.schema.entity d.typeName = .ok d.entityType) :
    c.fill o r = Contribution.overlay (d.mapped.map fun m => c.contribution r (m.field d.typeName)) o := by
  rw [typeName_of_declaration? hd] at ht
  rw [Converter.fill, ht, ← Declaration.map_fields]

/-- Without a consistent description of its type, an object stays as it is. -/
theorem fill_of_error {e : MapError} (h : c.schema.entity o.type = .error e) : c.fill o r = (o, .fail e) := by
  rw [Converter.fill, h]

/-- The type of an object that was filled has a consistent description. -/
theorem entity_of_fill (hc : c.schema = D.toSchema) (hd : D.declaration? o.type = some d)
    (h : (c.fill o r).2.result = .ok ()) : D.entity o.type = .ok d.entityType := by
  rw [← hc]
  cases ht : c.schema.entity o.type with
  | error e =>
    rw [fill_of_error ht] at h
    cases h
  | ok t =>
    obtain ⟨d', hd', rfl⟩ := exists_declaration? (hc ▸ ht)
    cases hd.symm.trans hd'
    rfl

/-- What it means that an object was filled. -/
theorem exists_of_fill (hc : c.schema = D.toSchema) (hd : D.declaration? o.type = some d) (ho : d.HasInstance o)
    (h : (c.fill o r).2.result = .ok ()) :
    ∃ value, d.Says (c.contribution r) d.mapped value ∧ o.PutsInto d d.mapped value (c.fill o r).1 := by
  have ht : c.schema.entity d.typeName = .ok d.entityType := by
    rw [typeName_of_declaration? hd, hc]
    exact entity_of_fill hc hd h
  rw [fill_eq hd ht] at h ⊢
  have hfilled := Contribution.result_fill_eq_ok_iff.mpr ⟨h, rfl⟩
  obtain ⟨value, hvalue⟩ : ∃ value, d.Says (c.contribution r) d.mapped value :=
    Declaration.exists_says fun m hm => Contribution.exists_value_of_fill hfilled _ (List.mem_map.mpr ⟨m, hm, rfl⟩)
  refine ⟨value, hvalue, ?_⟩
  rw [(Declaration.overlay_of_says (fills_contribution hc r) ho.type (fun _ => id) hvalue).2]
  exact Declaration.putsInto_putAll (D.nodup_members d (mem_of_declaration? hd)) ho List.filter_sublist

/-- Whether an object is filled from a record from left to right, up to the first error. What the record says about
its members does not depend on the object. -/
structure IsOverlay (c : Converter) (d : Declaration) (r : Record) (o : Object) : Prop where
  /-- Where the record says nothing that is an error, all is put in. -/
  filled : ∀ value : Member → Option Datum, d.Says (c.contribution r) d.mapped value →
    (c.fill o r).2.result = .ok () ∧ o.PutsInto d d.mapped value (c.fill o r).1
  /-- The first error is the answer, and what was put in before it stays. -/
  stopped : ∀ (before : List Member) (n : Member) (after : List Member) (value : Member → Option Datum) (e : MapError),
    d.mapped = before ++ n :: after → d.Says (c.contribution r) before value →
    (c.contribution r (n.field d.typeName)).value.result = .error e →
      (c.fill o r).2.result = .error e ∧ o.PutsInto d before value (c.fill o r).1
  /-- What is put in is what a new object holds there that is read from the record. -/
  read : ∀ p, (c.read d.typeName r).result = .ok p → ∀ m ∈ d.mapped, ∀ x,
    (c.contribution r (m.field d.typeName)).value.result = .ok (some x) → p.get? m.name = some x

/-- What a record says about a member is what an object holds there that is read from it. -/
theorem get?_of_contribution (hc : c.schema = D.toSchema) (hd : D.declaration? d.typeName = some d) {p : Object}
    (hread : (c.read d.typeName r).result = .ok p) {m : Member} (hm : m ∈ d.mapped) {x : Datum}
    (hx : (c.contribution r (m.field d.typeName)).value.result = .ok (some x)) : p.get? m.name = some x := by
  obtain ⟨d', value, hd', hvalue, -, rfl⟩ := exists_of_read hc hread
  cases hd.symm.trans hd'
  rw [hvalue m hm] at hx
  rw [Declaration.get?_objectOf (D.nodup_members d (mem_of_declaration? hd)) (Declaration.mem_members hm)]
  exact Declaration.held_of_some (List.mem_filter.mp hm).2 (Except.ok.inj hx)

/-- **An object is filled from left to right: each mapped member takes what the record says about it, or keeps what it
held. With the first error this ends, and the members from there on stay as they were.** -/
theorem fill_isOverlay (D : DeclaredSchema) (a : Attributes) (suppliers : Suppliers) (strict : Bool) (d : Declaration)
    (o : Object) (r : Record) (hd : D.declaration? o.type = some d) (hbuild : d.describe.build.isOk = true)
    (ho : d.HasInstance o) : IsOverlay ⟨D.toSchema, a, suppliers, strict⟩ d r o := by
  have hd' : D.declaration? d.typeName = some d := typeName_of_declaration? hd ▸ hd
  have ht := entity_of_isOk hd' hbuild
  have hnodup := D.nodup_members d (mem_of_declaration? hd)
  have hmapped : d.mapped.Sublist d.members := List.filter_sublist
  have hfills := fills_contribution (c := ⟨D.toSchema, a, suppliers, strict⟩) (d := d) rfl r
  refine ⟨?_, ?_, fun p hread m hm x hx => get?_of_contribution rfl hd' hread hm hx⟩
  · intro value hvalue
    obtain ⟨hdone, hobject⟩ := Declaration.overlay_of_says hfills ho.type (fun _ => id) hvalue
    rw [fill_eq hd ht, hdone, hobject]
    exact ⟨rfl, Declaration.putsInto_putAll hnodup ho hmapped⟩
  · intro before n after value e hsplit hbefore herror
    have hmembers : ∀ m ∈ before ++ n :: after, m ∈ d.mapped := fun m hm => hsplit ▸ hm
    obtain ⟨hstops, hobject⟩ := Declaration.overlay_of_says_error hfills ho.type hmembers hbefore herror
    have hsublist : before.Sublist d.mapped := hsplit ▸ List.sublist_append_left before (n :: after)
    rw [fill_eq hd ht, hsplit, hstops, hobject]
    exact ⟨rfl, Declaration.putsInto_putAll hnodup ho (hsublist.trans hmapped)⟩

/-! ## A journey with a new title -/

theorem mem_mapped_journey {m : Member} (hm : m ∈ journeyDeclaration.mapped) :
    m = .required "title" "String" ⟨"String", .value .text⟩ ∨
      m = .optional "note" "Option<Note>" ⟨"Note", .embedded "Note"⟩ ∨
      m = .optional "guide" "Option<Guide>" ⟨"Guide", .entity "Guide"⟩ ∨
      m = .required "stops" "Vec<Journey>" ⟨"Vec<Journey>", .collection .list "Journey"⟩ := by
  have hm : m ∈ journeyDeclaration.members := hm
  simpa only [journeyDeclaration, List.mem_cons, List.not_mem_nil, or_false] using hm

theorem hasInstance_journey (title : String) (text : Option (Option String)) (stops : List Object) :
    journeyDeclaration.HasInstance (journey title (text.map note) none stops) where
  type := rfl
  slots := rfl
  fits m hm x hx := by
    rcases mem_mapped_journey hm with rfl | rfl | rfl | rfl
    · cases hx
      rfl
    · cases text <;> cases hx
      rfl
    · cases hx
    · cases hx
      rfl
  present m hm hmay := by
    rcases mem_mapped_journey hm with rfl | rfl | rfl | rfl
    · rfl
    · cases hmay
    · cases hmay
    · rfl

/-- What is known of a journey, but with a text where the guide should be. -/
def garbledRecord : Record :=
  ⟨"Journey", [("stops", .records []), ("guide", .text "Ada"), ("text", .text "x"), ("title", .text "b")]⟩

/-- The title and the note of a journey are replaced, and its stops are not. -/
theorem fill_isOverlay_garbledRecord :
    journeyDeclaration.HasInstance (journey "a" none none [journey "c" none none []]) ∧
      ((journeys.converter .empty).fill (journey "a" none none [journey "c" none none []]) garbledRecord).2.result =
        .error (.typeMismatch (.notNested "guide" "a nested record" (.text "Ada"))) ∧
      ∃ p, ((journeys.converter .empty).fill (journey "a" none none [journey "c" none none []]) garbledRecord).1 = p ∧
        p.get? "title" = some (.scalar .text "b") ∧ p.get? "note" = some (.object (note (some "x"))) ∧
        p.get? "guide" = none ∧ p.get? "stops" = some (.collection .list "Journey" [journey "c" none none []]) := by
  have hinstance := hasInstance_journey "a" none [journey "c" none none []]
  obtain ⟨hresult, hputs⟩ := (fill_isOverlay journeys .empty .standard true journeyDeclaration _ garbledRecord rfl
    (by decide) hinstance).stopped
    [.required "title" "String" ⟨"String", .value .text⟩, .optional "note" "Option<Note>" ⟨"Note", .embedded "Note"⟩]
    (.optional "guide" "Option<Guide>" ⟨"Guide", .entity "Guide"⟩)
    [.required "stops" "Vec<Journey>" ⟨"Vec<Journey>", .collection .list "Journey"⟩]
    (fun m => if m.name = "title" then some (.scalar .text "b") else some (.object (note (some "x"))))
    (.typeMismatch (.notNested "guide" "a nested record" (.text "Ada"))) rfl
    (List.forall_mem_cons.mpr ⟨by cbv, List.forall_mem_singleton.mpr (by cbv)⟩) (by cbv)
  refine ⟨hinstance, hresult, _, rfl, hputs.put _ (.head _), hputs.put _ (.tail _ (.head _)), ?_, ?_⟩
  · exact hputs.rest (.optional "guide" "Option<Guide>" ⟨"Guide", .entity "Guide"⟩)
      (.tail _ (.tail _ (.head _))) (by simp [Member.optional, Member.required])
  · exact hputs.rest (.required "stops" "Vec<Journey>" ⟨"Vec<Journey>", .collection .list "Journey"⟩)
      (.tail _ (.tail _ (.tail _ (.head _)))) (by simp [Member.optional, Member.required])

/-! ## Names that are used twice -/

/-- Where the description of a type is not consistent, no object is filled, although the record says nothing about its
members. -/
theorem fill_refuses_twins :
    twinsDeclaration.HasInstance ⟨"Twins", [("elder", none), ("younger", none)]⟩ ∧
      twinsDeclaration.Says ((twins.converter .empty).contribution ⟨"Twins", []⟩) twinsDeclaration.mapped
        (fun _ => none) ∧
      ((twins.converter .empty).fill ⟨"Twins", [("elder", none), ("younger", none)]⟩ ⟨"Twins", []⟩).2.result =
        .error (.invalidArgument (.repeatedName "Twins" "elder")) := by
  have hrefused : twins.entity "Twins" = .error (.invalidArgument (.repeatedName "Twins" "elder")) := by rfl
  refine ⟨⟨rfl, rfl, ?_, by decide⟩, List.forall_mem_cons.mpr ⟨rfl, List.forall_mem_singleton.mpr rfl⟩, ?_⟩
  · intro m hm x hx
    rcases List.mem_pair.mp (show m ∈ twinsDeclaration.members from hm) with rfl | rfl <;> cases hx
  · rw [fill_of_error hrefused]
    rfl

end DeclaredSchema
end EntityMapping
