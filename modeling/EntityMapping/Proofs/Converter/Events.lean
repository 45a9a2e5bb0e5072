import EntityMapping.Proofs.Converter.Levels
import EntityMapping.Proofs.Notice
import EntityMapping.Proofs.Schema.Arguments

/-!
# Constructor events of a reading

When an object is read, the objects inside are built first, member by member, and the arguments of its constructor are
complete only then. So the constructors are announced in post-order.

* `Schema.entered` — the records that are entered for a member, in order
* `DeclaredSchema.postorder` — the objects of a reading, those inside before the one that has them
* `DeclaredSchema.mem_postorder_iff` — they are those of the levels that the reading goes down to
* `DeclaredSchema.events_contribution`, `DeclaredSchema.events_read_level` — the events of a member, and of one level
* `DeclaredSchema.events_read` — the events of a reading
-/

namespace EntityMapping

/-! ## Objects in order -/

namespace Schema

variable {S : Schema} {strict : Bool} {r s : Record} {f : FieldMapping} {u : TypeName}

/-- The records that the objects in a member are read from, in order, each with the type of its object. In strict mode
nothing is embedded of which the record has no name. -/
def entered (S : Schema) (strict : Bool) (r : Record) (f : FieldMapping) : List (TypeName × Record) :=
  match f.shape with
  | .value _ => []
  | .embedded u => if !strict || (S.flatNames u).any r.contains then [(u, r)] else []
  | .entity u =>
    match r.get? f.name with
    | some (.record s) => [(u, s)]
    | _ => []
  | .collection _ u =>
    match (r.get? f.name).map (Converter.nestedRecords f) with
    | some (.ok rs) => rs.map fun s => (u, s)
    | _ => []

/-- These are the records one level down. -/
theorem mem_entered_iff : (u, s) ∈ S.entered strict r f ↔ S.Enters strict r f u s := by
  constructor
  · intro h
    unfold entered at h
    split at h
    · cases h
    · next hshape =>
      split at h
      · next hmentioned =>
        cases List.mem_singleton.mp h
        exact .embedded hshape fun hstrict => by simpa [hstrict] using hmentioned
      · cases h
    · next hshape =>
      split at h
      · next hstored =>
        cases List.mem_singleton.mp h
        exact .entity hshape hstored
      · cases h
    · next hshape =>
      split at h
      · next rs hrs =>
        obtain ⟨v, hv, hrecords⟩ := Option.map_eq_some_iff.mp hrs
        obtain ⟨s, hs, heq⟩ := List.mem_map.mp h
        cases heq
        exact .collection hshape hv (Converter.nestedRecords_eq_ok_iff.mp hrecords) hs
      · cases h
  · intro h
    cases h with
    | embedded shape mentioned =>
      have hmentioned : (!strict || (S.flatNames u).any r.contains) = true := by
        cases strict with
        | false => rfl
        | true => exact mentioned rfl
      rw [entered, shape]
      dsimp only
      rw [if_pos hmentioned]
      exact List.mem_singleton_self _
    | entity shape stored => simp [entered, shape, stored]
    | collection shape stored records item =>
      simp [entered, shape, stored, Converter.nestedRecords_eq_ok_iff.mpr records, item]

end Schema

namespace DeclaredSchema

variable {D : DeclaredSchema} {c : Converter} {strict : Bool} {d : Declaration} {type : TypeName} {r : Record}
  {o : Object}

/-- The objects that are built in a reading, each as its declared type and the record that it is read from: first those
in the members, member by member, and then the object itself. -/
def postorder (D : DeclaredSchema) (strict : Bool) (type : TypeName) (r : Record) : List (Declaration × Record) :=
  match _hd : D.declaration? type with
  | none => []
  | some d =>
    (d.mapped.attach.flatMap fun ⟨m, _hm⟩ =>
      (D.entered strict r (m.field d.typeName)).attach.flatMap fun ⟨(u, s), _hs⟩ => postorder D strict u s) ++ [(d, r)]
termination_by (sizeOf r, D.depth type)
decreasing_by
  rw [← typeName_of_declaration? _hd]
  exact (Schema.mem_entered_iff.mp _hs).lt (List.mem_of_find?_eq_some (find?_of_declaration? _hd))
    (List.mem_map_of_mem _hm)

theorem postorder_of_none (hd : D.declaration? type = none) : D.postorder strict type r = [] := by
  rw [postorder]
  split
  · rfl
  · next h => cases h.symm.trans hd

theorem postorder_of_declaration? (hd : D.declaration? type = some d) :
    D.postorder strict type r =
      (d.mapped.flatMap fun m => (D.entered strict r (m.field d.typeName)).flatMap fun x =>
        D.postorder strict x.1 x.2) ++ [(d, r)] := by
  rw [postorder]
  split
  · next hnone => cases hnone.symm.trans hd
  · next d' hd' =>
    cases hd'.symm.trans hd
    simp only [List.flatMap_subtype, List.unattach_attach]

/-- The objects of a reading are read from the records that the reading comes to. -/
theorem mem_postorder_iff {s : Record} :
    (d, s) ∈ D.postorder strict type r ↔
      D.declaration? d.typeName = some d ∧ D.Visits strict type r d.typeName s := by
  constructor
  · intro h
    induction type, r using reading_induction D strict with
    | level type r ih =>
      cases hd : D.declaration? type with
      | none => simp [postorder_of_none hd] at h
      | some d =>
        rw [postorder_of_declaration? hd, List.mem_append, List.mem_flatMap, List.mem_singleton] at h
        rcases h with ⟨m, hm, h⟩ | h
        · obtain ⟨⟨u, t⟩, ht, h⟩ := List.mem_flatMap.mp h
          have henters := Schema.mem_entered_iff.mp ht
          obtain ⟨hdeclared, hvisits⟩ := ih d m u t hd hm henters h
          exact ⟨hdeclared, .inside hd hm henters hvisits⟩
        · cases h
          rw [typeName_of_declaration? hd]
          exact ⟨hd, .self⟩
  · rintro ⟨hdeclared, hvisits⟩
    generalize d.typeName = v at hdeclared hvisits
    induction hvisits with
    | self => simp [postorder_of_declaration? hdeclared]
    | @inside type u v r s t d' m declared mapped enters rest ih =>
      rw [postorder_of_declaration? declared]
      refine List.mem_append_left _ (List.mem_flatMap.mpr ⟨m, mapped, ?_⟩)
      exact List.mem_flatMap.mpr ⟨(u, s), Schema.mem_entered_iff.mpr enters, ih hdeclared⟩

/-- What is announced of an object that is read from a record. -/
def announcement (D : DeclaredSchema) (strict : Bool) (d : Declaration) (r : Record) : ConstructorEvent :=
  ⟨d.describe.name, d.constructor.signature, d.mapped.map Member.name,
    d.mapped.map fun m => D.gives strict r (m.field d.typeName)⟩

/-! ## Events -/

/-- Filling an object has the events of what is put into it. -/
theorem events_fill {ks : List Contribution} {p : Object} (h : (Contribution.fill ks o).result = .ok p) :
    (Contribution.fill ks o).events = ks.flatMap fun k => k.value.events := by
  induction ks generalizing o with
  | nil => rfl
  | cons k ks ih =>
    rw [Contribution.fill_cons, Traced.result_bind] at h
    obtain ⟨q, hq, hrest⟩ := bind_eq_ok.mp h
    have happly : (k.apply o).events = k.value.events := by
      obtain ⟨x, hx, -⟩ := bind_eq_ok.mp ((Traced.result_bind _ _).symm.trans hq)
      rw [Contribution.apply, Traced.events_bind hx]
      cases x <;> simp
    rw [Contribution.fill_cons, Traced.events_bind hq, happly, ih hrest, List.flatMap_cons]

/-- An attribute converter builds no objects. -/
theorem events_loadedValue (c : Converter) (f : FieldMapping) (v : Value) : (c.loadedValue f v).events = [] := by
  unfold Converter.loadedValue
  split
  · exact Traced.events_bind_eq_nil rfl fun k => rfl
  · rfl

/-- What is embedded has the events of the record itself, if it is read. -/
theorem events_of_embedded (hc : c.schema = D.toSchema) {f : FieldMapping} {u : TypeName} {x : Option Datum}
    (hshape : f.shape = .embedded u) (hx : (c.contribution r f).value.result = .ok x) :
    (c.contribution r f).value.events =
      if !c.strict || (D.flatNames u).any r.contains then (c.read u r).events else [] := by
  rw [Converter.traced_contribution_of_embedded hshape]
  rcases Converter.embedded_cases hshape hx with ⟨t, p, ht, hmentions, hp, -⟩ | ⟨hstrict, hmentions, -⟩
  · rw [Traced.events_bind (a := t) ht]
    cases hstrict : c.strict with
    | false =>
      simp only [Bool.false_eq_true, if_false, pure_bind, if_true]
      rw [Traced.events_bind hp]
      simp [Converter.entity]
    | true =>
      have hfound := Converter.mentions_of_accepts (accepts_of_read hc hp) r
      have hmentioned : (D.flatNames u).any r.contains = true :=
        Except.ok.inj (hfound.symm.trans (hc ▸ hmentions hstrict))
      simp only [if_true]
      rw [Traced.events_bind (a := true) (hmentions hstrict), if_pos rfl, Traced.events_bind hp]
      simp [Converter.entity, hmentioned]
  · have hunmentioned : (D.flatNames u).any r.contains = false := hc ▸ Converter.any_eq_false_of_mentions hmentions
    rw [if_neg (by simp [hstrict, hunmentioned])]
    refine Traced.events_bind_eq_nil rfl fun t => ?_
    simp only [hstrict, if_true]
    rw [Traced.events_bind (a := false) hmentions]
    rfl

/-- A collection has the events of its records, in order. What the supplier makes of the objects does not matter. -/
theorem events_of_collection {f : FieldMapping} {kind : CollectionKind} {u : TypeName} {x : Option Datum} {v : Value}
    {rs : List Record} (hshape : f.shape = .collection kind u) (hv : r.get? f.name = some v)
    (hrs : Converter.nestedRecords f v = .ok rs) (hx : (c.contribution r f).value.result = .ok x) :
    (c.contribution r f).value.events = rs.flatMap fun s => (c.read u s).events := by
  rw [Converter.contribution_of_collection hshape, hv] at hx
  simp only [bind_eq_ok] at hx
  obtain ⟨rs', hrs', t, ht, staging, hstaging, objects, hobjects, y, hy, -⟩ := hx
  cases hrs.symm.trans hrs'
  have hreads : ∀ s ∈ rs, ∃ p, (c.read u s).result = .ok p := fun s hs => exists_of_mapM_eq_ok hobjects hs
  have hobjects : (rs.mapM fun s => c.read u s).result = .ok objects := by rw [Traced.result_mapM, hobjects]
  rw [Converter.traced_contribution_of_collection hshape, hv]
  dsimp only
  rw [Traced.events_bind (a := rs) hrs, Traced.events_bind (a := t) ht, Traced.events_bind (a := staging) hstaging,
    Traced.events_bind hobjects, Traced.events_mapM hreads, Traced.events_bind (a := y) hy]
  simp [Converter.entity]

/-- The events of a member are those of the records that are entered for it. -/
theorem events_contribution (hc : c.schema = D.toSchema) {f : FieldMapping} {x : Option Datum}
    (hx : (c.contribution r f).value.result = .ok x) :
    (c.contribution r f).value.events = (D.entered c.strict r f).flatMap fun y => (c.read y.1 y.2).events := by
  unfold Schema.entered
  split
  · next hshape =>
    rw [Converter.traced_contribution_of_value hshape]
    split
    · rfl
    · exact Traced.events_bind_eq_nil (events_loadedValue c f _) fun w => by split <;> rfl
  · next hshape =>
    rw [events_of_embedded hc hshape hx]
    split <;> simp
  · next hshape =>
    rw [Converter.contribution_of_entity hshape] at hx
    rw [Converter.traced_contribution_of_entity hshape]
    split at hx
    · next hr => simp [hr]
    · next s hr =>
      obtain ⟨p, hp, -⟩ := bind_eq_ok.mp hx
      simp only [hr]
      rw [Traced.events_bind hp]
      simp
    · cases hx
  · next hshape =>
    cases hr : r.get? f.name with
    | none =>
      rw [Converter.traced_contribution_of_collection hshape, hr]
      rfl
    | some v =>
      obtain ⟨rs, hrs⟩ : ∃ rs, Converter.nestedRecords f v = .ok rs := by
        rw [Converter.contribution_of_collection hshape, hr] at hx
        obtain ⟨rs, hrs, -⟩ := bind_eq_ok.mp hx
        exact ⟨rs, hrs⟩
      rw [events_of_collection hshape hr hrs hx]
      simp [hrs, List.flatMap_map]

/-- The events of one level: those of all members, and then that of the object itself if it has a constructor. -/
theorem events_read_level (hc : c.schema = D.toSchema) (hd : D.declaration? type = some d)
    (h : (c.read type r).result = .ok o) :
    (c.read type r).events =
      (d.mapped.flatMap fun m => (D.entered c.strict r (m.field d.typeName)).flatMap fun x =>
        (c.read x.1 x.2).events) ++ if d.start.isNone then [D.announcement c.strict d r] else [] := by
  obtain ⟨hentity, -⟩ := accepts_of_read hc h
  obtain ⟨d', hd', heq⟩ := exists_declaration? hentity
  cases hd.symm.trans hd'
  obtain ⟨d', value, hd', hsaid, -, -⟩ := exists_of_read hc h
  cases hd.symm.trans hd'
  have hread : c.read type r = d.entityType.instantiate (d.entityType.fields.map (c.contribution r)) :=
    Converter.read_eq (hc ▸ heq ▸ hentity)
  have hmembers : (d.mapped.flatMap fun m => (c.contribution r (m.field d.typeName)).value.events) =
      d.mapped.flatMap fun m => (D.entered c.strict r (m.field d.typeName)).flatMap fun x => (c.read x.1 x.2).events :=
    List.flatMap_congr fun m hm => events_contribution hc (hsaid m hm)
  rw [← hmembers]
  cases hcase : d.start with
  | some s =>
    rw [hread, Declaration.instantiate_of_start hcase] at h ⊢
    rw [events_fill h, List.flatMap_map]
    simp
  | none =>
    have harguments : (d.mapped.mapM fun m => (c.contribution r (m.field d.typeName)).value).result =
        .ok (d.mapped.map value) := by
      rw [Traced.result_mapM, hsaid.mapM_eq]
    have hflags : (d.mapped.map fun m => (value m).isSome) =
        d.mapped.map fun m => D.gives c.strict r (m.field d.typeName) :=
      List.map_congr_left fun m hm => isSome_contribution hc (hsaid m hm)
    rw [hread, Declaration.instantiate_of_constructor (D.nodup_members d (mem_of_declaration? hd)) hcase
      (fills_contribution hc r), Traced.events_bind harguments, Traced.events_mapM fun m hm => ⟨_, hsaid m hm⟩]
    congr 1
    rw [Traced.events, Declaration.log_invoke_map, hflags]
    rfl

/-- The events of a reading are those of the objects with a constructor. -/
theorem events_read_filter (hc : c.schema = D.toSchema) (h : (c.read type r).result = .ok o) :
    (c.read type r).events =
      ((D.postorder c.strict type r).filter fun x => x.1.start.isNone).map fun x =>
        D.announcement c.strict x.1 x.2 := by
  induction type, r using reading_induction D c.strict generalizing o with
  | level type r ih =>
    obtain ⟨d, value, hd, hsaid, -, -⟩ := exists_of_read hc h
    rw [events_read_level hc hd h, postorder_of_declaration? hd, List.filter_append, List.map_append,
      List.filter_flatMap, List.map_flatMap]
    congr 1
    · refine List.flatMap_congr fun m hm => ?_
      rw [List.filter_flatMap, List.map_flatMap]
      refine List.flatMap_congr fun x hx => ?_
      have henters := Schema.mem_entered_iff.mp hx
      obtain ⟨p, hp⟩ := exists_read_of_enters (hsaid m hm) (hc ▸ henters)
      exact ih d m x.1 x.2 hd hm henters hp
    · rw [List.filter_singleton]
      cases d.start <;> rfl

/-- **When an object is read, the constructors of all objects in it are announced in post-order, each with the members
that its record gives something. There is an object for each record that the reading comes to, even if a collection
drops it afterwards. Objects without a constructor are not announced.** -/
theorem events_read (hc : c.schema = D.toSchema) (h : (c.read type r).result = .ok o) :
    ((∀ d ∈ D.declarations, d.start = none) →
      (c.read type r).events = (D.postorder c.strict type r).map fun x => D.announcement c.strict x.1 x.2) ∧
    (c.read type r).events =
      ((D.postorder c.strict type r).filter fun x => x.1.start.isNone).map (fun x =>
        D.announcement c.strict x.1 x.2) ∧
    ∀ d s, (d, s) ∈ D.postorder c.strict type r ↔
      D.declaration? d.typeName = some d ∧ D.Visits c.strict type r d.typeName s ∧
      (∃ p, (c.read d.typeName s).result = .ok p) ∧
      ∀ m ∈ d.mapped, ∃ value, (c.contribution s (m.field d.typeName)).value.result = .ok value ∧
        value.isSome = D.gives c.strict s (m.field d.typeName) := by
  have hevents := events_read_filter hc h
  refine ⟨fun hstart => ?_, hevents, fun d s => ⟨fun hmem => ?_, fun ⟨hd, hvisits, _⟩ => ?_⟩⟩
  · rw [hevents, List.filter_eq_self.mpr fun x hx => ?_]
    rw [hstart x.1 (mem_of_declaration? (mem_postorder_iff.mp hx).1)]
    rfl
  · obtain ⟨hd, hvisits⟩ := mem_postorder_iff.mp hmem
    obtain ⟨p, hp⟩ := exists_read_of_visits hc h hvisits
    obtain ⟨d', value, hd', hsaid, -, -⟩ := exists_of_read hc hp
    cases hd.symm.trans hd'
    exact ⟨hd, hvisits, ⟨p, hp⟩, fun m hm => ⟨_, hsaid m hm, isSome_contribution hc (hsaid m hm)⟩⟩
  · exact mem_postorder_iff.mpr ⟨hd, hvisits⟩

/-- Journeys whose stops are dropped, and which are read with everything that is embedded. -/
def stoplessJourneys : Converter :=
  ⟨journeys.toSchema, .empty, .register .standard ⟨"none", fun _ => true, fun _ held _ => held, fun _ held => held⟩,
    false⟩

/-- The stop of a journey is announced although the journey has no stops in the end. -/
theorem events_read_journeyRecord :
    (stoplessJourneys.read "Journey" journeyRecord).result =
        .ok (journey "a" (some (note none)) (some (guide "Ada" (some (contact none (some "Baker"))))) []) ∧
      (stoplessJourneys.read "Journey" journeyRecord).events =
        [⟨"House", Converter.houseDeclaration.constructor.signature, ["street"], [true]⟩,
          ⟨"Contact", contactDeclaration.constructor.signature, ["phone", "house"], [false, true]⟩,
          ⟨"Guide", guideDeclaration.constructor.signature, ["name", "contact"], [true, true]⟩,
          ⟨"Journey", journeyDeclaration.constructor.signature, ["title", "note", "guide", "stops"],
            [true, true, false, true]⟩,
          ⟨"Journey", journeyDeclaration.constructor.signature, ["title", "note", "guide", "stops"],
            [true, true, true, true]⟩] := by
  have hread : (stoplessJourneys.read "Journey" journeyRecord).result =
      .ok (journey "a" (some (note none)) (some (guide "Ada" (some (contact none (some "Baker"))))) []) := by
    cbv
  refine ⟨hread, (events_read (D := journeys) rfl hread).2.1.trans ?_⟩
  cbv

end DeclaredSchema
end EntityMapping
