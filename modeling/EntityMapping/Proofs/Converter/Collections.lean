import EntityMapping.Proofs.Collection
import EntityMapping.Proofs.Converter.Levels

/-!
# Reading collections

A collection is read in steps, each of which may end it: the value has to hold records, the type of the items has to be
found, and a supplier that accepts the sort of the collection; then the records are read in order, and what the supplier
makes of the objects has to consist of objects of the type. These fill the collection.

* `Suppliers.Chooses` — which supplier is taken
* `Converter.result_contribution_of_chooses` — what is read with a supplier
* `Converter.ReadsCollection`, `Converter.readsCollection` — what becomes of a collection that is read
-/

namespace EntityMapping

/-! ## Suppliers -/

namespace Suppliers

variable {S : Suppliers} {kind : CollectionKind} {s : Supplier}

/-- Whether a supplier is the one that was registered last of those that accept a sort of collections. -/
def Chooses (S : Suppliers) (kind : CollectionKind) (s : Supplier) : Prop :=
  ∃ before after, S.registered = before ++ s :: after ∧ s.accepts kind = true ∧ ∀ x ∈ after, x.accepts kind = false

theorem supply_of_chooses (h : S.Chooses kind s) : S.supply kind = .ok (s.supply kind) := by
  obtain ⟨before, after, hregistered, haccepts, hafter⟩ := h
  have hfind : S.registered.reverse.find? (fun x => x.accepts kind) = some s := by
    refine List.find?_eq_some_iff_append.mpr ⟨haccepts, after.reverse, before.reverse, ?_, fun x hx => ?_⟩
    · rw [hregistered, List.reverse_append, List.reverse_cons, List.append_assoc, List.singleton_append]
    · simpa using hafter x (List.mem_reverse.mp hx)
  rw [supply, find, hfind]
  rfl

theorem supply_of_refused (h : ∀ s ∈ S.registered, s.accepts kind = false) :
    S.supply kind = .error (.unsupportedCollection kind.text) := by
  have hfind : S.registered.reverse.find? (fun x => x.accepts kind) = none :=
    List.find?_eq_none.mpr fun x hx => by simpa using h x (List.mem_reverse.mp hx)
  rw [supply, find, hfind]
  rfl

end Suppliers

namespace Converter

variable {c : Converter} {f : FieldMapping} {kind : CollectionKind} {u : TypeName} {t : EntityType} {s : Supplier}
  {r : Record} {v : Value} {rs : List Record} {objects items : List Object}

/-- A value that holds no records is refused. -/
theorem nestedRecords_of_not_holds (h : ∀ rs, ¬ v.HoldsRecords rs) :
    ∃ found, nestedRecords f v = .error (.typeMismatch (.notNested f.name "a list of records" found)) := by
  cases hv : nestedRecords f v with
  | ok rs => exact absurd (nestedRecords_eq_ok_iff.mp hv) (h rs)
  | error e =>
    unfold nestedRecords at hv
    split at hv
    · simp at hv
    · obtain ⟨w, -, hw⟩ := exists_of_mapM_eq_error hv
      unfold nestedRecord at hw
      split at hw
      · simp at hw
      · exact ⟨w, by rw [← Except.error.inj hw]⟩
    · exact ⟨v, by rw [← Except.error.inj hv]⟩

/-- What is no object of the item type does not get into a collection. -/
theorem assemble_of_stranger {staged : Staging} {d : Datum} (hd : d ∈ staged.elements)
    (hstranger : ∀ o, d = .object o → t.isInstance o = false) :
    assemble f t kind staged = .error (.typeMismatch (.wrongType f.member t.typeName)) := by
  unfold assemble
  refine bind_eq_error.mpr (.inl (mapM_eq_error_of_mem (fun b _ e' he' => ?_) hd ?_))
  -- whatever is refused, it is for the same reason
  · split at he'
    · split at he'
      · simp at he'
      · exact (Except.error.inj he').symm
    · exact (Except.error.inj he').symm
  · cases d with
    | object o => exact if_neg (Bool.eq_false_iff.mp (hstranger o rfl))
    | _ => rfl

/-! ## Steps -/

section Steps

variable (hshape : f.shape = .collection kind u) (hr : r.get? f.name = some v)
include hshape hr

theorem contribution_of_not_holds (hv : ∀ rs, ¬ v.HoldsRecords rs) :
    ∃ found, (c.contribution r f).value = .fail (.typeMismatch (.notNested f.name "a list of records" found)) := by
  obtain ⟨found, hfound⟩ := nestedRecords_of_not_holds (f := f) hv
  refine ⟨found, ?_⟩
  rw [traced_contribution_of_collection hshape, hr]
  dsimp only
  rw [hfound]
  rfl

/-- What is said about a collection depends on the records only. -/
theorem contribution_of_holds (hv : v.HoldsRecords rs) :
    (c.contribution r f).value = do
      let t ← c.entity u
      let staging ← .lift (c.suppliers.supply kind)
      let objects ← rs.mapM fun s => c.read u s
      return some (← .lift (assemble f t kind (objects.foldl (fun staged o => staged.add (.object o)) staging))) := by
  rw [traced_contribution_of_collection hshape, hr]
  dsimp only
  rw [nestedRecords_eq_ok_iff.mpr hv]
  rfl

/-- What is read with a supplier. -/
theorem result_contribution_of_chooses (hv : v.HoldsRecords rs) (ht : c.schema.entity u = .ok t)
    (hs : c.suppliers.Chooses kind s) :
    (c.contribution r f).value.result = do
      let objects ← rs.mapM fun s => (c.read u s).result
      return some (← assemble f t kind (objects.foldl (fun staged o => staged.add (.object o)) (s.supply kind))) := by
  rw [contribution_of_collection hshape, hr]
  dsimp only
  rw [nestedRecords_eq_ok_iff.mpr hv, ht, Suppliers.supply_of_chooses hs]
  rfl

end Steps

/-! ## Collections -/

/-- What becomes of the records of a collection when the type of its items and a supplier were found. -/
structure ReadsSupplied (c : Converter) (f : FieldMapping) (kind : CollectionKind) (u : TypeName) (t : EntityType)
    (s : Supplier) (r : Record) (rs : List Record) : Prop where
  /-- The first record that is not read is the error. -/
  failed : ∀ before x after e, rs = before ++ x :: after → (∀ y ∈ before, (c.read u y).result.isOk = true) →
    (c.read u x).result = .error e → (c.contribution r f).value.result = .error e
  /-- So is anything that the supplier gives away and that is no object of the type. -/
  stranger : ∀ objects, List.Forall₂ (fun x o => (c.read u x).result = .ok o) rs objects →
    ∀ d ∈ s.yields kind (objects.map .object), (∀ o, d = .object o → t.isInstance o = false) →
      (c.contribution r f).value.result = .error (.typeMismatch (.wrongType f.member u))
  /-- Otherwise the collection is filled with what the supplier gives away. -/
  filled : ∀ objects items, List.Forall₂ (fun x o => (c.read u x).result = .ok o) rs objects →
    s.yields kind (objects.map .object) = items.map .object → (∀ o ∈ items, t.isInstance o = true) →
      (c.contribution r f).value.result = .ok (some (.collection kind u (kind.ofList t.order items)))

/-- What becomes of the records of a collection. -/
structure ReadsRecords (c : Converter) (f : FieldMapping) (kind : CollectionKind) (u : TypeName) (r : Record)
    (rs : List Record) : Prop where
  /-- If there is something wrong with the type of the items, that is the error. -/
  broken : ∀ e, c.schema.entity u = .error e → (c.contribution r f).value = .fail e
  /-- Without a supplier, nothing is read. -/
  unsupported : ∀ t, c.schema.entity u = .ok t → (∀ s ∈ c.suppliers.registered, s.accepts kind = false) →
    (c.contribution r f).value = .fail (.unsupportedCollection kind.text)
  /-- With the supplier that was registered last, the records are read. -/
  supplied : ∀ t s, c.schema.entity u = .ok t → c.suppliers.Chooses kind s → ReadsSupplied c f kind u t s r rs
  /-- What is read is of the type, if that is what comes into being for it. -/
  own : ∀ t objects, c.schema.entity u = .ok t → t.CreatesOwn →
    List.Forall₂ (fun x o => (c.read u x).result = .ok o) rs objects → ∀ o ∈ objects, t.isInstance o = true
  /-- The standard suppliers fill the collection with the objects that are read. -/
  standard : ∀ t objects, c.schema.entity u = .ok t → c.suppliers = .standard →
    List.Forall₂ (fun x o => (c.read u x).result = .ok o) rs objects → (∀ o ∈ objects, t.isInstance o = true) →
      (kind = .set ∨ kind = .sortedSet → IsTotalPreorderOn t.order fun o => t.isInstance o = true) →
        ∃ items, (c.contribution r f).value.result = .ok (some (.collection kind u items)) ∧
          kind.Holds t.order objects items

/-- What becomes of a collection that is read. -/
structure ReadsCollection (c : Converter) (f : FieldMapping) (kind : CollectionKind) (u : TypeName) : Prop where
  /-- Values that hold the same records are read alike. -/
  alike : ∀ r r' v v' rs, r.get? f.name = some v → r'.get? f.name = some v' → v.HoldsRecords rs →
    v'.HoldsRecords rs → (c.contribution r f).value = (c.contribution r' f).value
  /-- Values that hold no records are refused. -/
  other : ∀ r v, r.get? f.name = some v → (∀ rs, ¬ v.HoldsRecords rs) →
    ∃ found, (c.contribution r f).value = .fail (.typeMismatch (.notNested f.name "a list of records" found))
  records : ∀ r v rs, r.get? f.name = some v → v.HoldsRecords rs → ReadsRecords c f kind u r rs
  /-- The collection is put into the member. -/
  written : ∀ r items o, (c.contribution r f).value.result = .ok (some (.collection kind u items)) →
    o.type = f.owner →
      ((c.contribution r f).apply o).result = .ok (o.set f.member (.collection kind u items)) ∧
        f.read (o.set f.member (.collection kind u items)) = some (.collection kind u items)

theorem readsSupplied (hshape : f.shape = .collection kind u) (hr : r.get? f.name = some v) (hv : v.HoldsRecords rs)
    (ht : c.schema.entity u = .ok t) (hs : c.suppliers.Chooses kind s) : ReadsSupplied c f kind u t s r rs := by
  have hresult := result_contribution_of_chooses hshape hr hv ht hs
  have hname : t.typeName = u := Schema.typeName_of_entity ht
  constructor
  case failed =>
    intro before x after e hrs hbefore hx
    rw [hresult]
    exact bind_eq_error.mpr (.inl (mapM_eq_error_iff.mpr ⟨before, x, after, hrs, hbefore, hx⟩))
  case stranger =>
    intro objects hobjects d hd hstranger
    rw [hresult, mapM_eq_ok.mpr hobjects, ← hname]
    have hd : d ∈ (objects.foldl (fun staged o => staged.add (.object o)) (s.supply kind)).elements := by
      rwa [Staging.elements_supply]
    exact bind_eq_error.mpr (.inr ⟨objects, rfl, bind_eq_error.mpr (.inl (assemble_of_stranger hd hstranger))⟩)
  case filled =>
    intro objects items hobjects hyields hitems
    rw [hresult, mapM_eq_ok.mpr hobjects, ← hname]
    have hstaged := (Staging.elements_supply s kind objects).trans hyields
    exact bind_eq_ok.mpr ⟨objects, rfl, bind_eq_ok.mpr ⟨_, assemble_of_objects hstaged hitems, rfl⟩⟩

theorem readsRecords (hshape : f.shape = .collection kind u) (hr : r.get? f.name = some v) (hv : v.HoldsRecords rs) :
    ReadsRecords c f kind u r rs where
  broken e he := by
    rw [contribution_of_holds hshape hr hv, entity, he]
    rfl
  unsupported t ht hrefused := by
    rw [contribution_of_holds hshape hr hv, entity, ht, Suppliers.supply_of_refused hrefused]
    rfl
  supplied t s ht hs := readsSupplied hshape hr hv ht hs
  own t objects ht hown hobjects o ho := by
    obtain ⟨x, -, hx⟩ := exists_of_forall₂ hobjects.flip ho
    exact EntityType.isInstance_of_read ht hown hx
  standard t objects ht hsuppliers hobjects hinstances horder := by
    have htypes : ∀ o ∈ objects, o.type = u := fun o ho =>
      (of_decide_eq_true (hinstances o ho)).trans (Schema.typeName_of_entity ht)
    exact ⟨kind.ofList t.order objects,
      contribution_some_objects hsuppliers hshape hr (nestedRecords_eq_ok_iff.mpr hv) ht hobjects htypes,
      CollectionKind.holds_ofList horder hinstances⟩

/-- **A collection is read step by step**: the first of them that goes wrong is reported, and otherwise the member
becomes the collection of what the supplier made of the objects. -/
theorem readsCollection (hshape : f.shape = .collection kind u) : ReadsCollection c f kind u where
  alike r r' v v' rs hr hr' hv hv' := by
    rw [contribution_of_holds hshape hr hv, contribution_of_holds hshape hr' hv']
  other r v hr hv := contribution_of_not_holds hshape hr hv
  records r v rs hr hv := readsRecords hshape hr hv
  written r items o hitems ho := by
    have hfits : (Datum.collection kind u items).fits f.shape = true := by simp [hshape, Datum.fits]
    have hwrite : f.write o (.collection kind u items) = .ok (o.set f.member (.collection kind u items)) := by
      rw [FieldMapping.write, if_pos hfits, if_pos ho]
    refine ⟨?_, FieldMapping.read_write hwrite⟩
    rw [Contribution.apply, Traced.result_bind, hitems]
    exact hwrite

/-! ### Medals -/

/-- The rank of a medal. -/
def medalRank (o : Object) : Int :=
  match o.get? "rank" with
  | some (.scalar .int64 n) => Int64.toInt n
  | _ => 0

/-- A medal in a sport; medals of one rank are equal. -/
def medalDeclaration : Declaration where
  name := "Medal"
  typeName := "Medal"
  embeddable := true
  recordName := none
  members := [.required "rank" "i64" ⟨"i64", .value .int64⟩, .required "sport" "String" ⟨"String", .value .text⟩]
  start := none
  order o p := compare (medalRank o) (medalRank p)

/-- A type with two ids. -/
def twinDeclaration : Declaration where
  name := "Twin"
  typeName := "Twin"
  embeddable := false
  recordName := none
  members :=
    [(Member.required "a" "i64" ⟨"i64", .value .int64⟩).asId, (Member.required "b" "i64" ⟨"i64", .value .int64⟩).asId]
  start := none
  order _ _ := .eq

def medalSchema : Schema := ⟨[medalDeclaration.describe, twinDeclaration.describe], fun _ => 0, by decide⟩

def medal (rank : Int64) (sport : String) : Object :=
  ⟨"Medal", [("rank", some (.scalar .int64 rank)), ("sport", some (.scalar .text sport))]⟩

def medalRecord (rank : Int64) (sport : String) : Record :=
  ⟨"Medal", [("rank", .integer rank), ("sport", .text sport)]⟩

/-- The record of an athlete, with what is stored as the medals. -/
def athleteRecord (medals : Value) : Record := ⟨"Athlete", [("medals", medals)]⟩

/-- The member for the medals of an athlete. -/
def medalsField (kind : CollectionKind) (item : TypeName) : FieldMapping :=
  .of "Athlete" "medals" ⟨"", .collection kind item⟩

/-- A supplier that turns lists round. -/
def reversing : Supplier := ⟨"reversing", (· = .list), fun _ held d => d :: held, fun _ held => held⟩

/-- A supplier that was registered after the standard ones turns a list round; without suppliers there is not even an
empty list; and of medals of one rank, a sorted set holds the first. -/
theorem readsCollection_medals :
    ((Converter.mk medalSchema .empty (Suppliers.standard.register reversing) true).contribution
        (athleteRecord (.array [.record (medalRecord 1 "run"), .record (medalRecord 2 "swim")]))
        (medalsField .list "Medal")).value.result =
      .ok (some (.collection .list "Medal" [medal 2 "swim", medal 1 "run"])) ∧
    ((Converter.mk medalSchema .empty .empty true).contribution (athleteRecord (.records []))
        (medalsField .list "Medal")).value = .fail (.unsupportedCollection "list") ∧
    ∃ items, ((ofSchema medalSchema).contribution
        (athleteRecord (.records [medalRecord 2 "run", medalRecord 1 "swim", medalRecord 2 "ski"]))
        (medalsField .sortedSet "Medal")).value.result = .ok (some (.collection .sortedSet "Medal" items)) ∧
      CollectionKind.sortedSet.Holds medalDeclaration.order [medal 2 "run", medal 1 "swim", medal 2 "ski"] items := by
  have hentity : medalSchema.entity "Medal" = .ok medalDeclaration.entityType := by cbv
  have hread (c : Converter) (hc : c.schema = medalSchema) (rank : Int64) (sport : String) :
      (c.read "Medal" (medalRecord rank sport)).result = .ok (medal rank sport) := by
    obtain ⟨S, attributes, suppliers, strict⟩ := c
    subst hc
    cbv
  refine ⟨?_, ?_, ?_⟩
  · have hreads : ReadsCollection (Converter.mk medalSchema .empty (Suppliers.standard.register reversing) true)
        (medalsField .list "Medal") .list "Medal" := readsCollection rfl
    have hchooses : (Suppliers.standard.register reversing).Chooses .list reversing :=
      ⟨Suppliers.standard.registered, [], rfl, rfl, by simp⟩
    exact ((hreads.records _ _ _ rfl (.array [medalRecord 1 "run", medalRecord 2 "swim"])).supplied _ _ hentity
      hchooses).filled [medal 1 "run", medal 2 "swim"] [medal 2 "swim", medal 1 "run"]
        (.cons (hread _ rfl 1 "run") (.cons (hread _ rfl 2 "swim") .nil)) rfl (by decide)
  · have hreads : ReadsCollection (Converter.mk medalSchema .empty .empty true) (medalsField .list "Medal") .list
        "Medal" := readsCollection rfl
    exact (hreads.records _ _ _ rfl (.records [])).unsupported _ hentity (by decide)
  · have hreads : ReadsCollection (ofSchema medalSchema) (medalsField .sortedSet "Medal") .sortedSet "Medal" :=
      readsCollection rfl
    have horder : IsTotalPreorderOn medalDeclaration.order fun o => medalDeclaration.entityType.isInstance o = true :=
      .of_transCmp compare (fun o n => medalRank o = n) (fun o _ => ⟨_, rfl⟩) (by rintro o p _ _ rfl rfl; rfl)
    exact (hreads.records _ _ _ rfl
      (.records [medalRecord 2 "run", medalRecord 1 "swim", medalRecord 2 "ski"])).standard _
        [medal 2 "run", medal 1 "swim", medal 2 "ski"] hentity rfl
        (.cons (hread _ rfl 2 "run") (.cons (hread _ rfl 1 "swim") (.cons (hread _ rfl 2 "ski") .nil)))
        (by decide) fun _ => horder

/-- Without suppliers, a collection is not always unsupported: what is wrong with the type of its items is found
first. -/
theorem not_always_unsupported :
    ¬ ∀ (c : Converter) (f : FieldMapping) (kind : CollectionKind) (u : TypeName) (r : Record) (rs : List Record),
      f.shape = .collection kind u → r.get? f.name = some (.records rs) →
        (∀ s ∈ c.suppliers.registered, s.accepts kind = false) →
          (c.contribution r f).value.result = .error (.unsupportedCollection kind.text) := by
  intro h
  have hresult := h ⟨medalSchema, .empty, .empty, true⟩ (medalsField .list "Twin") .list "Twin"
    (athleteRecord (.records [])) [] rfl rfl (by decide)
  have htwin : medalSchema.entity "Twin" = .error (.invalidArgument (.manyIds "Twin" 2)) := by cbv
  rw [contribution_of_holds rfl rfl (.records []), entity, htwin] at hresult
  cases Except.error.inj hresult

end Converter
end EntityMapping
