import EntityMapping.Proofs.Converter.Thinning

/-!
# With and without strict mode

Without strict mode all embedded objects are read, in strict mode only those of which the record has a name. So what is
read in strict mode is the thinned object. And where the record has a name of every embedded object, the mode does not
matter, not even for the errors.

* `DeclaredSchema.contribution_thin` — what a record says about a field in strict mode
* `DeclaredSchema.read_thin` — the object that is read in strict mode
* `DeclaredSchema.read_eq_error_of_mentions` — an error of the search for names is an error of the reading
* `DeclaredSchema.strict_refines_lenient` — both modes beside each other
-/

namespace EntityMapping
namespace DeclaredSchema

/-- A converter with the standard suppliers that is not strict. -/
def lenientConverter (D : DeclaredSchema) (a : Attributes) : Converter := ⟨D.toSchema, a, .standard, false⟩

/-- Whether embedded objects are optional. -/
def EmbedsOptional (D : DeclaredSchema) : Prop :=
  ∀ d ∈ D.declarations, ∀ m ∈ d.mapped, ∀ u, m.type.shape = .embedded u → m.presence = .optional

/-- Whether no collection is a set. -/
def HoldsNoSets (D : DeclaredSchema) : Prop :=
  ∀ d ∈ D.declarations, ∀ m ∈ d.mapped, ∀ kind u, m.type.shape = .collection kind u → kind ≠ .set ∧ kind ≠ .sortedSet

variable {D : DeclaredSchema} {a : Attributes} {d : Declaration} {m : Member} {type u : TypeName} {r s : Record}
  {o p : Object} {e : MapError}

/-! ## Thinned objects are read -/

/-- What a record says about a plain field does not depend on the mode. -/
theorem contribution_of_value_eq {f : FieldMapping} {t : ScalarType} (hshape : f.shape = .value t) :
    ((D.converter a).contribution r f).value.result = ((D.lenientConverter a).contribution r f).value.result := by
  rw [Converter.contribution_of_value hshape, Converter.contribution_of_value hshape]
  rfl

theorem contribution_thin_of_value {t : ScalarType} {x : Option Datum} (hshape : (m.field type).shape = .value t)
    (hx : ((D.lenientConverter a).contribution r (m.field type)).value.result = .ok x) :
    ((D.converter a).contribution r (m.field type)).value.result = .ok (x.bind (D.thinMember r type m)) := by
  rw [contribution_of_value_eq hshape, hx]
  cases x with
  | none => rfl
  | some y =>
    have hfits := fits_of_contribution (c := D.lenientConverter a) rfl hx
    rw [hshape] at hfits
    have hembeds : (m.field type).embeds? = none := by simp [FieldMapping.embeds?, hshape]
    rw [Option.bind_some, thinMember_of_not_embedded hembeds, thinDatum_of_fits_value hfits]

theorem contribution_thin_of_embedded {x : Option Datum} (hshape : (m.field type).shape = .embedded u)
    (hx : ((D.lenientConverter a).contribution r (m.field type)).value.result = .ok x)
    (hinside : ∀ p, ((D.lenientConverter a).read u r).result = .ok p →
      ((D.converter a).read u r).result = .ok (D.thin r p)) :
    ((D.converter a).contribution r (m.field type)).value.result = .ok (x.bind (D.thinMember r type m)) := by
  rcases Converter.embedded_cases hshape hx with ⟨t, p, -, -, hp, rfl⟩ | ⟨hstrict, -, -⟩
  · show _ = Except.ok (D.thinMember r type m (.object p))
    rw [thinMember, isUnmentioned, show m.type.shape = .embedded u from hshape]
    by_cases hmentioned : (D.flatNames u).any r.contains = true
    · rw [contribution_of_mentioned (c := D.converter a) rfl rfl hshape hmentioned (hinside p hp),
        Converter.sources_of_embedded hshape, thinDatum_object]
      simp [hmentioned]
    · have hu := accepts_of_read (c := D.lenientConverter a) rfl hp
      obtain ⟨d, -, hd, -⟩ := exists_of_read (c := D.lenientConverter a) rfl hp
      rw [contribution_of_embedded_strict (c := D.converter a) rfl hu rfl hshape hd, if_neg hmentioned]
      simp [hmentioned]
  · cases hstrict

theorem contribution_thin_of_entity {x : Option Datum} (hshape : (m.field type).shape = .entity u)
    (hx : ((D.lenientConverter a).contribution r (m.field type)).value.result = .ok x)
    (hinside : ∀ s, D.Enters false r (m.field type) u s → ∀ p, ((D.lenientConverter a).read u s).result = .ok p →
      ((D.converter a).read u s).result = .ok (D.thin s p)) :
    ((D.converter a).contribution r (m.field type)).value.result = .ok (x.bind (D.thinMember r type m)) := by
  have hembeds : (m.field type).embeds? = none := by simp [FieldMapping.embeds?, hshape]
  rw [Converter.contribution_of_entity hshape] at hx ⊢
  cases hv : r.get? (m.field type).name with
  | none =>
    rw [hv] at hx
    cases hx
    rfl
  | some v =>
    rw [hv] at hx
    cases v with
    | record s =>
      obtain ⟨p, hp, hx⟩ := bind_eq_ok.mp hx
      cases hx
      rw [Option.bind_some, thinMember_of_not_embedded hembeds, Converter.sources_of_entity hshape hv, thinDatum_object]
      exact bind_eq_ok.mpr ⟨D.thin s p, hinside s (.entity hshape hv) p hp, rfl⟩
    | _ => cases hx

/-- The records of a collection are the same in either mode, and from each of them the thinned object is read. -/
theorem contribution_thin_of_collection {kind : CollectionKind} {x : Option Datum}
    (hset : kind ≠ .set) (hsorted : kind ≠ .sortedSet) (hshape : (m.field type).shape = .collection kind u)
    (hx : ((D.lenientConverter a).contribution r (m.field type)).value.result = .ok x)
    (hinside : ∀ s, D.Enters false r (m.field type) u s → ∀ p, ((D.lenientConverter a).read u s).result = .ok p →
      ((D.converter a).read u s).result = .ok (D.thin s p)) :
    ((D.converter a).contribution r (m.field type)).value.result = .ok (x.bind (D.thinMember r type m)) := by
  have hembeds : (m.field type).embeds? = none := by simp [FieldMapping.embeds?, hshape]
  cases hv : r.get? (m.field type).name with
  | none =>
    rw [Converter.contribution_of_collection hshape, hv] at hx ⊢
    cases hx
    rfl
  | some v =>
    have hparts := hx
    rw [Converter.contribution_of_collection hshape, hv] at hparts
    simp only [bind_eq_ok] at hparts
    obtain ⟨rs, hrs, t, ht, -⟩ := hparts
    obtain ⟨d, hd, rfl⟩ := exists_declaration? ht
    rw [contribution_of_collection_standard (c := D.lenientConverter a) rfl rfl hshape hv hrs ht, bind_eq_ok] at hx
    obtain ⟨objects, hobjects, hx⟩ := hx
    cases hx
    have hthinned : rs.mapM (fun s => ((D.converter a).read u s).result) = .ok (thinObjects D rs objects) := by
      refine mapM_eq_ok.mpr (forall₂_thinObjects ?_)
      refine ((List.forall₂_and_left rs objects).mpr ⟨fun _ hs => hs, mapM_eq_ok.mp hobjects⟩).imp fun s p hsp => ?_
      exact hinside s (.collection hshape hv (Converter.nestedRecords_eq_ok_iff.mp hrs) hsp.1) p hsp.2
    rw [contribution_of_collection_standard (c := D.converter a) rfl rfl hshape hv hrs ht, hthinned, Option.bind_some,
      thinMember_of_not_embedded hembeds, Converter.sources_of_collection hshape hv hrs, thinDatum_collection,
      CollectionKind.ofList_of_not_set hset hsorted, bind_eq_ok]
    exact ⟨_, rfl, by rw [CollectionKind.ofList_of_not_set hset hsorted]⟩

/-- In strict mode, a record says about a field what is left of it when it is thinned. -/
theorem contribution_thin (hsets : D.HoldsNoSets) (hd : D.declaration? type = some d) (hm : m ∈ d.mapped)
    {x : Option Datum} (hx : ((D.lenientConverter a).contribution r (m.field type)).value.result = .ok x)
    (hinside : ∀ u s, D.Enters false r (m.field type) u s → ∀ p, ((D.lenientConverter a).read u s).result = .ok p →
      ((D.converter a).read u s).result = .ok (D.thin s p)) :
    ((D.converter a).contribution r (m.field type)).value.result = .ok (x.bind (D.thinMember r type m)) := by
  cases hshape : m.type.shape with
  | value t => exact contribution_thin_of_value hshape hx
  | embedded u => exact contribution_thin_of_embedded hshape hx (hinside u r (.embedded hshape nofun))
  | entity u => exact contribution_thin_of_entity hshape hx (hinside u)
  | collection kind u =>
    obtain ⟨hset, hsorted⟩ := hsets d (mem_of_declaration? hd) m hm kind u hshape
    exact contribution_thin_of_collection hset hsorted hshape hx (hinside u)

/-- In strict mode, the thinned object is read. -/
theorem read_thin (hoptional : D.EmbedsOptional) (hsets : D.HoldsNoSets) (hstarts : D.StartsEmpty) (a : Attributes)
    (type : TypeName) (r : Record) : ∀ o, ((D.lenientConverter a).read type r).result = .ok o →
      ((D.converter a).read type r).result = .ok (D.thin r o) := by
  induction type, r using reading_induction D false with
  | level type r ih =>
    intro o h
    obtain ⟨ht, -⟩ := accepts_of_read (c := D.lenientConverter a) rfl h
    obtain ⟨d, hd, rfl⟩ := exists_declaration? ht
    have hmem := mem_of_declaration? hd
    obtain ⟨value, hsaid, hdemands, rfl⟩ := (read_eq_ok_iff (c := D.lenientConverter a) rfl hd ht).mp h
    obtain rfl := typeName_of_declaration? hd
    have hstart (s : Object) (hs : d.start = some s) (m : Member) (hm : m ∈ d.mapped)
        (hpresence : m.presence = .optional) : s.get? m.name = none :=
      hstarts d hmem s hs m hm (by simp [Member.mayBeEmpty, hpresence])
    rw [thin_objectOf hd (hoptional d hmem) hstart fun m hm =>
      isSome_contribution (c := D.lenientConverter a) rfl (hsaid m hm)]
    refine (read_eq_ok_iff (c := D.converter a) rfl hd ht).mpr ⟨_, fun m hm => ?_, fun m hm hdemanded => ?_, rfl⟩
    · exact contribution_thin hsets hd hm (hsaid m hm) fun u s hs p hp => ih d m u s hd hm hs p hp
    · obtain ⟨x, hx⟩ := Option.isSome_iff_exists.mp (hdemands m hm hdemanded)
      have hmentioned : D.isUnmentioned r m = false := by
        by_contra hunmentioned
        have hpresence := presence_of_isUnmentioned (by simpa using hunmentioned) (hoptional d hmem m hm)
        have hmay := Declaration.mayBeEmpty_of_demands hdemanded
        simp [Member.mayBeEmpty, hpresence] at hmay
      simp [hx, thinMember, hmentioned]

/-! ## Where everything is mentioned -/

/-- Whether the record has a name of every embedded object, at every level. -/
def MentionsAll (D : DeclaredSchema) (type : TypeName) (r : Record) : Prop :=
  ∀ u s, D.Visits false type r u s → ∀ d, D.declaration? u = some d → ∀ m ∈ d.mapped, ∀ v,
    m.type.shape = .embedded v → ∃ name ∈ D.flatNames v, s.contains name = true

theorem MentionsAll.any (h : D.MentionsAll type r) (hd : D.declaration? type = some d) (hm : m ∈ d.mapped)
    (hshape : m.type.shape = .embedded u) : (D.flatNames u).any r.contains = true :=
  List.any_eq_true.mpr (h type r .self d hd m hm u hshape)

theorem MentionsAll.inside (h : D.MentionsAll type r) (hd : D.declaration? type = some d) (hm : m ∈ d.mapped)
    (hs : D.Enters false r (m.field d.typeName) u s) : D.MentionsAll u s :=
  fun v t hvisits => h v t (.inside hd hm hs hvisits)

/-- For this, the embedded objects one level down and the records inside matter. -/
theorem mentionsAll_of_level (hd : D.declaration? type = some d)
    (hnames : ∀ m ∈ d.mapped, ∀ v, m.type.shape = .embedded v → ∃ name ∈ D.flatNames v, r.contains name = true)
    (hinside : ∀ m ∈ d.mapped, ∀ u s, D.Enters false r (m.field d.typeName) u s → D.MentionsAll u s) :
    D.MentionsAll type r := by
  intro u s hvisits
  cases hvisits with
  | self =>
    intro d' hd'
    cases hd.symm.trans hd'
    exact hnames
  | inside hd' hm hs hrest =>
    cases hd.symm.trans hd'
    exact hinside _ hm _ _ hs u s hrest

/-- A search that fails has passed over the items before the one that it fails at. -/
theorem mapM_eq_error_of_anyM {ε α β : Type} {f : α → Except ε Bool} {g : α → Except ε β} {as : List α} {e : ε}
    (hfalse : ∀ a ∈ as, f a = .ok false → ∃ b, g a = .ok b) (herror : ∀ a ∈ as, f a = .error e → g a = .error e)
    (h : as.anyM f = .error e) : as.mapM g = .error e := by
  induction as with
  | nil => cases h
  | cons a as ih =>
    rw [List.anyM, bind_eq_error] at h
    rw [List.mapM_cons]
    rcases h with ha | ⟨found, ha, h⟩
    · rw [herror a List.mem_cons_self ha]
      rfl
    · cases found with
      | true => cases h
      | false =>
        obtain ⟨b, hb⟩ := hfalse a List.mem_cons_self ha
        have htail := ih (fun c hc => hfalse c (List.mem_cons_of_mem a hc))
          (fun c hc => herror c (List.mem_cons_of_mem a hc)) h
        rw [hb, htail]
        rfl

/-- An error of the search for the names of a type is met when an object of the type is read: where everything is
mentioned, the search comes no further than to the first embedded object. -/
theorem read_eq_error_of_mentions (a : Attributes) (type : TypeName) (h : D.MentionsAll type r)
    (hmentions : Converter.mentions D.toSchema type r = .error e) :
    ((D.lenientConverter a).read type r).result = .error e := by
  cases ht : D.entity type with
  | error e' =>
    rw [Converter.mentions_of_error ht] at hmentions
    cases hmentions
    rw [Converter.read_of_error (c := D.lenientConverter a) ht]
    rfl
  | ok t =>
    obtain ⟨d, hd, rfl⟩ := exists_declaration? ht
    rw [Converter.mentions_eq ht] at hmentions
    refine (read_eq_error_iff (c := D.lenientConverter a) rfl hd ht).mpr (.inl ?_)
    have hfields := mapM_eq_error_of_anyM (g := fun f => ((D.lenientConverter a).contribution r f).value.result)
      (fun f hf hfalse => ?_) (fun f hf herror => ?_) hmentions
    · rwa [Declaration.entityType, List.mapM_map] at hfields
    · -- what is not found is not embedded, and the record says nothing about it
      obtain ⟨m, hm, rfl⟩ := List.mem_map.mp hf
      unfold Converter.mentionsField at hfalse
      split at hfalse
      · next u hu =>
        have hmentioned := h.any hd hm (FieldMapping.embeds?_eq_some_iff.mp hu)
        cases hmentioned.symm.trans (Converter.any_eq_false_of_mentions hfalse)
      · next hu =>
        have hname : r.get? (m.field d.typeName).name = none := by
          simpa [RecordOf.contains_eq_isSome] using Except.ok.inj hfalse
        exact ⟨none, Converter.contribution_of_get?_none hu hname⟩
    · obtain ⟨m, hm, rfl⟩ := List.mem_map.mp hf
      unfold Converter.mentionsField at herror
      split at herror
      · next u hu =>
        have hshape := FieldMapping.embeds?_eq_some_iff.mp hu
        have hdepth := Schema.depth_lt_of_embeds ht hf hu
        have hread := read_eq_error_of_mentions a u (h.inside hd hm (.embedded hshape (by simp))) herror
        rw [Converter.contribution_of_embedded_lenient hshape rfl, hread]
        rfl
      · cases herror
termination_by D.depth type

/-- Where everything is mentioned, an embedded object is read in either mode, and not dropped afterwards. -/
theorem contribution_eq_of_embedded (h : D.MentionsAll u r) (hmentioned : (D.flatNames u).any r.contains = true)
    {f : FieldMapping} (hshape : f.shape = .embedded u)
    (hread : ((D.converter a).read u r).result = ((D.lenientConverter a).read u r).result) :
    ((D.converter a).contribution r f).value.result = ((D.lenientConverter a).contribution r f).value.result := by
  rw [Converter.contribution_of_embedded_lenient (c := D.lenientConverter a) hshape rfl, ← hread]
  cases hresult : ((D.converter a).read u r).result with
  | ok p =>
    exact contribution_of_mentioned (c := D.converter a) rfl rfl hshape hmentioned hresult
  | error e =>
    rw [Converter.contribution_of_embedded (c := D.converter a) hshape]
    refine bind_eq_error.mpr ?_
    cases ht : D.entity u with
    | error e' =>
      rw [Converter.read_of_error (c := D.converter a) ht] at hresult
      cases hresult
      exact .inl ht
    | ok t =>
      refine .inr ⟨t, ht, bind_eq_error.mpr ?_⟩
      cases hmentions : Converter.mentions D.toSchema u r with
      | error e' =>
        have hlenient := read_eq_error_of_mentions a u h hmentions
        rw [← hread, hresult] at hlenient
        cases hlenient
        exact .inl hmentions
      | ok mentioned =>
        cases mentioned with
        | false => cases hmentioned.symm.trans (Converter.any_eq_false_of_mentions hmentions)
        | true => exact .inr ⟨true, hmentions, bind_eq_error.mpr (.inl hresult)⟩

/-- Where everything is mentioned, a record says the same about a field in either mode. -/
theorem contribution_eq_of_mentionsAll (h : D.MentionsAll type r) (hd : D.declaration? type = some d)
    (hm : m ∈ d.mapped)
    (hinside : ∀ u s, D.Enters false r (m.field d.typeName) u s →
      ((D.converter a).read u s).result = ((D.lenientConverter a).read u s).result) :
    ((D.converter a).contribution r (m.field d.typeName)).value.result =
      ((D.lenientConverter a).contribution r (m.field d.typeName)).value.result := by
  cases hshape : (m.field d.typeName).shape with
  | value t => exact contribution_of_value_eq hshape
  | embedded u =>
    have henters : D.Enters false r (m.field d.typeName) u r := .embedded hshape nofun
    exact contribution_eq_of_embedded (h.inside hd hm henters) (h.any hd hm hshape) hshape (hinside u r henters)
  | entity u =>
    rw [Converter.contribution_of_entity hshape, Converter.contribution_of_entity hshape]
    cases hv : r.get? (m.field d.typeName).name with
    | none => rfl
    | some v =>
      cases v with
      | record s => simp only [hinside u s (.entity hshape hv)]
      | _ => rfl
  | collection kind u =>
    rw [Converter.contribution_of_collection hshape, Converter.contribution_of_collection hshape]
    cases hv : r.get? (m.field d.typeName).name with
    | none => rfl
    | some v =>
      cases hrs : Converter.nestedRecords (m.field d.typeName) v with
      | error e => simp only [hrs, bind, Except.bind]
      | ok rs =>
        have hreads : (rs.mapM fun s => ((D.converter a).read u s).result) =
            rs.mapM fun s => ((D.lenientConverter a).read u s).result :=
          mapM_congr fun s hs => hinside u s (.collection hshape hv (Converter.nestedRecords_eq_ok_iff.mp hrs) hs)
        have hok : (.ok rs : Except MapError (List Record)) = pure rs := rfl
        simp only [hrs, hok, pure_bind, hreads]
        rfl

/-- Where everything is mentioned, the same is read in either mode. -/
theorem read_eq_of_mentionsAll (a : Attributes) (type : TypeName) (r : Record) : D.MentionsAll type r →
    ((D.converter a).read type r).result = ((D.lenientConverter a).read type r).result := by
  induction type, r using reading_induction D false with
  | level type r ih =>
    intro h
    cases ht : D.entity type with
    | error e =>
      rw [Converter.read_of_error (c := D.lenientConverter a) ht, Converter.read_of_error (c := D.converter a) ht]
    | ok t =>
      obtain ⟨d, hd, rfl⟩ := exists_declaration? ht
      have hsame : ∀ m ∈ d.mapped, ((D.converter a).contribution r (m.field d.typeName)).value.result =
          ((D.lenientConverter a).contribution r (m.field d.typeName)).value.result := fun m hm =>
        contribution_eq_of_mentionsAll h hd hm fun u s hs => ih d m u s hd hm hs (h.inside hd hm hs)
      cases hresult : ((D.lenientConverter a).read type r).result with
      | ok o =>
        obtain ⟨value, hsaid, hdemands, rfl⟩ := (read_eq_ok_iff (c := D.lenientConverter a) rfl hd ht).mp hresult
        exact (read_eq_ok_iff (c := D.converter a) rfl hd ht).mpr
          ⟨value, fun m hm => (hsame m hm).trans (hsaid m hm), hdemands, rfl⟩
      | error e =>
        rw [read_eq_error_iff (c := D.lenientConverter a) rfl hd ht, ← mapM_congr hsame] at hresult
        refine (read_eq_error_iff (c := D.converter a) rfl hd ht).mpr (hresult.imp_right ?_)
        rintro ⟨value, m, hsaid, hmissing, rfl⟩
        exact ⟨value, m, fun n hn => (hsame n hn).trans (hsaid n hn), hmissing, rfl⟩

/-- **Strict mode refines the other one. What is read without it is read with it, except that embedded objects are
taken out of which there is no name in the record that they were read from. Where there is a name of each, the same is
read in either mode, or there is the same error.** -/
theorem strict_refines_lenient (D : DeclaredSchema) (a : Attributes) (type : TypeName) (r : Record)
    (hoptional : D.EmbedsOptional) (hsets : D.HoldsNoSets) (hstarts : D.StartsEmpty) :
    (∀ o, ((D.lenientConverter a).read type r).result = .ok o →
      ((D.converter a).read type r).result = .ok (D.thin r o)) ∧
    (D.MentionsAll type r → ((D.converter a).read type r).result = ((D.lenientConverter a).read type r).result) := by
  constructor
  · intro o h
    exact read_thin hoptional hsets hstarts a type r o h
  · intro h
    exact read_eq_of_mentionsAll a type r h

theorem embedsOptional_journeys : journeys.EmbedsOptional := by
  have hempty : ∀ d ∈ journeys.declarations, ∀ m ∈ d.mapped, m.type.shape.kind = .embedded → m.mayBeEmpty = true := by
    decide
  intro d hd m hm u hshape
  have hmay := hempty d hd m hm (by rw [hshape]; rfl)
  have hmapped := (List.mem_filter.mp hm).2
  cases hpresence : m.presence with
  | optional => rfl
  | required | defaulted x => simp [Member.mayBeEmpty, hpresence] at hmay
  | skipped x => simp [Member.isMapped, hpresence] at hmapped

theorem holdsNoSets_journeys : journeys.HoldsNoSets := by
  have hlist : ∀ d ∈ journeys.declarations, ∀ m ∈ d.mapped, m.type.shape.kind = .collection →
      m.type.shape = .collection .list "Journey" := by decide
  intro d hd m hm kind u hshape
  cases hshape.symm.trans (hlist d hd m hm (by rw [hshape]; rfl))
  exact ⟨nofun, nofun⟩

/-- What is known of a guide has a name of each embedded object. -/
theorem mentionsAll_guideRecord : journeys.MentionsAll "Guide" guideRecord := by
  have hhouse : journeys.MentionsAll "House" guideRecord := by
    refine mentionsAll_of_level (d := Converter.houseDeclaration) rfl (fun m hm v hshape => ?_) fun m hm u s hs => ?_
    · obtain rfl := List.mem_singleton.mp (show m ∈ Converter.houseDeclaration.members from hm)
      cases hshape
    · obtain rfl := List.mem_singleton.mp (show m ∈ Converter.houseDeclaration.members from hm)
      cases hs.target?_eq
  have hcontact : journeys.MentionsAll "Contact" guideRecord := by
    have hnames : journeys.flatNames "House" = ["street"] := by cbv
    refine mentionsAll_of_level (d := contactDeclaration) rfl (fun m hm v hshape => ?_) fun m hm u s hs => ?_
    · rcases List.mem_pair.mp (show m ∈ contactDeclaration.members from hm) with rfl | rfl
      · cases hshape
      · cases hshape
        exact ⟨"street", by simp [hnames], rfl⟩
    · rcases List.mem_pair.mp (show m ∈ contactDeclaration.members from hm) with rfl | rfl
      · cases hs.target?_eq
      · obtain ⟨rfl, rfl⟩ := hs.eq_of_embedded rfl
        exact hhouse
  have hnames : journeys.flatNames "Contact" = ["phone", "street"] := by cbv
  refine mentionsAll_of_level (d := guideDeclaration) rfl (fun m hm v hshape => ?_) fun m hm u s hs => ?_
  · rcases List.mem_pair.mp (show m ∈ guideDeclaration.members from hm) with rfl | rfl
    · cases hshape
    · cases hshape
      exact ⟨"street", by simp [hnames], rfl⟩
  · rcases List.mem_pair.mp (show m ∈ guideDeclaration.members from hm) with rfl | rfl
    · cases hs.target?_eq
    · obtain ⟨rfl, rfl⟩ := hs.eq_of_embedded rfl
      exact hcontact

/-- The note of a journey is there unless in strict mode, but without a text. A guide is the same in either mode. -/
theorem strict_refines_lenient_journeyRecord :
    journeys.EmbedsOptional ∧ journeys.HoldsNoSets ∧ journeys.StartsEmpty ∧
      ((journeys.lenientConverter .empty).read "Journey" journeyRecord).result =
        .ok (journey "a" (some (note none)) (some (guide "Ada" (some (contact none (some "Baker")))))
          [journey "b" (some (note (some "x"))) none []]) ∧
      ((journeys.converter .empty).read "Journey" journeyRecord).result =
        .ok (journey "a" none (some (guide "Ada" (some (contact none (some "Baker")))))
          [journey "b" (some (note (some "x"))) none []]) ∧
      ((journeys.converter .empty).read "Guide" guideRecord).result =
        ((journeys.lenientConverter .empty).read "Guide" guideRecord).result := by
  have hlenient : ((journeys.lenientConverter .empty).read "Journey" journeyRecord).result =
      .ok (journey "a" (some (note none)) (some (guide "Ada" (some (contact none (some "Baker")))))
        [journey "b" (some (note (some "x"))) none []]) := by cbv
  have hthin : journeys.thin journeyRecord
      (journey "a" (some (note none)) (some (guide "Ada" (some (contact none (some "Baker")))))
        [journey "b" (some (note (some "x"))) none []]) =
      journey "a" none (some (guide "Ada" (some (contact none (some "Baker")))))
        [journey "b" (some (note (some "x"))) none []] := by cbv
  have hrefines (type : TypeName) (r : Record) := strict_refines_lenient journeys .empty type r embedsOptional_journeys
    holdsNoSets_journeys startsEmpty_journeys
  exact ⟨embedsOptional_journeys, holdsNoSets_journeys, startsEmpty_journeys, hlenient,
    hthin ▸ (hrefines "Journey" journeyRecord).1 _ hlenient, (hrefines "Guide" guideRecord).2 mentionsAll_guideRecord⟩

end DeclaredSchema
end EntityMapping
