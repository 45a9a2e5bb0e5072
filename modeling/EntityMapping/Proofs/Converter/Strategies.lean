import EntityMapping.Proofs.Converter.Reading
import EntityMapping.Proofs.Schema.Instantiation

/-!
# Two ways to make objects

The objects of a type start as copies of one object, into which everything is put that the record says; or they are
made by a constructor, which takes some of it as arguments, and the rest is put in afterwards. If the constructor does
what is expected of it, the two ways lead to the same objects.

* `Contribution.fill_eq_ok_iff` — when an object is filled, and what it is then
* `Constructor.Places` — what is expected of a constructor
* `EntityType.constructed_eq_ok_iff` — when a constructor makes an object, and which one
* `Converter.readAs_fresh_eq_constructed` — it does not matter which way objects are made
* `Converter.read_fresh_eq_read_constructed` — so it is for two schemas that differ in this
-/

namespace EntityMapping

/-! ## One member after the other -/

namespace ObjectOf

variable {value : FieldMapping → Option Datum} {fields : List FieldMapping} {o p : Object} {name : String}

/-- Only the fields of a member have a say in what it holds; the last one that has a value decides. -/
theorem get?_putAll_eq_foldl (value : FieldMapping → Option Datum) (fields : List FieldMapping) (o : Object)
    (name : String) :
    (o.putAll FieldMapping.member value fields).get? name =
      fields.foldl (fun x f => if f.member = name then (value f).or x else x) (o.get? name) := by
  induction fields generalizing o with
  | nil => rfl
  | cons f fields ih =>
    rw [putAll_cons, ih, List.foldl_cons, get?_putSome]
    simp only [eq_comm]

/-- Fields of other members can be left out. -/
theorem get?_putAll_filter {keep : FieldMapping → Bool} (h : ∀ f ∈ fields, f.member = name → keep f = true)
    (hget : o.get? name = p.get? name) :
    (o.putAll FieldMapping.member value (fields.filter keep)).get? name =
      (p.putAll FieldMapping.member value fields).get? name := by
  rw [get?_putAll_eq_foldl, get?_putAll_eq_foldl, List.foldl_filter, hget]
  refine List.foldl_ext _ _ _ fun x f hf => ?_
  by_cases hname : f.member = name
  · rw [if_pos (h f hf hname)]
  · rw [if_neg hname, ite_self]

end ObjectOf

/-! ## When an object is filled -/

namespace Contribution

/-- What a record says about a field, unless this is an error. -/
def given (k : Contribution) : Option Datum := k.value.result.toOption.join

/-- Whether a record says nothing about a field, or something that the field can hold. -/
structure Fits (k : Contribution) : Prop where
  result : k.value.result = .ok k.given
  fits : ∀ x, k.given = some x → x.fits k.field.shape = true

variable {k : FieldMapping → Contribution} {fields : List FieldMapping} {o p : Object}

theorem given_of_ok {c : Contribution} {x : Option Datum} (h : c.value.result = .ok x) : c.given = x := by
  rw [given, h]
  rfl

/-- Contributions to one field that say the same fit alike. -/
theorem Fits.congr {c c' : Contribution} (hfield : c.field = c'.field) (hsame : c.value.result = c'.value.result)
    (h : c.Fits) : c'.Fits where
  result := by rw [← hsame, h.result, given, given, hsame]
  fits x hx := by
    rw [given, ← hsame] at hx
    exact hfield ▸ h.fits x hx

theorem apply_eq_ok_iff {c : Contribution} (howner : c.field.owner = o.type) :
    (c.apply o).result = .ok p ↔ c.Fits ∧ p = o.putSome c.field.member c.given := by
  rw [apply, Traced.result_bind, bind_eq_ok]
  constructor
  · rintro ⟨x, hx, hp⟩
    have hgiven := given_of_ok hx
    cases x with
    | none =>
      cases hp
      exact ⟨⟨hgiven ▸ hx, fun y hy => by simp [hgiven] at hy⟩, by rw [hgiven]; rfl⟩
    | some y =>
      simp only [Traced.result_lift, FieldMapping.write, if_pos howner.symm] at hp
      split at hp
      · next hfits =>
        cases hp
        refine ⟨⟨hgiven ▸ hx, fun z hz => ?_⟩, by rw [hgiven]; rfl⟩
        rw [hgiven] at hz
        exact Option.some.inj hz ▸ hfits
      · cases hp
  · rintro ⟨⟨hx, hfits⟩, rfl⟩
    refine ⟨c.given, hx, ?_⟩
    cases hgiven : c.given with
    | none => rfl
    | some y =>
      simp only [Traced.result_lift, FieldMapping.write, if_pos howner.symm, if_pos (hfits y hgiven)]
      rfl

/-- An object is filled if what the record says can be put into the members, and then it is put there. -/
theorem fill_eq_ok_iff (hk : ∀ f, (k f).field = f) (howner : ∀ f ∈ fields, f.owner = o.type) :
    (fill (fields.map k) o).result = .ok p ↔
      (∀ f ∈ fields, (k f).Fits) ∧ p = o.putAll FieldMapping.member (fun f => (k f).given) fields := by
  induction fields generalizing o with
  | nil =>
    simp only [List.not_mem_nil, false_imp_iff, implies_true, true_and]
    constructor
    · rintro ⟨⟩
      rfl
    · rintro rfl
      rfl
  | cons f fields ih =>
    have hf : (k f).field.owner = o.type := by
      rw [hk]
      exact howner f List.mem_cons_self
    have hrest (x : Option Datum) : ∀ g ∈ fields, g.owner = (o.putSome f.member x).type := fun g hg => by
      rw [ObjectOf.type_putSome]
      exact howner g (List.mem_cons_of_mem _ hg)
    rw [List.map_cons, result_fill_cons, bind_eq_ok, List.forall_mem_cons, ObjectOf.putAll_cons]
    simp only [apply_eq_ok_iff hf, hk]
    constructor
    · rintro ⟨q, ⟨hfits, rfl⟩, hp⟩
      obtain ⟨hall, hp⟩ := (ih (hrest _)).mp hp
      exact ⟨⟨hfits, hall⟩, hp⟩
    · rintro ⟨⟨hfits, hall⟩, hp⟩
      exact ⟨_, ⟨hfits, rfl⟩, (ih (hrest _)).mpr ⟨hall, hp⟩⟩

end Contribution

/-! ## Constructors -/

/-- Whether an object is one that objects of a type may start as: a proper object, in which nothing is where an object
may hold nothing. -/
structure EntityType.StartsAs (t : EntityType) (optional : FieldMapping → Bool) (s : Object) : Prop where
  owner : ∀ f ∈ t.fields, f.owner = s.type
  nodup : (s.slots.map Prod.fst).Nodup
  members : ∀ f ∈ t.fields, f.member ∈ s.slots.map Prod.fst
  empty : ∀ f ∈ t.fields, optional f = true → s.get? f.member = none

/-- Whether an object is like another one, but for the chosen members, which hold these values. -/
structure ObjectOf.Replaces (s : Object) (chosen : List FieldMapping) (value : FieldMapping → Option Datum)
    (p : Object) : Prop where
  type : p.type = s.type
  slots : p.slots.map Prod.fst = s.slots.map Prod.fst
  /-- The chosen members hold nothing where there is no value. -/
  placed : ∀ f ∈ chosen, p.get? f.member = value f
  others : ∀ name, (∀ f ∈ chosen, f.member ≠ name) → p.get? name = s.get? name

/-- Whether a constructor takes the chosen fields of a type, in the order of its parameters, and puts each argument into
its member, while the other members are as in a given object. -/
structure Constructor.Places (k : Constructor) (t : EntityType) (optional : FieldMapping → Bool) (s : Object)
    (chosen : List FieldMapping) : Prop where
  parameters : k.parameters = chosen.map FieldMapping.member
  mapped : ∀ f ∈ chosen, f ∈ t.fields
  /-- No other field is that of a parameter. -/
  only : ∀ f ∈ chosen, ∀ g ∈ t.fields, g.member = f.member → g = f
  builds : ∀ value : FieldMapping → Option Datum,
    (∀ f ∈ chosen, ∀ x, value f = some x → x.fits f.shape = true) →
    (∀ f ∈ chosen, optional f = false → (value f).isSome = true) →
      ∃ p, k.build (chosen.map fun f => (f.member, value f)) = .ok (p, []) ∧ s.Replaces chosen value p
  /-- An argument that the member cannot hold is refused. -/
  refuses : ∀ value : FieldMapping → Option Datum, ∀ f ∈ chosen, ∀ x, value f = some x → x.fits f.shape = false →
    (k.build (chosen.map fun f => (f.member, value f))).isOk = false

/-- The call of a constructor makes what it builds of the arguments, if it takes all of them. -/
theorem ConstructorCall.result_invoke_eq_ok_iff {entity : String} {k : Constructor} {chosen : List FieldMapping}
    {value : FieldMapping → Option Datum} {q : Object} (hk : k.parameters = chosen.map FieldMapping.member) :
    (ConstructorCall.mk entity k (chosen.map value)).invoke.result = .ok q ↔
      k.build (chosen.map fun f => (f.member, value f)) = .ok (q, []) := by
  have harguments : k.parameters.zip (chosen.map value) = chosen.map fun f => (f.member, value f) := by
    rw [hk, List.zip_map']
  rw [invoke, if_pos (by simp [hk])]
  show ConstructorCall.result _ = _ ↔ _
  rw [result, harguments]
  dsimp only
  cases hbuild : k.build (chosen.map fun f => (f.member, value f)) with
  | error e => simp
  | ok built =>
    obtain ⟨p, rest⟩ := built
    cases rest <;> simp

namespace Constructor

variable {k : Constructor} {t : EntityType} {optional : FieldMapping → Bool} {s q : Object}
  {chosen : List FieldMapping} {contribution : FieldMapping → Contribution}

/-- What the record says about the parameters becomes the arguments. -/
theorem Places.result_argumentsFrom (hplaces : k.Places t optional s chosen)
    (hcontribution : ∀ f, (contribution f).field = f) :
    (k.argumentsFrom (t.fields.map contribution)).result = chosen.mapM fun f => (contribution f).value.result := by
  rw [argumentsFrom, Traced.result_mapM, hplaces.parameters, List.mapM_map]
  refine mapM_congr fun f hf => ?_
  have hfound : (t.fields.map contribution).find? (fun c => c.field.member = f.member) = some (contribution f) := by
    cases hfind : (t.fields.map contribution).find? fun c => c.field.member = f.member with
    | none =>
      have hnone := List.find?_eq_none.mp hfind (contribution f) (List.mem_map_of_mem (hplaces.mapped f hf))
      simp [hcontribution] at hnone
    | some c =>
      obtain ⟨g, hg, rfl⟩ := List.mem_map.mp (List.mem_of_find?_eq_some hfind)
      have hmember : g.member = f.member := by simpa [hcontribution] using List.find?_some hfind
      rw [hplaces.only f hf g hg hmember]
  dsimp only [Function.comp_apply]
  rw [hfound]

/-- The constructor is called with what the record says about the chosen fields, if each of them can hold it. -/
theorem Places.call_eq_ok_iff (hplaces : k.Places t optional s chosen)
    (hcontribution : ∀ f, (contribution f).field = f) :
    (∃ arguments, (chosen.mapM fun f => (contribution f).value.result) = .ok arguments ∧
      (ConstructorCall.mk t.name k arguments).invoke.result = .ok q) ↔
      (∀ f ∈ chosen, (contribution f).Fits) ∧
        k.build (chosen.map fun f => (f.member, (contribution f).given)) = .ok (q, []) := by
  have hmap (hresult : ∀ f ∈ chosen, (contribution f).value.result = .ok (contribution f).given) :
      (chosen.mapM fun f => (contribution f).value.result) = .ok (chosen.map fun f => (contribution f).given) := by
    rw [mapM_eq_ok, List.forall₂_map_right_iff]
    exact List.forall₂_same.mpr hresult
  constructor
  · rintro ⟨arguments, harguments, hq⟩
    have hresult : ∀ f ∈ chosen, (contribution f).value.result = .ok (contribution f).given := by
      intro f hf
      obtain ⟨x, hx⟩ := exists_of_mapM_eq_ok harguments hf
      exact Contribution.given_of_ok hx ▸ hx
    obtain rfl := Except.ok.inj (harguments.symm.trans (hmap hresult))
    have hbuild := (ConstructorCall.result_invoke_eq_ok_iff hplaces.parameters).mp hq
    refine ⟨fun f hf => ⟨hresult f hf, fun x hx => ?_⟩, hbuild⟩
    rw [hcontribution]
    by_contra hfits
    -- an argument that does not fit would have been refused
    have hrefused := hplaces.refuses (fun f => (contribution f).given) f hf x hx (by simpa using hfits)
    rw [hbuild] at hrefused
    cases hrefused
  · rintro ⟨hfits, hbuild⟩
    exact ⟨_, hmap fun f hf => (hfits f hf).result,
      (ConstructorCall.result_invoke_eq_ok_iff hplaces.parameters).mpr hbuild⟩

/-- After the arguments, the rest is put in, as if all of it had been put into the object at the start. -/
theorem Places.putAll_eq (hplaces : k.Places t optional s chosen) (hs : t.StartsAs optional s)
    {value : FieldMapping → Option Datum} (hvalue : ∀ f ∈ chosen, optional f = false → (value f).isSome = true)
    (hq : s.Replaces chosen value q) :
    q.putAll FieldMapping.member value (t.fields.filter fun f => f.member ∉ k.parameters) =
      s.putAll FieldMapping.member value t.fields := by
  have hnames : (s.putAll FieldMapping.member value t.fields).slots.map Prod.fst = s.slots.map Prod.fst :=
    ObjectOf.names_putAll hs.members
  have hnames' : (q.putAll FieldMapping.member value
      (t.fields.filter fun f => f.member ∉ k.parameters)).slots.map Prod.fst = s.slots.map Prod.fst := by
    rw [ObjectOf.names_putAll, hq.slots]
    intro f hf
    rw [hq.slots]
    exact hs.members f (List.mem_filter.mp hf).1
  refine ObjectOf.ext_get? (by simp [hq.type]) (hnames'.trans hnames.symm) (hnames' ▸ hs.nodup) fun name _ => ?_
  by_cases hname : name ∈ k.parameters
  · -- what the constructor took is what the setter would have put there
    obtain ⟨f, hf, rfl⟩ := List.mem_map.mp (hplaces.parameters ▸ hname)
    have hothers : ∀ g ∈ t.fields.filter (fun g => g.member ∉ k.parameters), g.member ≠ f.member := by
      intro g hg hmember
      simp only [List.mem_filter, decide_eq_true_eq] at hg
      exact hg.2 (hmember ▸ hname)
    rw [ObjectOf.get?_putAll_of_ne hothers, hq.placed f hf,
      ObjectOf.get?_putAll_of_only (hplaces.mapped f hf) (hplaces.only f hf)]
    cases hoptional : optional f with
    | true => rw [hs.empty f (hplaces.mapped f hf) hoptional, Option.or_none]
    | false =>
      obtain ⟨x, hx⟩ := Option.isSome_iff_exists.mp (hvalue f hf hoptional)
      rw [hx, Option.some_or]
  · refine ObjectOf.get?_putAll_filter (fun f _ hmember => ?_) (hq.others name fun f hf hmember => hname ?_)
    · simpa [hmember] using hname
    · rw [hplaces.parameters]
      exact hmember ▸ List.mem_map_of_mem hf

end Constructor

namespace EntityType

variable {k : Constructor} {t : EntityType} {optional : FieldMapping → Bool} {s o : Object}
  {chosen : List FieldMapping} {contribution : FieldMapping → Contribution}

/-- When an object is made as a copy, and which one: all that the record says is put in. -/
theorem fresh_eq_ok_iff (hs : t.StartsAs optional s) (hcontribution : ∀ f, (contribution f).field = f) :
    (instantiate { t with creation := .fresh s } (t.fields.map contribution)).result = .ok o ↔
      (∀ f ∈ t.fields, (contribution f).Fits) ∧
        o = s.putAll FieldMapping.member (fun f => (contribution f).given) t.fields :=
  Contribution.fill_eq_ok_iff hcontribution hs.owner

/-- When a constructor makes an object, and which one: the same. -/
theorem constructed_eq_ok_iff (hs : t.StartsAs optional s) (hplaces : k.Places t optional s chosen)
    (hcontribution : ∀ f, (contribution f).field = f)
    (hgiven : ∀ f ∈ t.fields, optional f = false → (contribution f).value.result ≠ .ok none) :
    (instantiate { t with creation := .constructed k } (t.fields.map contribution)).result = .ok o ↔
      (∀ f ∈ t.fields, (contribution f).Fits) ∧
        o = s.putAll FieldMapping.member (fun f => (contribution f).given) t.fields := by
  have hrest : (t.fields.map contribution).filter (fun c => c.field.member ∉ k.parameters) =
      (t.fields.filter fun f => f.member ∉ k.parameters).map contribution := by
    rw [List.filter_map]
    simp only [Function.comp_def, hcontribution]
  have howner {q : Object} (hq : q.type = s.type) :
      ∀ f ∈ t.fields.filter fun f => f.member ∉ k.parameters, f.owner = q.type := by
    intro f hf
    rw [hq]
    exact hs.owner f (List.mem_filter.mp hf).1
  have hbuilds (hfits : ∀ f ∈ chosen, (contribution f).Fits) :
      (∀ f ∈ chosen, optional f = false → (contribution f).given.isSome = true) ∧
        ∃ q, k.build (chosen.map fun f => (f.member, (contribution f).given)) = .ok (q, []) ∧
          s.Replaces chosen (fun f => (contribution f).given) q := by
    have hpresent : ∀ f ∈ chosen, optional f = false → (contribution f).given.isSome = true := by
      intro f hf hoptional
      rw [Option.isSome_iff_ne_none]
      intro hnone
      exact hgiven f (hplaces.mapped f hf) hoptional (hnone ▸ (hfits f hf).result)
    refine ⟨hpresent, hplaces.builds _ (fun f hf x hx => ?_) hpresent⟩
    have hfit := (hfits f hf).fits x hx
    rwa [hcontribution] at hfit
  simp only [instantiate, Traced.result_bind, hplaces.result_argumentsFrom hcontribution, bind_eq_ok, hrest]
  constructor
  · rintro ⟨arguments, harguments, p, hp, ho⟩
    obtain ⟨hchosen, hbuild⟩ := (hplaces.call_eq_ok_iff hcontribution).mp ⟨arguments, harguments, hp⟩
    obtain ⟨hpresent, q, hbuild', hq⟩ := hbuilds hchosen
    obtain rfl : p = q := (Prod.mk.inj (Except.ok.inj (hbuild.symm.trans hbuild'))).1
    obtain ⟨hothers, ho⟩ := (Contribution.fill_eq_ok_iff hcontribution (howner hq.type)).mp ho
    refine ⟨fun f hf => ?_, ho.trans (hplaces.putAll_eq hs hpresent hq)⟩
    by_cases hmember : f.member ∈ k.parameters
    · obtain ⟨g, hg, hname⟩ := List.mem_map.mp (hplaces.parameters ▸ hmember)
      exact hplaces.only g hg f hf hname.symm ▸ hchosen g hg
    · exact hothers f (List.mem_filter.mpr ⟨hf, by simpa using hmember⟩)
  · rintro ⟨hfits, rfl⟩
    have hchosen : ∀ f ∈ chosen, (contribution f).Fits := fun f hf => hfits f (hplaces.mapped f hf)
    obtain ⟨hpresent, q, hbuild, hq⟩ := hbuilds hchosen
    obtain ⟨arguments, harguments, hinvoke⟩ := (hplaces.call_eq_ok_iff hcontribution).mpr ⟨hchosen, hbuild⟩
    refine ⟨arguments, harguments, q, hinvoke, ?_⟩
    exact (Contribution.fill_eq_ok_iff hcontribution (howner hq.type)).mpr
      ⟨fun f hf => hfits f (List.mem_filter.mp hf).1, (hplaces.putAll_eq hs hpresent hq).symm⟩

/-- If a record says the same about each field, copies and what a constructor makes become the same object, or none. -/
theorem fresh_eq_constructed {contribution' : FieldMapping → Contribution} (hs : t.StartsAs optional s)
    (hplaces : k.Places t optional s chosen) (hcontribution : ∀ f, (contribution f).field = f)
    (hcontribution' : ∀ f, (contribution' f).field = f)
    (hsame : ∀ f ∈ t.fields, (contribution f).value.result = (contribution' f).value.result)
    (hgiven : ∀ f ∈ t.fields, optional f = false → (contribution f).value.result ≠ .ok none) :
    (instantiate { t with creation := .fresh s } (t.fields.map contribution)).result.toOption =
      (instantiate { t with creation := .constructed k } (t.fields.map contribution')).result.toOption := by
  have hfits : (∀ f ∈ t.fields, (contribution f).Fits) ↔ ∀ f ∈ t.fields, (contribution' f).Fits := by
    refine forall₂_congr fun f hf => ?_
    have hfield : (contribution f).field = (contribution' f).field := (hcontribution f).trans (hcontribution' f).symm
    exact ⟨.congr hfield (hsame f hf), .congr hfield.symm (hsame f hf).symm⟩
  have hput : s.putAll FieldMapping.member (fun f => (contribution f).given) t.fields =
      s.putAll FieldMapping.member (fun f => (contribution' f).given) t.fields :=
    List.foldl_ext _ _ _ fun p f hf => by simp only [Contribution.given, hsame f hf]
  refine Option.ext fun o => ?_
  rw [toOption_eq_some_iff, toOption_eq_some_iff, fresh_eq_ok_iff hs hcontribution, hfits, hput]
  exact (constructed_eq_ok_iff hs hplaces hcontribution' fun f hf => hsame f hf ▸ hgiven f hf).symm

end EntityType

/-! ## Either way -/

/-- The object that a record stands for, of a type that is described like this. -/
def Converter.readAs (c : Converter) (t : EntityType) (r : Record) : Conversion Object :=
  t.instantiate (t.fields.map (c.contribution r))

theorem Converter.read_eq_readAs {c : Converter} {type : TypeName} {t : EntityType}
    (ht : c.schema.entity type = .ok t) (r : Record) : c.read type r = c.readAs t r := by
  rw [read_eq ht]
  rfl

/-- **It does not matter whether the objects of a type start as copies or are made by a constructor.** -/
theorem Converter.readAs_fresh_eq_constructed (c : Converter) (t : EntityType) (optional : FieldMapping → Bool)
    (s : Object) (k : Constructor) (chosen : List FieldMapping) (hs : t.StartsAs optional s)
    (hplaces : k.Places t optional s chosen) (r : Record)
    (hgiven : ∀ f ∈ t.fields, optional f = false → (c.contribution r f).value.result ≠ .ok none) :
    (c.readAs { t with creation := .fresh s } r).result.toOption =
      (c.readAs { t with creation := .constructed k } r).result.toOption :=
  EntityType.fresh_eq_constructed hs hplaces (fun _ => rfl) (fun _ => rfl) (fun _ _ => rfl) hgiven

/-- Two converters that take the same from a record for each field of a type read the same objects, if these start as
copies for the one, and a constructor makes them for the other. -/
theorem Converter.read_fresh_eq_read_constructed {c c' : Converter} {type : TypeName} {t : EntityType}
    {optional : FieldMapping → Bool} {s : Object} {k : Constructor} {chosen : List FieldMapping}
    (ht : c.schema.entity type = .ok { t with creation := .fresh s })
    (ht' : c'.schema.entity type = .ok { t with creation := .constructed k }) (hs : t.StartsAs optional s)
    (hplaces : k.Places t optional s chosen) {r : Record}
    (hsame : ∀ f ∈ t.fields, (c.contribution r f).value.result = (c'.contribution r f).value.result)
    (hgiven : ∀ f ∈ t.fields, optional f = false → (c.contribution r f).value.result ≠ .ok none) :
    (c.read type r).result.toOption = (c'.read type r).result.toOption := by
  rw [read_eq_readAs ht, read_eq_readAs ht']
  exact EntityType.fresh_eq_constructed hs hplaces (fun _ => rfl) (fun _ => rfl) hsame hgiven

/-! ## Places -/

namespace Converter

def streetMember : Member := .required "street" "String" ⟨"String", .value .text⟩

def cityMember : Member := .optional "city" "Option<String>" ⟨"String", .value .text⟩

def zipMember : Member := .required "zip" "String" ⟨"String", .value .text⟩

def place (street : String) (city : Option String) (zip : String) : Object :=
  ⟨"Place", [("street", some (.scalar .text street)), ("city", city.map (.scalar .text)),
    ("zip", some (.scalar .text zip))]⟩

/-- Makes a place of the city, if it is known, and the street. -/
def placeConstructor : Constructor where
  signature := "Place::at(city, street)"
  parameters := ["city", "street"]
  build := do
    let city ← Construction.takeOptional cityMember.type
    let street ← Construction.take streetMember.type
    return ⟨"Place", [("street", some street), ("city", city), ("zip", some (.scalar .text "0"))]⟩

/-- Places, which all start as the same one. -/
def placeType : EntityType where
  name := "Place"
  typeName := "Place"
  embeddable := false
  fields := [streetMember, cityMember, zipMember].map (Member.field "Place")
  creation := .fresh (place "" none "0")
  order _ _ := .eq

/-- Whether the objects of a type may lack the member of a field. -/
def isCity (f : FieldMapping) : Bool := f.member = "city"

theorem startsAs_place : placeType.StartsAs isCity (place "" none "0") where
  owner f hf := by
    obtain ⟨m, -, rfl⟩ := List.mem_map.mp (show f ∈ [streetMember, cityMember, zipMember].map _ from hf)
    rfl
  nodup := by decide
  members f hf := by
    obtain ⟨m, hm, rfl⟩ := List.mem_map.mp (show f ∈ [streetMember, cityMember, zipMember].map _ from hf)
    simp only [List.mem_cons, List.not_mem_nil, or_false] at hm
    rcases hm with rfl | rfl | rfl <;> decide
  empty f hf hcity := by
    have hmember : f.member = "city" := by simpa [isCity] using hcity
    rw [hmember]
    rfl

theorem build_placeConstructor {x : Option Datum} {y : Datum}
    (hx : ∀ z, x = some z → z.fits cityMember.type.shape = true) (hy : y.fits streetMember.type.shape = true) :
    placeConstructor.build [("city", x), ("street", some y)] =
      .ok (⟨"Place", [("street", some y), ("city", x), ("zip", some (.scalar .text "0"))]⟩, []) := by
  show (Construction.takeOptional cityMember.type >>= fun city => _)
    [(cityMember.name, x), (streetMember.name, some y)] = _
  rw [Construction.bind_of_ok (Member.takeOptional_of_fits hx), Construction.bind_of_ok (Member.take_some hy)]
  rfl

/-- The constructor refuses a city and a street that are no texts. -/
theorem refuses_placeConstructor {x y : Option Datum}
    (h : (∃ z, x = some z ∧ z.fits cityMember.type.shape = false) ∨
      ∃ z, y = some z ∧ z.fits streetMember.type.shape = false) :
    (placeConstructor.build [("city", x), ("street", y)]).isOk = false := by
  show ((Construction.takeOptional cityMember.type >>= fun city => _) [(cityMember.name, x), ("street", y)]).isOk = _
  by_cases hx : ∃ z, x = some z ∧ z.fits cityMember.type.shape = false
  · obtain ⟨z, rfl, hz⟩ := hx
    rw [Construction.bind_of_error (Member.takeOptional_refused hz)]
    rfl
  · obtain ⟨z, rfl, hz⟩ := h.resolve_left hx
    have hfits : ∀ w, x = some w → w.fits cityMember.type.shape = true := by
      intro w hw
      by_contra hw'
      exact hx ⟨w, hw, by simpa using hw'⟩
    rw [Construction.bind_of_ok (Member.takeOptional_of_fits hfits)]
    exact congrArg Except.isOk (Construction.bind_of_error (Member.take_refused (m := streetMember) hz))

theorem places_placeConstructor :
    placeConstructor.Places placeType isCity (place "" none "0") [cityMember.field "Place", streetMember.field "Place"]
    where
  parameters := rfl
  mapped f hf := by
    rcases List.mem_pair.mp hf with rfl | rfl
    · exact .tail _ (.head _)
    · exact .head _
  only f hf g hg hmember := by
    obtain ⟨m, hm, rfl⟩ := List.mem_map.mp (show g ∈ [streetMember, cityMember, zipMember].map _ from hg)
    simp only [List.mem_cons, List.not_mem_nil, or_false] at hm
    rcases List.mem_pair.mp hf with rfl | rfl <;> rcases hm with rfl | rfl | rfl <;>
      first
        | rfl
        | exact absurd hmember (by decide)
  builds value hfits hpresent := by
    obtain ⟨y, hy⟩ := Option.isSome_iff_exists.mp (hpresent (streetMember.field "Place") (.tail _ (.head _)) rfl)
    refine ⟨⟨"Place", [("street", some y), ("city", value (cityMember.field "Place")),
      ("zip", some (.scalar .text "0"))]⟩, ?_, rfl, rfl, fun f hf => ?_, fun name hname => ?_⟩
    · show placeConstructor.build [("city", value (cityMember.field "Place")),
        ("street", value (streetMember.field "Place"))] = _
      rw [hy]
      exact build_placeConstructor (hfits _ (.head _)) (hfits _ (.tail _ (.head _)) y hy)
    · rcases List.mem_pair.mp hf with rfl | rfl
      · simp [ObjectOf.get?, Fields.get?, Member.field, cityMember, Member.optional]
      · exact hy.symm
    · have hcity : "city" ≠ name := hname _ (.head _)
      have hstreet : "street" ≠ name := hname _ (.tail _ (.head _))
      simp [ObjectOf.get?, Fields.get?, place, hcity, hstreet]
  refuses value f hf x hx hfits := by
    refine refuses_placeConstructor
      (x := value (cityMember.field "Place")) (y := value (streetMember.field "Place")) ?_
    rcases List.mem_pair.mp hf with rfl | rfl
    · exact .inl ⟨x, hx, hfits⟩
    · exact .inr ⟨x, hx, hfits⟩

/-- Places hold no objects, so there are no other types. -/
def places : Converter := .ofSchema ⟨[], fun _ => 0, by simp⟩

/-- The record of a place without a city. -/
def placeRecord : Record := ⟨"Place", [("zip", .text "9"), ("street", .text "Main")]⟩

/-- A place is read either way. -/
theorem readAs_fresh_eq_constructed_place :
    placeType.StartsAs isCity (place "" none "0") ∧
      placeConstructor.Places placeType isCity (place "" none "0")
        [cityMember.field "Place", streetMember.field "Place"] ∧
      (places.readAs { placeType with creation := .fresh (place "" none "0") } placeRecord).result =
        .ok (place "Main" none "9") ∧
      (places.readAs { placeType with creation := .constructed placeConstructor } placeRecord).result.toOption =
        some (place "Main" none "9") := by
  have hfresh : (places.readAs { placeType with creation := .fresh (place "" none "0") } placeRecord).result =
      .ok (place "Main" none "9") := rfl
  refine ⟨startsAs_place, places_placeConstructor, hfresh, ?_⟩
  rw [← readAs_fresh_eq_constructed places placeType isCity _ _ _ startsAs_place places_placeConstructor
    placeRecord, hfresh]
  · rfl
  · intro f hf hcity
    obtain ⟨m, hm, rfl⟩ := List.mem_map.mp (show f ∈ [streetMember, cityMember, zipMember].map _ from hf)
    simp only [List.mem_cons, List.not_mem_nil, or_false] at hm
    rcases hm with rfl | rfl | rfl
    · have hstreet : (places.contribution placeRecord (streetMember.field "Place")).value.result =
          .ok (some (.scalar .text "Main")) := rfl
      simp [hstreet]
    · cases hcity
    · have hzip : (places.contribution placeRecord (zipMember.field "Place")).value.result =
          .ok (some (.scalar .text "9")) := rfl
      simp [hzip]

end Converter
end EntityMapping
