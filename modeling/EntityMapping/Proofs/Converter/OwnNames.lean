import EntityMapping.Proofs.Converter.RoundTrip

/-!
# What a reading depends on

An object is read from the values that a record has under the names of its type, those of embedded types included. On
the rest of the record nothing depends: not on its name, not on fields of other names, and not on the order of the
fields. This goes for the errors and for the notices as well.

* `RecordOf.AgreeOn` — two records have the same values under some names
* `Converter.mentions_congr`, `Converter.contribution_congr` — one step of a reading
* `Converter.readsOwnNames` — a reading
-/

namespace EntityMapping

/-! ## Records that agree -/

namespace RecordOf

variable {V : Type} {r s : RecordOf V} {names others : List String}

/-- Whether two records have the same values under some names. -/
def AgreeOn (names : List String) (r s : RecordOf V) : Prop := ∀ name ∈ names, r.get? name = s.get? name

theorem AgreeOn.mono (h : AgreeOn names r s) (hsub : others ⊆ names) : AgreeOn others r s :=
  fun name hname => h name (hsub hname)

theorem AgreeOn.contains (h : AgreeOn names r s) {name : String} (hname : name ∈ names) :
    r.contains name = s.contains name := by
  rw [contains_eq_isSome, contains_eq_isSome, h name hname]

theorem agreeOn_add {name : String} (hname : name ∉ names) (r : RecordOf V) (v : V) :
    AgreeOn names (r.add name v) r := by
  intro other hother
  have hne : other ≠ name := fun heq => hname (heq ▸ hother)
  rw [get?_add, if_neg hne]

/-- Without repeated names, the order of the fields does not matter. -/
theorem agreeOn_of_perm (hnodup : r.names.Nodup) (h : r.fields.Perm s.fields) : AgreeOn names r s :=
  fun name _ => Fields.get?_of_perm hnodup h name

end RecordOf

/-! ## Reading -/

namespace Converter

open RecordOf (AgreeOn)

variable {c : Converter} {S : Schema} {type : TypeName} {f : FieldMapping} {r s : Record}

/-- The search for the names of a type looks at nothing else. -/
theorem mentions_congr (S : Schema) (type : TypeName) (h : AgreeOn (S.flatNames type) r s) :
    mentions S type r = mentions S type s := by
  cases ht : S.entity type with
  | error e => rw [mentions_of_error ht, mentions_of_error ht]
  | ok t =>
    rw [Schema.flatNames_of_entity ht] at h
    rw [mentions_eq ht, mentions_eq ht]
    refine anyM_congr fun f hf => ?_
    have hfield : AgreeOn (S.namesOf f) r s := h.mono fun name hname => List.mem_flatMap.mpr ⟨f, hf, hname⟩
    unfold mentionsField
    unfold Schema.namesOf at hfield
    cases hu : f.embeds? with
    | some u =>
      have hdepth := Schema.depth_lt_of_embeds ht hf hu
      rw [hu] at hfield
      exact mentions_congr S u hfield
    | none =>
      rw [hu] at hfield
      exact congrArg Except.ok (hfield.contains List.mem_cons_self)
termination_by S.depth type

/-- What a record says about a field depends on the names of the field, if what is embedded does. -/
theorem contribution_congr (h : AgreeOn (c.schema.namesOf f) r s)
    (hread : ∀ u, f.embeds? = some u → c.read u r = c.read u s) : c.contribution r f = c.contribution s f := by
  have hget (hembeds : f.embeds? = none) : r.get? f.name = s.get? f.name := by
    rw [Schema.namesOf, hembeds] at h
    exact h _ List.mem_cons_self
  have hvalue : (c.contribution r f).value = (c.contribution s f).value := by
    cases hshape : f.shape with
    | value type =>
      rw [traced_contribution_of_value hshape, traced_contribution_of_value hshape,
        hget (by simp [FieldMapping.embeds?, hshape])]
    | embedded u =>
      have hu := FieldMapping.embeds?_of_shape hshape
      rw [Schema.namesOf, hu] at h
      rw [traced_contribution_of_embedded hshape, traced_contribution_of_embedded hshape, hread u hu,
        mentions_congr c.schema u h]
    | entity u =>
      rw [traced_contribution_of_entity hshape, traced_contribution_of_entity hshape,
        hget (by simp [FieldMapping.embeds?, hshape])]
    | collection kind u =>
      rw [traced_contribution_of_collection hshape, traced_contribution_of_collection hshape,
        hget (by simp [FieldMapping.embeds?, hshape])]
  exact congrArg (Contribution.mk f) hvalue

/-- What is read from a record depends on the names of the type. -/
theorem read_congr (c : Converter) (type : TypeName) (h : AgreeOn (c.schema.flatNames type) r s) :
    c.read type r = c.read type s := by
  cases ht : c.schema.entity type with
  | error e => rw [read_of_error ht, read_of_error ht]
  | ok t =>
    rw [Schema.flatNames_of_entity ht] at h
    rw [read_eq ht, read_eq ht]
    congr 1
    refine List.map_congr_left fun f hf => ?_
    refine contribution_congr (h.mono fun name hname => List.mem_flatMap.mpr ⟨f, hf, hname⟩) fun u hu => ?_
    have hdepth := Schema.depth_lt_of_embeds ht hf hu
    -- the names of what is embedded are names of the type
    refine read_congr c u (h.mono fun name hname => List.mem_flatMap.mpr ⟨f, hf, ?_⟩)
    rwa [Schema.namesOf, hu]
termination_by c.schema.depth type

/-- Whether the objects of a type, the errors and the notices are the same for all records that have the same values
under the names of the type. -/
structure ReadsOwnNames (c : Converter) (type : TypeName) : Prop where
  agreeing : ∀ r s, AgreeOn (c.schema.flatNames type) r s → c.read type r = c.read type s
  /-- In particular, the name of the record does not matter, -/
  renamed : ∀ r name, c.read type { r with name := name } = c.read type r
  /-- nor do fields of other names, -/
  extended : ∀ r name v, name ∉ c.schema.flatNames type → c.read type (r.add name v) = c.read type r
  /-- nor does the order of the fields. -/
  reordered : ∀ r s, r.names.Nodup → r.fields.Perm s.fields → c.read type r = c.read type s

/-- **From a record, an object is read by the names of its type, and nothing else matters.** -/
theorem readsOwnNames (c : Converter) (type : TypeName) : c.ReadsOwnNames type where
  agreeing _ _ h := read_congr c type h
  renamed _ _ := read_congr c type fun _ _ => rfl
  extended r _ v hname := read_congr c type (RecordOf.agreeOn_add hname r v)
  reordered _ _ hnodup h := read_congr c type (RecordOf.agreeOn_of_perm hnodup h)

/-- The record of a page that is done. -/
def donePage : Record :=
  ⟨"pages", [("title", .text "a"), ("done", .text "yes"), ("text", .text "x"), ("links", .records [])]⟩

/-- A record of something else, with the same fields in another order and with one more. -/
def doneLetter : Record :=
  ⟨"letters", [("links", .records []), ("stamp", .integer 1), ("text", .text "x"), ("done", .text "yes"),
    ("title", .text "a")]⟩

/-- The same page is read from both, and the same constructor is called for it. -/
theorem readsOwnNames_donePage :
    (DeclaredSchema.pages.converter .empty).read "Page" doneLetter =
        (DeclaredSchema.pages.converter .empty).read "Page" donePage ∧
      ((DeclaredSchema.pages.converter .empty).read "Page" doneLetter).result =
        .ok (DeclaredSchema.page "a" (some (DeclaredSchema.note (some "x"))) []) ∧
      ((DeclaredSchema.pages.converter .empty).read "Page" doneLetter).events.map ConstructorEvent.provided =
        [[true, true, true, true]] := by
  have hnames : DeclaredSchema.pages.flatNames "Page" = ["title", "done", "text", "links"] := by cbv
  have hsame : (DeclaredSchema.pages.converter .empty).read "Page" doneLetter =
      (DeclaredSchema.pages.converter .empty).read "Page" donePage := by
    refine (readsOwnNames (DeclaredSchema.pages.converter .empty) "Page").agreeing _ _ fun name hname => ?_
    rw [DeclaredSchema.converter, hnames] at hname
    simp only [List.mem_cons, List.not_mem_nil, or_false] at hname
    rcases hname with rfl | rfl | rfl | rfl <;> rfl
  refine ⟨hsame, ?_, ?_⟩
  · rw [hsame]
    cbv
  · rw [hsame]
    cbv

end Converter
end EntityMapping
