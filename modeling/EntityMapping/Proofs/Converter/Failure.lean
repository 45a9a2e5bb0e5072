import EntityMapping.Proofs.Converter.Reading

/-!
# Errors of a reading

A conversion from a record has errors of its own: values and objects that do not fit, constructors that fail,
descriptions that are not consistent, and collections that nobody supplies. Any other error is one that an attribute
converter has raised, and is passed on as it is.

* `MapError.ofReading` — the errors that a conversion has of its own
* `Converter.read_eq_error` — where any other error comes from
-/

namespace EntityMapping

/-- Whether an error is one that a conversion from a record has of its own. -/
def MapError.ofReading : MapError → Bool
  | .construction .. => true
  | .typeMismatch _ => true
  | .unknownEntity _ => true
  | .unsupportedCollection _ => true
  | .invalidArgument _ => true
  | _ => false

variable {e : MapError}

/-! ## Descriptions -/

theorem TypeDescription.ofReading_of_build {d : TypeDescription} (h : d.build = .error e) :
    e.ofReading = true := by
  unfold build at h
  dsimp only at h
  split at h
  · cases h
    rfl
  · split at h
    · cases h
      rfl
    · split at h
      · cases h
        rfl
      · split at h
        · cases h
          rfl
        · simp at h

theorem Schema.ofReading_of_entity {S : Schema} {type : TypeName} (h : S.entity type = .error e) :
    e.ofReading = true := by
  unfold entity at h
  split at h
  · exact TypeDescription.ofReading_of_build h
  · cases h
    rfl

/-! ## Objects -/

namespace Contribution

variable {k : Contribution} {ks : List Contribution} {o : Object}

theorem apply_eq_error (h : (k.apply o).result = .error e) : e.ofReading = true ∨ k.value.result = .error e := by
  unfold apply at h
  rw [Traced.result_bind, bind_eq_error] at h
  rcases h with h | ⟨x, -, h⟩
  · exact .inr h
  · cases x with
    | none => cases h
    | some x =>
      dsimp only at h
      rw [Traced.result_lift, FieldMapping.write] at h
      split at h
      · split at h
        · simp at h
        · cases h
          exact .inl rfl
      · cases h
        exact .inl rfl

theorem overlay_eq_error (h : (overlay ks o).2.result = .error e) :
    e.ofReading = true ∨ ∃ k ∈ ks, k.value.result = .error e := by
  induction ks generalizing o with
  | nil => cases h
  | cons k ks ih =>
    rw [overlay] at h
    cases happly : (k.apply o).result with
    | error e' =>
      simp only [happly] at h
      cases h
      exact (apply_eq_error happly).imp_right fun hk => ⟨k, List.mem_cons_self, hk⟩
    | ok p =>
      simp only [happly] at h
      exact (ih h).imp_right fun ⟨k', hk', hvalue⟩ => ⟨k', List.mem_cons_of_mem _ hk', hvalue⟩

theorem fill_eq_error (h : (fill ks o).result = .error e) :
    e.ofReading = true ∨ ∃ k ∈ ks, k.value.result = .error e := by
  rw [fill, Traced.result_bind, bind_eq_error] at h
  rcases h with h | ⟨-, -, h⟩
  · exact overlay_eq_error h
  · cases h

end Contribution

theorem ConstructorCall.ofReading_of_invoke {call : ConstructorCall} (h : call.invoke.result = .error e) :
    e.ofReading = true := by
  unfold invoke at h
  dsimp only at h
  split at h
  · dsimp only at h
    unfold result at h
    split at h
    · cases h
      rfl
    · simp at h
    · cases h
      rfl
  · cases h
    rfl

/-- An error that is not of the reading is that of a contribution. -/
theorem EntityType.instantiate_eq_error {t : EntityType} {ks : List Contribution}
    (h : (t.instantiate ks).result = .error e) : e.ofReading = true ∨ ∃ k ∈ ks, k.value.result = .error e := by
  unfold instantiate at h
  split at h
  · exact Contribution.fill_eq_error h
  · next constructor hcreation =>
    simp only [Traced.result_bind, bind_eq_error] at h
    rcases h with h | ⟨arguments, -, h | ⟨o, -, h⟩⟩
    · unfold Constructor.argumentsFrom at h
      rw [Traced.result_mapM] at h
      obtain ⟨p, -, hp⟩ := exists_of_mapM_eq_error h
      split at hp
      · next k hk => exact .inr ⟨k, List.mem_of_find?_eq_some hk, hp⟩
      · cases hp
        exact .inl rfl
    · exact .inl (ConstructorCall.ofReading_of_invoke h)
    · exact (Contribution.fill_eq_error h).imp_right fun ⟨k, hk, hvalue⟩ =>
        ⟨k, List.mem_of_mem_filter hk, hvalue⟩

/-! ## Records -/

namespace Converter

variable {c : Converter}

/-- Whether the attribute converter of some field of the mapped types raises an error for some value. -/
def Raises (c : Converter) (e : MapError) : Prop :=
  ∃ d ∈ c.schema.types, ∃ f ∈ d.fields, ∃ ref v, f.converter = some ref ∧
    (c.attributes.resolve ref).toEntity v = .error e

theorem anyM_eq_error {ε α : Type} {f : α → Except ε Bool} {as : List α} {e : ε} (h : as.anyM f = .error e) :
    ∃ a ∈ as, f a = .error e := by
  induction as with
  | nil => cases h
  | cons a as ih =>
    rw [List.anyM, bind_eq_error] at h
    rcases h with h | ⟨b, -, h⟩
    · exact ⟨a, List.mem_cons_self, h⟩
    · cases b with
      | true => cases h
      | false =>
        obtain ⟨a', ha', hf⟩ := ih h
        exact ⟨a', List.mem_cons_of_mem _ ha', hf⟩

theorem ofReading_of_mentions {S : Schema} {type : TypeName} {r : Record} (h : mentions S type r = .error e) :
    e.ofReading = true := by
  cases ht : S.entity type with
  | error e' =>
    rw [mentions_of_error ht] at h
    cases h
    exact Schema.ofReading_of_entity ht
  | ok t =>
    rw [mentions_eq ht] at h
    obtain ⟨f, hf, hfield⟩ := anyM_eq_error h
    unfold mentionsField at hfield
    split at hfield
    · next u hu =>
      have hdepth := Schema.depth_lt_of_embeds ht hf hu
      exact ofReading_of_mentions hfield
    · cases hfield
termination_by S.depth type

theorem ofReading_of_assemble {f : FieldMapping} {t : EntityType} {kind : CollectionKind} {staged : Staging}
    (h : assemble f t kind staged = .error e) : e.ofReading = true := by
  unfold assemble at h
  rw [bind_eq_error] at h
  rcases h with h | ⟨items, -, h⟩
  · obtain ⟨d, -, hd⟩ := exists_of_mapM_eq_error h
    split at hd
    · split at hd
      · cases hd
      · cases hd
        rfl
    · cases hd
      rfl
  · cases h

theorem raises_of_loadedValue {type : TypeName} {t : EntityType} {f : FieldMapping} {v : Value}
    (ht : c.schema.entity type = .ok t) (hf : f ∈ t.fields) (h : (c.loadedValue f v).result = .error e) :
    c.Raises e := by
  obtain ⟨d, hd, hfield⟩ := Schema.exists_mem_types_of_mem_fields ht hf
  unfold loadedValue at h
  split at h
  · next ref href =>
    simp only [resolve, Traced.result_bind, Traced.result_lift] at h
    exact ⟨d, hd, f, hfield, ref, v, href, h⟩
  · cases h

theorem ofReading_of_supply {suppliers : Suppliers} {kind : CollectionKind} (h : suppliers.supply kind = .error e) :
    e.ofReading = true := by
  unfold Suppliers.supply Suppliers.find at h
  split at h
  · cases h
  · cases h
    rfl

/-- **An error that is not of the reading was raised by the attribute converter of a field.** -/
theorem read_eq_error (c : Converter) (type : TypeName) (r : Record) {e : MapError}
    (h : (c.read type r).result = .error e) : e.ofReading = true ∨ c.Raises e := by
  cases ht : c.schema.entity type with
  | error e' =>
    rw [read_of_error ht] at h
    cases h
    exact .inl (Schema.ofReading_of_entity ht)
  | ok t =>
    rw [read_eq ht] at h
    rcases EntityType.instantiate_eq_error h with hown | ⟨k, hk, hvalue⟩
    · exact .inl hown
    obtain ⟨f, hf, rfl⟩ := List.mem_map.mp hk
    cases hshape : f.shape with
    | value type =>
      rw [contribution_of_value hshape] at hvalue
      split at hvalue
      · cases hvalue
      · rw [bind_eq_error] at hvalue
        rcases hvalue with hvalue | ⟨v, -, hvalue⟩
        · exact .inr (raises_of_loadedValue ht hf hvalue)
        · split at hvalue
          · cases hvalue
            exact .inl rfl
          · cases hvalue
    | embedded u =>
      have hread {mentioned : Bool} {t : EntityType} (h : (if mentioned then do
          let o ← (c.read u r).result
          return if c.strict && t.fields.all fun g => g.isNull o then none else some (.object o)
        else return none) = (.error e : Except MapError (Option Datum))) : (c.read u r).result = .error e := by
        split at h
        · rw [bind_eq_error] at h
          rcases h with h | ⟨o, -, h⟩
          · exact h
          · cases h
        · cases h
      have hdepth := Schema.depth_lt_of_embeds ht hf (FieldMapping.embeds?_of_shape hshape)
      rw [contribution_of_embedded hshape, bind_eq_error] at hvalue
      rcases hvalue with hvalue | ⟨t', -, hvalue⟩
      · exact .inl (Schema.ofReading_of_entity hvalue)
      · dsimp only at hvalue
        split at hvalue
        · rw [bind_eq_error] at hvalue
          rcases hvalue with hvalue | ⟨mentioned, -, hvalue⟩
          · exact .inl (ofReading_of_mentions hvalue)
          · exact read_eq_error c u r (hread hvalue)
        · rw [pure_bind] at hvalue
          exact read_eq_error c u r (hread hvalue)
    | entity u =>
      rw [contribution_of_entity hshape] at hvalue
      split at hvalue
      · cases hvalue
      · next s hs =>
        have hsize := sizeOf_lt_of_get? hs
        rw [bind_eq_error] at hvalue
        rcases hvalue with hvalue | ⟨o, -, hvalue⟩
        · exact read_eq_error c u s hvalue
        · cases hvalue
      · cases hvalue
        exact .inl rfl
    | collection kind u =>
      rw [contribution_of_collection hshape] at hvalue
      split at hvalue
      · cases hvalue
      · next v hv =>
        simp only [bind_eq_error] at hvalue
        rcases hvalue with h | ⟨rs, hrs, h | ⟨t', -, h | ⟨staging, -, h | ⟨objects, -, h | ⟨d, -, h⟩⟩⟩⟩⟩
        · obtain ⟨why, rfl⟩ := nestedRecords_eq_error h
          exact .inl rfl
        · exact .inl (Schema.ofReading_of_entity h)
        · exact .inl (ofReading_of_supply h)
        · obtain ⟨s, hs, hread⟩ := exists_of_mapM_eq_error h
          have hsize := Nat.lt_trans (sizeOf_lt_of_mem_nestedRecords hrs hs) (sizeOf_lt_of_get? hv)
          exact read_eq_error c u s hread
        · exact .inl (ofReading_of_assemble h)
        · cases h
termination_by (sizeOf r, c.schema.depth type)
decreasing_by
  · exact Prod.Lex.right _ hdepth
  · exact Prod.Lex.right _ hdepth
  · refine Prod.Lex.left _ _ ?_
    simp only [Value.record.sizeOf_spec] at hsize
    omega
  · exact Prod.Lex.left _ _ hsize

end Converter
end EntityMapping
