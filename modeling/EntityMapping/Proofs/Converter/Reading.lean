import EntityMapping.Converter.Reading
import EntityMapping.Proofs.Schema.Names
import EntityMapping.Proofs.Traced
import Mathlib.Data.List.Induction

/-!
# What a record says

What a record says about a field, for each shape that the field can have.

* `Converter.read_eq` — an object is built from what the record says about the fields of its type
* `Converter.traced_contribution_of_value` and the three lemmas behind it — what the record says, with the notes
* `Converter.contribution_of_value` and the three lemmas behind it — what the record says, when the notes are left
  aside
* `Converter.contribution_some_objects` — the standard suppliers hand out collections as they were stored
-/

namespace EntityMapping

/-! ## Collections -/

/-- What a staging collection of a supplier gives away after it was given some elements. -/
def Supplier.yields (s : Supplier) (kind : CollectionKind) (given : List Datum) : List Datum :=
  s.release kind (given.foldl (s.hold kind) [])

theorem Supplier.yields_plain (name : String) (accepts : CollectionKind → Bool) (kind : CollectionKind)
    (given : List Datum) : (plain name accepts).yields kind given = given := by
  show given.foldl (fun held d => held ++ [d]) [] = given
  induction given using List.reverseRecOn with
  | nil => rfl
  | append_singleton given d ih => rw [List.foldl_concat, ih]

/-- What a staging collection gives away when it was given objects. -/
theorem Staging.elements_supply (s : Supplier) (kind : CollectionKind) (objects : List Object) :
    (objects.foldl (fun staged o => staged.add (.object o)) (s.supply kind)).elements =
      s.yields kind (objects.map .object) := by
  have hheld : objects.foldl (fun staged o => staged.add (.object o)) (s.supply kind) =
      ⟨kind, s, (objects.map .object).foldl (s.hold kind) []⟩ := by
    induction objects using List.reverseRecOn with
    | nil => rfl
    | append_singleton objects o ih =>
      rw [List.foldl_concat, ih, List.map_append, List.foldl_append]
      rfl
  rw [hheld, elements, Supplier.yields]

/-- Every sort of collections has a plain supplier among the standard ones. -/
theorem Suppliers.supply_standard (kind : CollectionKind) :
    ∃ name accepts, Suppliers.standard.supply kind = .ok ((Supplier.plain name accepts).supply kind) := by
  cases kind <;> exact ⟨_, _, rfl⟩

namespace Converter

variable {c : Converter} {type u : TypeName} {t : EntityType} {f : FieldMapping} {r : Record}

/-- A value that stands for no collection is of the wrong type. -/
theorem nestedRecords_eq_error {v : Value} {e : MapError} (h : nestedRecords f v = .error e) :
    ∃ why, e = .typeMismatch why := by
  unfold nestedRecords at h
  split at h
  · cases h
  · obtain ⟨w, -, hw⟩ := exists_of_mapM_eq_error h
    unfold nestedRecord at hw
    split at hw
    · cases hw
    · cases hw
      exact ⟨_, rfl⟩
  · cases h
    exact ⟨_, rfl⟩

/-- Objects of the item type make a collection. -/
theorem assemble_of_objects {staged : Staging} {kind : CollectionKind} {objects : List Object}
    (hstaged : staged.elements = objects.map .object) (hobjects : ∀ o ∈ objects, t.isInstance o = true) :
    assemble f t kind staged = .ok (.collection kind t.typeName (kind.ofList t.order objects)) := by
  unfold assemble
  refine bind_eq_ok.mpr ⟨objects, ?_, rfl⟩
  rw [hstaged, mapM_eq_ok, List.forall₂_map_left_iff]
  exact List.forall₂_same.mpr fun o ho => if_pos (hobjects o ho)

/-! ## Reading -/

theorem read_of_error {e : MapError} (h : c.schema.entity type = .error e) (r : Record) :
    c.read type r = .fail e := by
  rw [read]
  split
  · next h' => exact congrArg Traced.fail (Except.error.inj (h'.symm.trans h))
  · next h' => cases h'.symm.trans h

/-- An object is built from what the record says about the fields of its type. -/
theorem read_eq (h : c.schema.entity type = .ok t) :
    c.read type r = t.instantiate (t.fields.map (c.contribution r)) := by
  rw [read]
  split
  · next herror => simp [h] at herror
  · next t' ht =>
    rw [h] at ht
    injection ht with ht
    subst ht
    simp only [List.map_subtype, List.unattach_attach]
    rfl

/-! ## What a record says, with the notes -/

theorem traced_contribution_of_value {type : ScalarType} (h : f.shape = .value type) :
    (c.contribution r f).value =
      match r.get? f.name with
      | none => pure none
      | some v => do
        let v ← c.loadedValue f v
        match type.decode v with
        | .error why => .fail (.typeMismatch (.inField f.member why))
        | .ok x => return some (.scalar type x) := by
  unfold contribution readField
  dsimp only
  split
  · next hshape =>
    rw [h] at hshape
    cases hshape
    cases r.get? f.name with
    | none => rfl
    | some v =>
      dsimp only
      congr 1
      funext w
      cases type.decode w <;> rfl
  all_goals
    next hshape => simp [h] at hshape

theorem traced_contribution_of_embedded (h : f.shape = .embedded u) :
    (c.contribution r f).value = do
      let t ← c.entity u
      let mentioned ← if c.strict then .lift (mentions c.schema u r) else pure true
      if mentioned then
        let o ← c.read u r
        return if c.strict && t.fields.all fun g => g.isNull o then none else some (.object o)
      else return none := by
  unfold contribution readField
  dsimp only
  split
  case h_2 hshape =>
    rw [h] at hshape
    cases hshape
    rfl
  all_goals
    next hshape => simp [h] at hshape

theorem traced_contribution_of_entity (h : f.shape = .entity u) :
    (c.contribution r f).value =
      match r.get? f.name with
      | none => pure none
      | some (.record s) => return some (.object (← c.read u s))
      | some v => .fail (.typeMismatch (.notNested f.name "a nested record" v)) := by
  unfold contribution readField
  dsimp only
  split
  case h_3 hshape =>
    rw [h] at hshape
    cases hshape
    split
    · next hr => rw [hr]
    · next s hr => rw [hr]
    · next v hother hr =>
      rw [hr]
      cases v with
      | record s => exact absurd rfl (hother s)
      | _ => rfl
  all_goals
    next hshape => simp [h] at hshape

theorem traced_contribution_of_collection {kind : CollectionKind} (h : f.shape = .collection kind u) :
    (c.contribution r f).value =
      match r.get? f.name with
      | none => pure none
      | some v => do
        let rs ← .lift (nestedRecords f v)
        let t ← c.entity u
        let staging ← .lift (c.suppliers.supply kind)
        let objects ← rs.mapM fun s => c.read u s
        return some (← .lift (assemble f t kind (objects.foldl (fun staged o => staged.add (.object o)) staging))) := by
  unfold contribution readField
  dsimp only
  split
  case h_4 hshape =>
    rw [h] at hshape
    cases hshape
    split
    · next hr => rw [hr]
    · next v hr =>
      simp only [hr]
      split
      · next hrs =>
        rw [hrs]
        rfl
      · next rs hrs =>
        have hlift : (.lift (.ok rs) : Conversion (List Record)) = pure rs := rfl
        simp only [hrs, hlift, pure_bind, List.mapM_subtype, List.unattach_attach]
  all_goals
    next hshape => simp [h] at hshape

/-! ## What a record says -/

/-- A plain field is decoded from the value under its name. -/
theorem contribution_of_value {type : ScalarType} (h : f.shape = .value type) :
    (c.contribution r f).value.result =
      match r.get? f.name with
      | none => .ok none
      | some v => do
        let v ← (c.loadedValue f v).result
        match type.decode v with
        | .error why => throw (.typeMismatch (.inField f.member why))
        | .ok x => return some (.scalar type x) := by
  rw [traced_contribution_of_value h]
  cases r.get? f.name with
  | none => rfl
  | some v =>
    dsimp only
    rw [Traced.result_bind]
    congr 1
    funext w
    cases type.decode w <;> rfl

/-- An embedded object is read from the same record, if the record has a field of it. -/
theorem contribution_of_embedded (h : f.shape = .embedded u) :
    (c.contribution r f).value.result = do
      let t ← c.schema.entity u
      let mentioned ← if c.strict then mentions c.schema u r else pure true
      if mentioned then
        let o ← (c.read u r).result
        return if c.strict && t.fields.all fun g => g.isNull o then none else some (.object o)
      else return none := by
  rw [traced_contribution_of_embedded h, Traced.result_bind, entity, Traced.result_lift]
  congr 1
  funext t
  cases c.strict with
  | false =>
    simp only [Bool.false_eq_true, if_false, pure_bind, if_true]
    exact Traced.result_bind _ _
  | true =>
    simp only [if_true, Traced.result_bind, Traced.result_lift]
    congr 1
    funext mentioned
    cases mentioned with
    | false => rfl
    | true => exact Traced.result_bind _ _

/-- Unless in strict mode, it is read in any case. -/
theorem contribution_of_embedded_lenient (h : f.shape = .embedded u) (hlenient : c.strict = false) :
    (c.contribution r f).value.result = (c.read u r).result >>= fun o => .ok (some (.object o)) := by
  rw [contribution_of_embedded h, hlenient]
  cases ht : c.schema.entity u with
  | error e =>
    rw [read_of_error ht]
    rfl
  | ok t => rfl

/-- An embedded object was read, or there was nothing to read it from. -/
theorem embedded_cases {x : Option Datum} (h : f.shape = .embedded u) (hx : (c.contribution r f).value.result = .ok x) :
    (∃ t o, c.schema.entity u = .ok t ∧ (c.strict = true → mentions c.schema u r = .ok true) ∧
      (c.read u r).result = .ok o ∧
      x = if c.strict && t.fields.all fun g => g.isNull o then none else some (.object o)) ∨
    (c.strict = true ∧ mentions c.schema u r = .ok false ∧ x = none) := by
  rw [contribution_of_embedded h, bind_eq_ok] at hx
  obtain ⟨t, ht, hx⟩ := hx
  cases hstrict : c.strict with
  | false =>
    simp only [hstrict, Bool.false_eq_true, if_false, pure_bind, if_true, bind_eq_ok] at hx
    obtain ⟨o, ho, hx⟩ := hx
    exact .inl ⟨t, o, ht, nofun, ho, (Except.ok.inj hx).symm⟩
  | true =>
    simp only [hstrict, if_true, bind_eq_ok] at hx
    obtain ⟨mentioned, hmentioned, hx⟩ := hx
    cases mentioned with
    | true =>
      rw [if_pos rfl, bind_eq_ok] at hx
      obtain ⟨o, ho, hx⟩ := hx
      exact .inl ⟨t, o, ht, fun _ => hmentioned, ho, (Except.ok.inj hx).symm⟩
    | false => exact .inr ⟨rfl, hmentioned, (Except.ok.inj hx).symm⟩

/-- An object of its own is read from the record under its name. -/
theorem contribution_of_entity (h : f.shape = .entity u) :
    (c.contribution r f).value.result =
      match r.get? f.name with
      | none => .ok none
      | some (.record s) => return some (.object (← (c.read u s).result))
      | some v => .error (.typeMismatch (.notNested f.name "a nested record" v)) := by
  rw [traced_contribution_of_entity h]
  cases r.get? f.name with
  | none => rfl
  | some v =>
    cases v with
    | record s => exact Traced.result_bind _ _
    | _ => rfl

/-- The objects of a collection are read from the list of records under its name. -/
theorem contribution_of_collection {kind : CollectionKind} (h : f.shape = .collection kind u) :
    (c.contribution r f).value.result =
      match r.get? f.name with
      | none => .ok none
      | some v => do
        let rs ← nestedRecords f v
        let t ← c.schema.entity u
        let staging ← c.suppliers.supply kind
        let objects ← rs.mapM fun s => (c.read u s).result
        return some (← assemble f t kind (objects.foldl (fun staged o => staged.add (.object o)) staging)) := by
  rw [traced_contribution_of_collection h]
  cases r.get? f.name with
  | none => rfl
  | some v =>
    simp only [entity, Traced.result_bind, Traced.result_lift, Traced.result_mapM]
    rfl

/-- A record without the name of a field that does not embed an object says that the field holds nothing. -/
theorem contribution_of_get?_none (h : f.embeds? = none) (hr : r.get? f.name = none) :
    (c.contribution r f).value.result = .ok none := by
  cases hshape : f.shape with
  | value => rw [contribution_of_value hshape, hr]
  | embedded u => simp [FieldMapping.embeds?_of_shape hshape] at h
  | entity => rw [contribution_of_entity hshape, hr]
  | collection => rw [contribution_of_collection hshape, hr]

/-- The standard suppliers hand out collections as they were stored, put together in the way of their sort. -/
theorem contribution_some_objects {kind : CollectionKind} {v : Value} {rs : List Record} {objects : List Object}
    (hsuppliers : c.suppliers = .standard) (h : f.shape = .collection kind u) (hr : r.get? f.name = some v)
    (hrs : nestedRecords f v = .ok rs) (ht : c.schema.entity u = .ok t)
    (hobjects : List.Forall₂ (fun s o => (c.read u s).result = .ok o) rs objects)
    (htype : ∀ o ∈ objects, o.type = u) :
    (c.contribution r f).value.result = .ok (some (.collection kind u (kind.ofList t.order objects))) := by
  obtain ⟨name, accepts, hsupply⟩ := Suppliers.supply_standard kind
  have hname : t.typeName = u := Schema.typeName_of_entity ht
  rw [contribution_of_collection h, hr]
  simp only [bind_eq_ok, hsuppliers]
  refine ⟨rs, hrs, t, ht, _, hsupply, objects, mapM_eq_ok.mpr hobjects, _,
    assemble_of_objects ((Staging.elements_supply _ _ _).trans (Supplier.yields_plain _ _ _ _)) ?_, ?_⟩
  · exact fun o ho => by simp [EntityType.isInstance, htype o ho, hname]
  · rw [hname]
    rfl

end Converter
end EntityMapping
