import EntityMapping.Proofs.Store.Run
import EntityMapping.Proofs.Traced
import EntityMapping.Schema.Declaration
import EntityMapping.Template
import Mathlib

/-!
# Saving that fails

An entity is stored before the stored record is converted back, and nothing takes the record out again when this
last conversion fails. A failure before it leaves all records as they were.

* `Workflow.flow_cases` — the three ways that a run can go
* `Template.failed_save_cases` — what a failed insertion or update of an entity leaves in a store
* `Template.insert_unreadable_token` — an entity that is stored although its insertion fails
-/

namespace EntityMapping

/-! ## Runs -/

namespace Workflow

variable {R σ ε : Type}

/-- Whether a run gets to its storage action, and the action succeeds with `stored`. -/
def Stores (w : Workflow R) (type : TypeName) (entity : Option Object) (action : StorageAction σ ε R) (s : σ)
    (stored : R) : Prop :=
  ∃ t given, (w.start type entity).result = .ok (t, given) ∧ (action given s).1 = .ok stored

/-- A run that gets to its storage action does so with the entity type of the name. -/
theorem entity_of_start {w : Workflow R} {type : TypeName} {entity : Option Object} {t : EntityType} {given : R}
    (h : (w.start type entity).result = .ok (t, given)) : w.schema.entity type = .ok t := by
  simp only [start, Traced.result_bind, Traced.result_lift, bind_eq_ok] at h
  obtain ⟨⟨u, o⟩, haccept, r, -, hpair⟩ := h
  injection hpair with hpair
  injection hpair with hu
  cases entity with
  | none => simp [accept] at haccept
  | some p =>
    cases hentity : w.schema.entity type with
    | error e => simp [accept, hentity, Except.map] at haccept
    | ok v =>
      simp only [accept, hentity, Except.map, Except.ok.injEq, Prod.mk.injEq] at haccept
      rw [haccept.1, ← hu]

/-- Behind the storage action, only the conversion can fail. -/
theorem complete_result (w : Workflow R) (t : EntityType) (stored : R) :
    (w.complete t stored).result = (w.family.load t.typeName stored).result := by
  simp only [complete, Traced.result_bind, Observers.relay, Traced.result_mapLog]
  exact bind_pure _

/-- A run fails before its storage action, or in it, or has stored something, which it then converts back. -/
theorem flow_cases (w : Workflow R) (wrap : MapError → ε) (type : TypeName) (entity : Option Object)
    (action : StorageAction σ ε R) (s : σ) :
    (∃ e, (w.start type entity).result = .error e ∧
        (w.flow wrap type entity action s).1.result = .error (wrap e) ∧
        (w.flow wrap type entity action s).2 = s) ∨
      (∃ t given e, (w.start type entity).result = .ok (t, given) ∧ (action given s).1 = .error e ∧
        (w.flow wrap type entity action s).1.result = .error e ∧
        (w.flow wrap type entity action s).2 = (action given s).2) ∨
      ∃ t given stored, (w.start type entity).result = .ok (t, given) ∧
        (action given s).1 = .ok stored ∧
        (w.flow wrap type entity action s).1.result =
          (w.family.load type stored).result.mapError wrap ∧
        (w.flow wrap type entity action s).2 = (action given s).2 := by
  unfold flow
  cases hstart : (w.start type entity).result with
  | error e => exact .inl ⟨e, rfl, by simp only [hstart], by simp only [hstart]⟩
  | ok start =>
    obtain ⟨t, given⟩ := start
    cases haction : (action given s).1 with
    | error e =>
      refine .inr (.inl ⟨t, given, e, rfl, haction, ?_, ?_⟩)
      · simp only [hstart, haction, finish]
      · simp only [hstart]
    | ok stored =>
      refine .inr (.inr ⟨t, given, stored, rfl, haction, ?_, ?_⟩)
      · simp only [hstart, haction, finish, Traced.mapError, complete_result,
          Schema.typeName_of_entity (entity_of_start hstart)]
      · simp only [hstart]

end Workflow

/-! ## Records that were saved -/

namespace Store

/-- Whether two stores have the same records. -/
def SameRecords (s t : Store) : Prop := ∀ name, t.collection name = s.collection name

/-- Whether a store differs from another one by a record at the end of the collection of its name. -/
def Appended (s : Store) (r : Record) (t : Store) : Prop :=
  ∀ name, t.collection name = if name = r.name then s.collection name ++ [r] else s.collection name

/-- Whether a store differs from another one by a record in the place of the first one with its id. -/
def Replaced (s : Store) (r : Record) (t : Store) : Prop :=
  ∃ id pre old post, r.get? s.idField = some id ∧ s.collection r.name = pre ++ old :: post ∧
    s.hasId id old = true ∧ (∀ a ∈ pre, s.hasId id a = false) ∧
    ∀ name, t.collection name = if name = r.name then pre ++ r :: post else s.collection name

theorem sameRecords_insert {s : Store} {r : Record} {e : MapError} (h : (s.insert r).1 = .error e) :
    s.SameRecords (s.insert r).2 := by
  rcases s.insert_cases r with ⟨-, -, hsame⟩ | ⟨-, hresult, -⟩
  · exact hsame
  · simp [hresult] at h

theorem appended_insert {s : Store} {r stored : Record} (h : (s.insert r).1 = .ok stored) :
    s.Appended stored (s.insert r).2 := by
  rcases s.insert_cases r with ⟨-, hresult, -⟩ | ⟨-, hresult, hcollection⟩
  · simp [hresult] at h
  · rw [hresult] at h
    injection h with h
    intro name
    rw [hcollection, ← h, (s.identify_spec r).1]
    split
    · next hname => rw [hname]
    · rfl

theorem sameRecords_update {s : Store} {r : Record} {e : MapError} (h : (s.update r).1 = .error e) :
    s.SameRecords (s.update r).2 := by
  rcases s.update_cases r with ⟨-, hsame⟩ | ⟨-, -, -, -, -, -, -, -, hresult, -⟩
  · exact fun name => by rw [hsame]
  · simp [hresult] at h

theorem replaced_update {s : Store} {r stored : Record} (h : (s.update r).1 = .ok stored) :
    s.Replaced stored (s.update r).2 := by
  rcases s.update_cases r with ⟨⟨e, hresult⟩, -⟩ |
    ⟨id, pre, old, post, hid, hrecords, hold, hpre, hresult, hcollection⟩
  · simp [hresult] at h
  · rw [hresult] at h
    injection h with h
    subst h
    exact ⟨id, pre, old, post, hid, hrecords, hold, hpre, hcollection⟩

end Store

/-! ## Failures -/

namespace Template

/-- Storage for entities over a store. -/
abbrev ofStore (m : Mapping) : Template Store := ⟨m, Store.manager⟩

/-- What a failed run over a store leaves, for an action that leaves the records as they are when it fails, and
does `Changed` to them when it succeeds. -/
theorem failed_flow_cases {w : Workflow Record} {type : TypeName} {entity : Option Object}
    {action : StorageAction Store MapError Record} {Changed : Record → Store → Prop} {s : Store} {e : MapError}
    (hfailure : ∀ given e, (action given s).1 = .error e → s.SameRecords (action given s).2)
    (hsuccess : ∀ given stored, (action given s).1 = .ok stored → Changed stored (action given s).2)
    (h : (w.flow id type entity action s).1.result = .error e) :
    ((∀ stored, ¬ w.Stores type entity action s stored) ∧
        s.SameRecords (w.flow id type entity action s).2) ∨
      ∃ stored, w.Stores type entity action s stored ∧ (w.family.load type stored).result = .error e ∧
        Changed stored (w.flow id type entity action s).2 := by
  rcases w.flow_cases id type entity action s with
    ⟨e', hstart, -, hstore⟩ | ⟨t, given, e', hstart, haction, -, hstore⟩ |
    ⟨t, given, stored, hstart, haction, hresult, hstore⟩
  · refine .inl ⟨?_, fun name => by rw [hstore]⟩
    rintro stored ⟨t, given, hstart', -⟩
    simp [hstart] at hstart'
  · refine .inl ⟨?_, ?_⟩
    · rintro stored ⟨t', given', hstart', haction'⟩
      rw [hstart] at hstart'
      injection hstart' with hstart'
      injection hstart' with ht hgiven
      subst hgiven
      simp [haction] at haction'
    · rw [hstore]
      exact hfailure given e' haction
  -- the action has succeeded, so the failure is that of the conversion
  · refine .inr ⟨stored, ⟨t, given, hstart, haction⟩, ?_, ?_⟩
    · rw [hresult] at h
      cases hload : (w.family.load type stored).result with
      | ok o => simp [hload, Except.mapError] at h
      | error e' =>
        rw [hload] at h
        exact h
    · rw [hstore]
      exact hsuccess given stored haction

/-- **When an insertion or an update of an entity fails, either nothing was stored and the records are as they
were, or a record was stored that cannot be converted back, and it stays.** -/
theorem failed_save_cases (m : Mapping) (type : TypeName) (entity : Option Object) (s : Store) (e : MapError) :
    (((ofStore m).insert type entity s).1.result = .error e →
      ((∀ stored, ¬ m.recordWorkflow.Stores type entity Store.manager.insert s stored) ∧
          s.SameRecords ((ofStore m).insert type entity s).2) ∨
        ∃ stored, m.recordWorkflow.Stores type entity Store.manager.insert s stored ∧
          (m.converter.read type stored).result = .error e ∧
          s.Appended stored ((ofStore m).insert type entity s).2) ∧
    (((ofStore m).update type entity s).1.result = .error e →
      ((∀ stored, ¬ m.recordWorkflow.Stores type entity Store.manager.update s stored) ∧
          s.SameRecords ((ofStore m).update type entity s).2) ∨
        ∃ stored, m.recordWorkflow.Stores type entity Store.manager.update s stored ∧
          (m.converter.read type stored).result = .error e ∧
          s.Replaced stored ((ofStore m).update type entity s).2) :=
  ⟨failed_flow_cases (fun _ _ => Store.sameRecords_insert) fun _ _ => Store.appended_insert,
    failed_flow_cases (fun _ _ => Store.sameRecords_update) fun _ _ => Store.replaced_update⟩

/-- A type whose id is text, stored as `_id`. -/
def tokenDeclaration : Declaration where
  name := "Token"
  typeName := "Token"
  embeddable := false
  recordName := none
  members :=
    [((Member.optional "key" "Option<String>" ⟨"String", .value .text⟩).asId).named "_id",
      .required "user" "String" ⟨"String", .value .text⟩]
  start := none
  order _ _ := .eq

/-- The mapping of tokens alone. -/
def tokenMapping : Mapping where
  converter := .ofSchema ⟨[tokenDeclaration.describe], fun _ => 0, by decide⟩
  observers := []
  validator := .lenient

/-- A token with this key. -/
def token (key : Option String) : Object :=
  ⟨"Token", [("key", key.map (.scalar .text)), ("user", some (.scalar .text "ada"))]⟩

/-- An insertion that stores, and an update that does not. -/
theorem failed_save_cases_token :
    ((ofStore tokenMapping).insert "Token" (some (token none)) (.empty "_id" 1)).1.result =
        .error (.typeMismatch (.inField "key" (.expected "TEXT" (.integer 1)))) ∧
      (∃ stored, tokenMapping.recordWorkflow.Stores "Token" (some (token none)) Store.manager.insert
          (.empty "_id" 1) stored ∧
        (tokenMapping.converter.read "Token" stored).result =
          .error (.typeMismatch (.inField "key" (.expected "TEXT" (.integer 1)))) ∧
        (Store.empty "_id" 1).Appended stored
          ((ofStore tokenMapping).insert "Token" (some (token none)) (.empty "_id" 1)).2) ∧
      ((ofStore tokenMapping).update "Token" (some (token (some "k"))) (.empty "_id" 1)).1.result =
        .error (.storage (.notFound "Token" "_id" (.text "k"))) ∧
      (Store.empty "_id" 1).SameRecords
        ((ofStore tokenMapping).update "Token" (some (token (some "k"))) (.empty "_id" 1)).2 := by
  have hinsert : ((ofStore tokenMapping).insert "Token" (some (token none)) (.empty "_id" 1)).1.result =
      .error (.typeMismatch (.inField "key" (.expected "TEXT" (.integer 1)))) := by cbv
  have hstored : ((ofStore tokenMapping).insert "Token" (some (token none)) (.empty "_id" 1)).2.collection
      "Token" = [⟨"Token", [("user", .text "ada"), ("_id", .integer 1)]⟩] := by cbv
  have hupdate : ((ofStore tokenMapping).update "Token" (some (token (some "k"))) (.empty "_id" 1)).1.result =
      .error (.storage (.notFound "Token" "_id" (.text "k"))) := by cbv
  refine ⟨hinsert, ?_, hupdate, ?_⟩
  · rcases (failed_save_cases tokenMapping _ _ _ _).1 hinsert with ⟨-, hsame⟩ | hchanged
    · simp [hsame "Token"] at hstored
    · exact hchanged
  · rcases (failed_save_cases tokenMapping _ _ _ _).2 hupdate with ⟨-, hsame⟩ |
      ⟨_, _, _, _, _, _, _, _, hrecords, _⟩
    · exact hsame
    · simp at hrecords

/-- The store gives a token a number as its id, which is no text, and keeps the token. -/
theorem insert_unreadable_token :
    ((ofStore tokenMapping).insert "Token" (some (token none)) (.empty "_id" 1)).1.result =
        .error (.typeMismatch (.inField "key" (.expected "TEXT" (.integer 1)))) ∧
      ((ofStore tokenMapping).insert "Token" (some (token none)) (.empty "_id" 1)).2.collection "Token" =
        [⟨"Token", [("user", .text "ada"), ("_id", .integer 1)]⟩] ∧
      (Store.empty "_id" 1).collection "Token" = [] := by
  refine ⟨?_, ?_, ?_⟩ <;> cbv

end Template
end EntityMapping
