import EntityMapping.Proofs.Notice
import EntityMapping.Proofs.Schema.Declared
import EntityMapping.Template
import Mathlib

/-!
# Runs of a workflow

A run of a workflow can go in six ways. Each of them fixes the journal from its first to its last event, the result,
and what became of the storage: how often the storage action was called can be read off all three.

The journal of a run shows constructors only behind the storage action, because turning an object into a record
builds no objects.

* `Workflow.Runs` — the six ways
* `Converter.events_write` — records are made without constructors
* `Workflow.flow_eq_iff_runs` — a workflow goes in exactly one of the six ways, whether its action pauses or not
-/

namespace EntityMapping

/-! ## Notes of conversions -/

namespace Converter

/-- What a field adds to a record is made without constructors if the records of the objects inside are. -/
theorem events_writeField (c : Converter) (f : FieldMapping) {o : Object}
    {write : TypeName → (p : Object) → sizeOf p < sizeOf o → Conversion Record}
    (hwrite : ∀ u p hp, (write u p hp).events = []) : (c.writeField f o write).events = [] := by
  unfold writeField
  split
  · rfl
  · refine Traced.events_bind_eq_nil ?_ fun v => rfl
    unfold storedValue
    split
    · exact Traced.events_bind_eq_nil rfl fun k => rfl
    · rfl
  · split
    · exact Traced.events_bind_eq_nil (hwrite _ _ _) fun r => rfl
    · exact Traced.events_bind_eq_nil (hwrite _ _ _) fun r => rfl
    · rfl
  · refine Traced.events_bind_eq_nil rfl fun t => ?_
    exact Traced.events_bind_eq_nil (Traced.events_mapM_eq_nil fun p _ => hwrite _ _ _) fun rs => rfl

/-- A record is made of an object without constructors. -/
theorem events_write (c : Converter) (type : TypeName) (o : Object) : (c.write type o).events = [] := by
  rw [write]
  refine Traced.events_bind_eq_nil rfl fun t => ?_
  split
  · refine Traced.events_bind_eq_nil (Traced.events_mapM_eq_nil fun f _ => ?_) fun parts => rfl
    exact c.events_writeField f fun u p _ => c.events_write u p
  · rfl
termination_by sizeOf o

theorem events_toKeyValue (c : Converter) (type : TypeName) (o : Object) : (c.toKeyValue type o).events = [] := by
  unfold toKeyValue
  refine Traced.events_bind_eq_nil rfl fun t => ?_
  split
  · rfl
  · refine Traced.events_bind_eq_nil (c.events_write type o) fun r => ?_
    split <;> rfl

/-- The storage families of a converter. -/
inductive HasFamily (c : Converter) : {R : Type} → StorageFamily R → Prop
  | record : HasFamily c c.recordFamily
  | keyValue : HasFamily c c.keyValueFamily

theorem HasFamily.events_store {c : Converter} {R : Type} {family : StorageFamily R} (h : c.HasFamily family)
    (type : TypeName) (o : Object) : (family.store type o).events = [] := by
  cases h with
  | record => exact c.events_write type o
  | keyValue => exact c.events_toKeyValue type o

end Converter

/-! ## Observers -/

namespace Observers

variable {R : Type}

/-- What observers leave of an entity that they see one after the other. -/
def leave (t : EntityType) (observers : Observers) (o : Object) : Object :=
  observers.foldl (fun o observer => observer.preEntity t o) o

/-- The events of an entity that is shown to observers: each one sees what those in front of it leave. -/
def shown (t : EntityType) (observers : Observers) (o : Object) : List (Event R) :=
  observers.mapIdx fun n observer => .preEntity observer.name t (leave t (observers.take n) o)

/-- The events of constructor calls that observers are told of. -/
def told (observers : Observers) (events : List ConstructorEvent) : List (Event R) :=
  events.flatMap fun event => observers.map fun observer => .constructing observer.name event

theorem firePre_fst (t : EntityType) (observers : Observers) (o : Object) :
    (firePre (R := R) t observers o).1 = observers.shown t o := by
  induction observers generalizing o with
  | nil => rfl
  | cons observer observers ih =>
    show _ :: (firePre t observers (observer.preEntity t o)).1 = _
    rw [ih, shown, shown, List.mapIdx_cons]
    rfl

theorem log_relay {α : Type} (observers : Observers) (x : Conversion α) :
    (observers.relay (R := R) x).log = observers.told x.events := by
  show x.log.flatMap _ = _
  rw [told, Traced.events]
  induction x.log with
  | nil => rfl
  | cons notice notices ih =>
    rw [List.flatMap_cons, ih]
    cases notice with
    | resolved ref => rfl
    | constructing event => rfl

theorem result_relay {α : Type} (observers : Observers) (x : Conversion α) :
    (observers.relay (R := R) x).result = x.result := rfl

end Observers

/-! ## Runs -/

namespace Workflow

variable {R σ ε : Type}

/-- The events of a valid entity up to its conversion. -/
def introduction (w : Workflow R) (t : EntityType) (o : Object) : List (Event R) :=
  .validated [] :: w.observers.shown t o

/-- The ways in which the entity of a type, if there is one, goes through a workflow: the journal and the result of
each, and the state in which it leaves the storage. -/
inductive Runs (w : Workflow R) (wrap : MapError → ε) (t : EntityType) (action : StorageAction σ ε R) (s : σ) :
    Option Object → Traced (Event R) ε Object × σ → Prop
  /-- Without an entity nothing is called. -/
  | absent : Runs w wrap t action s none (⟨[], .error (wrap (.nullArgument "entity"))⟩, s)
  /-- Nothing but the validator sees an entity in which it finds violations. -/
  | invalid {o : Object} (violations : w.validator o ≠ []) :
      Runs w wrap t action s (some o) (⟨[.validated (w.validator o)],
        .error (wrap (.validationFailed (validationMessage t.typeName (w.validator o)) (w.validator o)))⟩, s)
  /-- The entity that the observers leave is not converted. -/
  | unconverted {o : Object} {e : MapError} (valid : w.validator o = [])
      (converted : (w.family.store t.typeName (w.observers.leave t o)).result = .error e) :
      Runs w wrap t action s (some o) (⟨w.introduction t o, .error (wrap e)⟩, s)
  /-- The storage action fails. -/
  | refused {o : Object} {given : R} {e : ε} {s' : σ} (valid : w.validator o = [])
      (converted : (w.family.store t.typeName (w.observers.leave t o)).result = .ok given)
      (acted : action given s = (.error e, s')) :
      Runs w wrap t action s (some o) (⟨w.introduction t o ++ [.action given], .error e⟩, s')
  /-- What is stored is not converted back. -/
  | unreadable {o : Object} {given stored : R} {e : MapError} {s' : σ} (valid : w.validator o = [])
      (converted : (w.family.store t.typeName (w.observers.leave t o)).result = .ok given)
      (acted : action given s = (.ok stored, s'))
      (loaded : (w.family.load t.typeName stored).result = .error e) :
      Runs w wrap t action s (some o) (⟨w.introduction t o ++ .action given ::
        w.listeners.told (w.family.load t.typeName stored).events, .error (wrap e)⟩, s')
  /-- The entity comes back. -/
  | completed {o p : Object} {given stored : R} {s' : σ} (valid : w.validator o = [])
      (converted : (w.family.store t.typeName (w.observers.leave t o)).result = .ok given)
      (acted : action given s = (.ok stored, s'))
      (loaded : (w.family.load t.typeName stored).result = .ok p) :
      Runs w wrap t action s (some o) (⟨w.introduction t o ++ .action given ::
        (w.listeners.told (w.family.load t.typeName stored).events ++
          w.observers.map fun observer => .postEntity observer.name t p), .ok p⟩, s')

variable {w : Workflow R} {wrap : MapError → ε} {type : TypeName} {t : EntityType} {action : StorageAction σ ε R}
  {s : σ} {o : Object}

/-- The part of a run before its storage action, in an entity without violations. -/
theorem prepare_of_valid {c : Converter} (hfamily : c.HasFamily w.family) (hvalid : w.validator o = []) :
    w.prepare t o =
      ⟨w.introduction t o, (w.family.store t.typeName (w.observers.leave t o)).result⟩ := by
  have hcheck : (w.validate t o).result = .ok () := by simp [validate, Validator.check, hvalid]
  have hpre : w.observers.firePre (R := R) t o = (w.observers.shown t o, w.observers.leave t o) :=
    Prod.ext (Observers.firePre_fst t w.observers o) (Observers.firePre_snd t w.observers o)
  have hlog : (w.listeners.relay (R := R) (w.family.store t.typeName (w.observers.leave t o))).log = [] := by
    rw [Observers.log_relay, hfamily.events_store]
    rfl
  unfold prepare
  rw [Traced.bind_of_ok hcheck, hpre]
  dsimp only
  rw [Traced.bind_of_ok rfl, hlog, List.append_nil, Observers.result_relay, validate, hvalid]
  rfl

theorem prepare_of_violations (hviolations : w.validator o ≠ []) :
    w.prepare t o = ⟨[.validated (w.validator o)],
      .error (.validationFailed (validationMessage t.typeName (w.validator o)) (w.validator o))⟩ := by
  obtain ⟨v, vs, hvs⟩ := List.exists_cons_of_ne_nil hviolations
  have hcheck : (w.validate t o).result =
      .error (.validationFailed (validationMessage t.typeName (v :: vs)) (v :: vs)) := by
    simp [validate, Validator.check, hvs]
  unfold prepare
  rw [Traced.bind_of_error hcheck, validate, hvs]

/-- The part of a run behind its storage action. -/
theorem complete_of_error {stored : R} {e : MapError} (h : (w.family.load t.typeName stored).result = .error e) :
    w.complete t stored = ⟨w.listeners.told (w.family.load t.typeName stored).events, .error e⟩ := by
  have hrelay : (w.listeners.relay (R := R) (w.family.load t.typeName stored)).result = .error e := h
  rw [complete, Traced.bind_of_error hrelay, Observers.log_relay]

theorem complete_of_ok {stored : R} {p : Object} (h : (w.family.load t.typeName stored).result = .ok p) :
    w.complete t stored = ⟨w.listeners.told (w.family.load t.typeName stored).events ++
      w.observers.map fun observer => .postEntity observer.name t p, .ok p⟩ := by
  have hrelay : (w.listeners.relay (R := R) (w.family.load t.typeName stored)).result = .ok p := h
  rw [complete, Traced.bind_of_ok hrelay, Observers.log_relay]
  rfl

theorem start_none : w.start type none = ⟨[], .error (.nullArgument "entity")⟩ := rfl

/-- A run starts with the preparation of its entity. -/
theorem start_some (ht : w.schema.entity type = .ok t) :
    w.start type (some o) = (w.prepare t o) >>= fun r => pure (t, r) := by
  have haccept : (Traced.lift (w.accept type (some o)) : Traced (Event R) MapError (EntityType × Object)).result =
      .ok (t, o) := by
    rw [Traced.result_lift, accept, ht]
    rfl
  rw [start, Traced.bind_of_ok haccept]
  rfl

/-- A run that does not get to its storage action. -/
theorem flow_of_start_error {entity : Option Object} {journal : List (Event R)} {e : MapError}
    (h : w.start type entity = ⟨journal, .error e⟩) :
    w.flow wrap type entity action s = (⟨journal, .error (wrap e)⟩, s) := by
  unfold flow
  rw [h]

/-- A run that gets to its storage action calls it once. -/
theorem flow_of_start_ok {entity : Option Object} {journal : List (Event R)} {given : R}
    (h : w.start type entity = ⟨journal, .ok (t, given)⟩) :
    w.flow wrap type entity action s = (w.finish wrap t journal given (action given s).1, (action given s).2) := by
  unfold flow
  rw [h]

/-- The run of an entity without violations. -/
theorem start_of_valid {c : Converter} (hfamily : c.HasFamily w.family) (ht : w.schema.entity type = .ok t)
    (hvalid : w.validator o = []) :
    w.start type (some o) = ⟨w.introduction t o,
      (w.family.store t.typeName (w.observers.leave t o)).result.map fun given => (t, given)⟩ := by
  rw [start_some ht, prepare_of_valid hfamily hvalid]
  cases h : (w.family.store t.typeName (w.observers.leave t o)).result with
  | error e => rfl
  | ok given =>
    show Traced.mk (_ ++ []) _ = _
    rw [List.append_nil]
    rfl

/-- A workflow goes in one of the six ways. -/
theorem runs_flow {c : Converter} (hfamily : c.HasFamily w.family) (ht : w.schema.entity type = .ok t)
    (entity : Option Object) : w.Runs wrap t action s entity (w.flow wrap type entity action s) := by
  cases entity with
  | none =>
    rw [flow_of_start_error start_none]
    exact .absent
  | some o =>
    by_cases hvalid : w.validator o = []
    · have hstart := start_of_valid hfamily ht hvalid
      cases hconverted : (w.family.store t.typeName (w.observers.leave t o)).result with
      | error e =>
        rw [hconverted] at hstart
        rw [flow_of_start_error hstart]
        exact .unconverted hvalid hconverted
      | ok given =>
        rw [hconverted] at hstart
        rw [flow_of_start_ok hstart]
        obtain ⟨answer, s', hacted⟩ : ∃ answer s', action given s = (answer, s') := ⟨_, _, rfl⟩
        rw [hacted]
        cases answer with
        | error e => exact .refused hvalid hconverted hacted
        | ok stored =>
          cases hloaded : (w.family.load t.typeName stored).result with
          | error e =>
            show w.Runs wrap t action s _ (⟨_ ++ _ :: (w.complete t stored).log,
              (w.complete t stored).result.mapError wrap⟩, s')
            rw [complete_of_error hloaded]
            exact .unreadable hvalid hconverted hacted hloaded
          | ok p =>
            show w.Runs wrap t action s _ (⟨_ ++ _ :: (w.complete t stored).log,
              (w.complete t stored).result.mapError wrap⟩, s')
            rw [complete_of_ok hloaded]
            exact .completed hvalid hconverted hacted hloaded
    · have hstart : w.start type (some o) = ⟨[.validated (w.validator o)],
          .error (.validationFailed (validationMessage t.typeName (w.validator o)) (w.validator o))⟩ := by
        rw [start_some ht, prepare_of_violations hvalid]
        rfl
      rw [flow_of_start_error hstart]
      exact .invalid hvalid

/-- There is one way for each entity: what was found, converted, stored and loaded decides which one. -/
theorem Runs.unique {entity : Option Object} {run run' : Traced (Event R) ε Object × σ}
    (h : w.Runs wrap t action s entity run) (h' : w.Runs wrap t action s entity run') : run = run' := by
  cases h <;> cases h' <;> simp_all

/-- **A workflow of documents, columns or key-value pairs goes in exactly one of the six ways; if the storage action
pauses, in the same one.** -/
theorem flow_eq_iff_runs (c : Converter) (w : Workflow R) (hfamily : c.HasFamily w.family) (wrap : MapError → ε)
    (type : TypeName) (t : EntityType) (ht : w.schema.entity type = .ok t) (entity : Option Object)
    (action : StorageAction σ ε R) (s : σ) (run : Traced (Event R) ε Object × σ) :
    (w.flow wrap type entity action s = run ↔ w.Runs wrap t action s entity run) ∧
      ∀ pausing : R → Deferred σ (Except ε R), (∀ given, (pausing given).await = action given) →
        ((w.flowAsync wrap type entity pausing).await s = run ↔ w.Runs wrap t action s entity run) := by
  have hruns : w.flow wrap type entity action s = run ↔ w.Runs wrap t action s entity run := by
    constructor
    · rintro rfl
      exact runs_flow hfamily ht entity
    · exact (runs_flow hfamily ht entity).unique
  refine ⟨hruns, fun pausing hpausing => ?_⟩
  rw [await_flowAsync, funext hpausing]
  exact hruns

/-- A page that counts how often it was saved. -/
def visitDeclaration : Declaration where
  name := "Visit"
  typeName := "Visit"
  embeddable := false
  recordName := none
  members :=
    [(Member.optional "id" "Option<i64>" ⟨"i64", .value .int64⟩).asId,
      .required "count" "i64" ⟨"i64", .value .int64⟩]
  start := none
  order _ _ := .eq

def visit (id count : Int64) : Object :=
  ⟨"Visit", [("id", some (.scalar .int64 id)), ("count", some (.scalar .int64 count))]⟩

/-- Counts on before a page is saved. -/
def counting : Observer where
  name := "counting"
  preEntity _ o :=
    match o.get? "count" with
    | some (.scalar .int64 n) => o.set "count" (.scalar .int64 (n + 1))
    | _ => o

/-- The converter of counted pages. -/
def visits : Converter := .ofSchema ⟨[visitDeclaration.describe], fun _ => 0, by decide⟩

/-- Counted pages as pairs, seen by an observer that counts on and by one that looks on. -/
def visitWorkflow : Workflow KeyValue :=
  (Mapping.mk visits [counting, .onlooker "looking"] .lenient).keyValueWorkflow

/-- A storage that keeps pages as they are and counts its calls. -/
def keeping : StorageAction Nat MapError KeyValue := fun given calls => (.ok given, calls + 1)

/-- How a page is saved. -/
def visitRun : Traced (Event KeyValue) MapError Object × Nat :=
  (⟨[.validated [], .preEntity "counting" visitDeclaration.entityType (visit 7 1),
    .preEntity "looking" visitDeclaration.entityType (visit 7 2),
    .action ⟨.integer 7, ⟨"Visit", [("id", .integer 7), ("count", .integer 2)]⟩⟩,
    .constructing "counting" ⟨"Visit", "Visit(id: Option<i64>, count: i64)", ["id", "count"], [true, true]⟩,
    .constructing "looking" ⟨"Visit", "Visit(id: Option<i64>, count: i64)", ["id", "count"], [true, true]⟩,
    .postEntity "counting" visitDeclaration.entityType (visit 7 2),
    .postEntity "looking" visitDeclaration.entityType (visit 7 2)], .ok (visit 7 2)⟩, 1)

/-- A page is stored and comes back, and so it does when the storage is called elsewhere. -/
theorem runs_visit :
    visits.HasFamily visitWorkflow.family ∧
      visitWorkflow.schema.entity "Visit" = .ok visitDeclaration.entityType ∧
      visitWorkflow.Runs id visitDeclaration.entityType keeping 0 (some (visit 7 1)) visitRun ∧
      (visitWorkflow.flowAsync id "Visit" (some (visit 7 1)) fun given => .elsewhere (keeping given)).await 0 =
        visitRun := by
  have hentity : visitWorkflow.schema.entity "Visit" = .ok visitDeclaration.entityType := by cbv
  obtain ⟨hflow, hasync⟩ := flow_eq_iff_runs visits visitWorkflow .keyValue id "Visit" _ hentity (some (visit 7 1))
    keeping 0 visitRun
  have hruns := hflow.mp (by cbv)
  exact ⟨.keyValue, hentity, hruns, (hasync _ fun _ => rfl).mpr hruns⟩

end Workflow
end EntityMapping
