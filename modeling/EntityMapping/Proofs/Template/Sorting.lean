import EntityMapping.Proofs.Store.Sorting
import EntityMapping.Proofs.Template.Lookup
import EntityMapping.Proofs.Template.Paging

/-!
# Entities sorted by an integer

Entities of a type with an integer that is never missing, inserted one after the other: every record that is stored
then holds the integer of its entity, and a query that sorts by it finds the entities in the order of these integers,
as far as the storage compares them as such. Where it stores some as texts and others as integers, there may be no order
of them at all.

* `Template.insertAll` — entities inserted one after the other
* `Template.holds_insert`, `Template.holds_insertAll` — what their records hold
* `Template.select_sortedByInteger` — the order in which they are found
* `Template.pages_break_off` — entities of which no pages can be made
-/

namespace EntityMapping

/-- The integer that an object holds in a member. -/
def ObjectOf.integer? (o : Object) (member : String) : Option Int :=
  match o.get? member with
  | some (.scalar t x) => t.toInt? x
  | _ => none

namespace ScalarType

variable {t : ScalarType}

/-- The integer that a record holds under a name for a member of the type. -/
def storedInt? (t : ScalarType) (name : String) (r : Record) : Option Int :=
  (r.get? name).bind fun v => (t.decode v).toOption.bind t.toInt?

theorem holds_of_isInteger (h : t.IsInteger) (x : t.Carrier) : t.Holds x := by
  cases t with
  | int64 | int32 | uint32 | uint64 => exact trivial
  | _ => exact h.elim

theorem storedInt?_of_get? (h : t.IsInteger) {name : String} {r : Record} {x : t.Carrier}
    (hr : r.get? name = some (t.encode x)) : t.storedInt? name r = t.toInt? x := by
  rw [storedInt?, hr, Option.bind_some, decode_encode t (holds_of_isInteger h x)]
  rfl

/-- The integers of all types but the largest one are signed integers of 64 bits. -/
theorem lt_of_toInt? {x : t.Carrier} {n : Int} (h : t.toInt? x = some n) (ht : t ≠ .uint64) : n < 2 ^ 63 := by
  cases t with
  | int64 =>
    obtain rfl := Option.some.inj h
    exact Int64.toInt_lt x
  | int32 =>
    obtain rfl := Option.some.inj h
    have := Int32.toInt_lt x
    omega
  | uint32 =>
    obtain rfl := Option.some.inj h
    have := UInt32.toNat_lt x
    omega
  | uint64 => exact absurd rfl ht
  | _ => cases h

/-- The integers of the types of 32 bits are held exactly by doubles. -/
theorem natAbs_le_of_toInt? {x : t.Carrier} {n : Int} (h : t.toInt? x = some n) (ht : t = .int32 ∨ t = .uint32) :
    n.natAbs ≤ 2 ^ 53 := by
  rcases ht with rfl | rfl
  · obtain rfl := Option.some.inj h
    have := Int32.toInt_lt x
    have := Int32.le_toInt x
    omega
  · obtain rfl := Option.some.inj h
    have := UInt32.toNat_lt x
    omega

end ScalarType

namespace Template

/-- Inserts entities one after the other, whether or not an insertion succeeds. -/
def insertAll (m : Mapping) (type : TypeName) (entities : List Object) (s : Store) : Store :=
  entities.foldl (fun s o => ((ofStore m).insert type (some o) s).2) s

section Sorting

variable {D : DeclaredSchema} {m : Mapping} {type : TypeName} {d : Declaration} {i : Member} {t : ScalarType}
  {name : String} (hm : m.converter.schema = D.toSchema) (hi : D.HasScalar type d i t name)
  (hpresent : i.mayBeEmpty = false)
  (hobservers : ∀ observer ∈ m.observers, ∀ o, d.HasInstance o → d.HasInstance (observer.preEntity d.entityType o))
include hm hi hpresent hobservers

omit hm hi hpresent in
theorem hasInstance_leave {o : Object} (ho : d.HasInstance o) : d.HasInstance (m.observers.leave d.entityType o) :=
  List.foldlRecOn m.observers _ ho fun o ho observer hmem => hobservers observer hmem o ho

/-- An insertion keeps to it that all records hold a value of the member. -/
theorem holds_insert {s : Store} {o : Object} (ho : d.HasInstance o)
    (hs : ∀ r ∈ s.collection d.entityType.name, ∃ x, r.get? name = some (t.encode x)) :
    ∀ r ∈ ((ofStore m).insert type (some o) s).2.collection d.entityType.name,
      ∃ x, r.get? name = some (t.encode x) := by
  show ∀ r ∈ (m.recordWorkflow.flow id type (some o) Store.manager.insert s).2.collection d.entityType.name, _
  rcases m.recordWorkflow.flow_snd id type (some o) Store.manager.insert s with hstore | ⟨u, given, hstart, hstore⟩
  · rw [hstore]
    exact hs
  · rw [hstore]
    obtain ⟨p, hp, hwrite⟩ := exists_write_of_start hstart
    cases hp
    have hentity : m.converter.schema.entity type = .ok d.entityType := hm ▸ hi.entity
    cases (Workflow.entity_of_start hstart).symm.trans hentity
    obtain ⟨hname, x, -, hget⟩ := hi.exists_of_write hpresent hm (hasInstance_leave hobservers ho) hwrite
    show ∀ r ∈ (s.insert given).2.collection d.entityType.name, _
    rcases s.insert_cases given with ⟨-, -, hsame⟩ | ⟨-, -, hadded⟩
    · rw [hsame]
      exact hs
    · rw [hadded, if_pos hname.symm, hname]
      intro r hr
      rcases List.mem_append.mp hr with hr | hr
      · exact hs r hr
      · rw [List.mem_singleton.mp hr]
        exact ⟨x, Store.get?_identify hget⟩

/-- After insertions all records hold a value of the member. -/
theorem holds_insertAll {entities : List Object} (hentities : ∀ o ∈ entities, d.HasInstance o) {s : Store}
    (hs : ∀ r ∈ s.collection d.entityType.name, ∃ x, r.get? name = some (t.encode x)) :
    ∀ r ∈ (insertAll m type entities s).collection d.entityType.name, ∃ x, r.get? name = some (t.encode x) := by
  induction entities generalizing s with
  | nil => exact hs
  | cons o entities ih =>
    rw [List.forall_mem_cons] at hentities
    exact ih hentities.2 (holds_insert hm hi hpresent hobservers hentities.1 hs)

/-- What meets the condition of a query is stored with an integer. -/
theorem exists_integer (ht : t.IsInteger) {entities : List Object} (hentities : ∀ o ∈ entities, d.HasInstance o)
    {q : DocumentQuery} (hentity : q.entity = d.entityType.name) (idField : String) (start : Int64) :
    ∃ integer : Record → Int, ∀ r ∈ (insertAll m type entities (.empty idField start)).matching q,
      ∃ x, r.get? name = some (t.encode x) ∧ t.toInt? x = some (integer r) := by
  refine ⟨fun r => (t.storedInt? name r).getD 0, fun r hr => ?_⟩
  have hholds := holds_insertAll hm hi hpresent hobservers hentities (s := .empty idField start) (by simp)
  obtain ⟨x, hx⟩ := hholds r (hentity ▸ List.mem_of_mem_filter hr)
  obtain ⟨n, hn⟩ := ScalarType.exists_toInt? ht x
  exact ⟨x, hx, by simp [ScalarType.storedInt?_of_get? ht hx, hn]⟩

end Sorting

/-- What is found by a query holds the integers that the records hold. -/
theorem integers_of_select {D : DeclaredSchema} {m : Mapping} {type : TypeName} {d : Declaration} {i : Member}
    {t : ScalarType} {name : String} (hm : m.converter.schema = D.toSchema) (hi : D.HasScalar type d i t name)
    (ht : t.IsInteger) {rows : List Record} {objects : List Object} {integer : Record → Int}
    (hread : List.Forall₂ (fun r o => (m.converter.read type r).result = .ok o) rows objects)
    (hrows : ∀ r ∈ rows, ∃ x, r.get? name = some (t.encode x) ∧ t.toInt? x = some (integer r)) :
    objects.map (·.integer? i.name) = (rows.map integer).map some := by
  induction hread with
  | nil => rfl
  | @cons r o rows objects hr hread ih =>
    rw [List.forall_mem_cons] at hrows
    obtain ⟨⟨x, hget, hint⟩, hrows⟩ := hrows
    have hobject := hi.get?_of_read hm hget (t.decode_encode (ScalarType.holds_of_isInteger ht x)) hr
    have hinteger : o.integer? i.name = some (integer r) := by
      rw [ObjectOf.integer?, hobject]
      exact hint
    rw [List.map_cons, hinteger, ih hrows]
    rfl

/-- **Entities that are sorted by an integer are found in the order of these integers, as far as the storage compares
them as such.** The integer is never missing, nothing else is stored under its name, and the observers leave proper
objects of proper ones. Signed integers of 64 bits are compared as doubles, which hold those of 32 bits exactly; larger
ones are stored as decimal texts, and compared as such. -/
theorem select_sortedByInteger (D : DeclaredSchema) (m : Mapping) (type : TypeName) (d : Declaration) (i : Member)
    (t : ScalarType) (name idField : String) (start : Int64) (entities : List Object) (q : DocumentQuery)
    (direction : Direction) (objects : List Object) (hm : m.converter.schema = D.toSchema)
    (hi : D.HasScalar type d i t name) (ht : t.IsInteger) (hpresent : i.mayBeEmpty = false)
    (hobservers : ∀ observer ∈ m.observers, ∀ o, d.HasInstance o → d.HasInstance (observer.preEntity d.entityType o))
    (hentities : ∀ o ∈ entities, d.HasInstance o) (hentity : q.entity = d.entityType.name)
    (hsorts : q.sorts = [⟨name, direction⟩])
    (hselect : ((ofStore m).select type q (insertAll m type entities (.empty idField start))).result = .ok objects) :
    ∃ stored found : List Int,
      ((insertAll m type entities (.empty idField start)).matching q).map (t.storedInt? name) = stored.map some ∧
        objects.map (·.integer? i.name) = found.map some ∧ SortedByInteger direction stored found ∧
        (t ≠ .uint64 → ∀ n ∈ stored, n < 2 ^ 63) ∧
        (t = .int32 ∨ t = .uint32 → found.Pairwise direction.Keeps) := by
  let s := insertAll m type entities (.empty idField start)
  obtain ⟨integer, hholds⟩ := exists_integer hm hi hpresent hobservers ht hentities hentity idField start
  obtain ⟨rows, hrows, hread⟩ := exists_rows_of_select hselect
  have hsorted : SortedByInteger direction ((s.matching q).map integer) (rows.map integer) := by
    refine Store.sortedByInteger_select hrows hsorts fun r hr => ?_
    obtain ⟨x, hx, hn⟩ := hholds r hr
    exact ⟨_, hx, ScalarType.shows_encode hn⟩
  refine ⟨_, _, ?_, integers_of_select hm hi ht hread fun r hr => ?_, hsorted, fun hne => ?_, fun hsmall => ?_⟩
  · rw [List.map_map]
    refine List.map_congr_left fun r hr => ?_
    obtain ⟨x, hx, hn⟩ := hholds r hr
    rw [ScalarType.storedInt?_of_get? ht hx]
    exact hn
  · exact hholds r (List.mem_filter.mpr (Store.mem_of_mem_select hrows hr))
  · rw [List.forall_mem_map]
    intro r hr
    obtain ⟨x, -, hn⟩ := hholds r hr
    exact ScalarType.lt_of_toInt? hn hne
  · refine hsorted.small ?_
    rw [List.forall_mem_map]
    intro r hr
    obtain ⟨x, -, hn⟩ := hholds r hr
    exact ScalarType.natAbs_le_of_toInt? hn hsmall

/-! ## Counters -/

def counterId : Member := (Member.optional "id" "Option<i64>" ⟨"i64", .value .int64⟩).asId

def counterHits : Member := .required "hits" "u64" ⟨"u64", .value .uint64⟩

/-- Something that was hit a number of times, with an optional id. -/
def counterDeclaration : Declaration where
  name := "Counter"
  typeName := "Counter"
  embeddable := false
  recordName := none
  members := [counterId, counterHits]
  start := none
  order _ _ := .eq

def counterSchema : DeclaredSchema where
  types := [counterDeclaration].map Declaration.describe
  depth _ := 0
  depth_lt := by decide
  declarations := [counterDeclaration]
  types_eq := rfl
  nodup_members := by decide
  exists_target := by decide
  start_eq := by decide

/-- The mapping of counters, which nobody observes. -/
def counterMapping : Mapping := ⟨.ofSchema counterSchema.toSchema, [], .lenient⟩

def counter (id : Option Int64) (hits : UInt64) : Object :=
  ⟨"Counter", [("id", id.map (.scalar .int64)), ("hits", some (.scalar .uint64 hits))]⟩

/-- The record of a counter, which has its id behind the hits if it was given out. -/
def counterRecord (id : Option Int64) (hits : UInt64) : Record :=
  ⟨"Counter", ("hits", ScalarType.uint64.encode hits) :: (id.map fun n => ("id", Value.integer n)).toList⟩

/-- All counters, those with the fewest hits first. -/
def byHits : DocumentQuery := ⟨"Counter", none, 0, none, [⟨"hits", .asc⟩]⟩

section Counters

variable (n : Int64) (hits : UInt64) (s : Store)

theorem mem_mapped_counter {m : Member} : m ∈ counterDeclaration.mapped ↔ m = counterId ∨ m = counterHits := by
  have hmapped : counterDeclaration.mapped = [counterId, counterHits] := rfl
  rw [hmapped, List.mem_pair]

theorem hasInstance_counter (id : Option Int64) : counterDeclaration.HasInstance (counter id hits) where
  type := rfl
  slots := rfl
  fits m hm x hx := by
    rcases mem_mapped_counter.mp hm with rfl | rfl
    · cases id with
      | none => cases hx
      | some n =>
        cases hx
        rfl
    · cases hx
      rfl
  present m hm hpresent := by
    rcases mem_mapped_counter.mp hm with rfl | rfl
    · cases hpresent
    · rfl

theorem hasScalar_counterHits : counterSchema.HasScalar "Counter" counterDeclaration counterHits .uint64 "hits" where
  declared := rfl
  consistent := by decide
  mapped := mem_mapped_counter.mpr (.inr rfl)
  shape := rfl
  plain := rfl
  stored := rfl
  alone f hf hname := by
    have hfields : counterDeclaration.entityType.fields =
        [counterId.field "Counter", counterHits.field "Counter"] := rfl
    rw [hfields, List.mem_pair] at hf
    rcases hf with rfl | rfl
    · have hid : "hits" ∈ ["id"] := hname
      simp at hid
    · rfl

theorem insert_counter :
    ((ofStore counterMapping).insert "Counter" (some (counter none hits)) s).2 =
      (s.insert (counterRecord none hits)).2 := by
  have hentity : counterMapping.recordWorkflow.schema.entity "Counter" = .ok counterDeclaration.entityType := by cbv
  have hwrite : (counterMapping.converter.write "Counter" (counter none hits)).result = .ok (counterRecord none hits) :=
    Converter.write_eq_ok.mpr ⟨_, [[], [("hits", ScalarType.uint64.encode hits)]], hentity, rfl,
      .cons rfl (.cons rfl .nil), rfl⟩
  have hstart : (counterMapping.recordWorkflow.start "Counter" (some (counter none hits))).result =
      .ok (counterDeclaration.entityType, counterRecord none hits) := by
    rw [Workflow.start_of_valid (c := counterMapping.converter) .record hentity rfl]
    exact congrArg (Except.map _) hwrite
  rw [insert, Workflow.flow]
  simp only [hstart]
  rfl

theorem read_counterRecord :
    (counterMapping.converter.read "Counter" (counterRecord (some n) hits)).result = .ok (counter (some n) hits) := by
  refine (DeclaredSchema.read_eq_ok_iff (D := counterSchema) (d := counterDeclaration) rfl rfl (by cbv)).mpr
    ⟨fun m => if m.name = "id" then some (.scalar .int64 n) else some (.scalar .uint64 hits), ?_, ?_, rfl⟩
  · intro m hm
    rcases mem_mapped_counter.mp hm with rfl | rfl
    · rfl
    · exact hasScalar_counterHits.contribution_of_get? rfl (ScalarType.decode_encode .uint64 trivial)
  · intro m _ _
    dsimp only
    split <;> rfl

/-- Two counters are found in the order in which they are inserted, or the other way round. -/
theorem select_counters (first second : UInt64) :
    ((ofStore counterMapping).select "Counter" byHits
        (insertAll counterMapping "Counter" [counter none first, counter none second] (.empty "id" 1))).result =
      .ok (if compareRecords (counterRecord (some 2) second) (counterRecord (some 1) first) byHits.sorts = .lt then
        [counter (some 2) second, counter (some 1) first]
      else [counter (some 1) first, counter (some 2) second]) := by
  have hinsert (v w : Value) : (((Store.empty "id" 1).insert ⟨"Counter", [("hits", v)]⟩).2.insert
      ⟨"Counter", [("hits", w)]⟩).2 = ⟨"id", 3, [("Counter", [⟨"Counter", [("hits", v), ("id", .integer 1)]⟩,
        ⟨"Counter", [("hits", w), ("id", .integer 2)]⟩])]⟩ := by cbv
  have hstore : insertAll counterMapping "Counter" [counter none first, counter none second] (.empty "id" 1) =
      ⟨"id", 3, [("Counter", [counterRecord (some 1) first, counterRecord (some 2) second])]⟩ := by
    simp only [insertAll, List.foldl, insert_counter]
    exact hinsert _ _
  have hselect (a b : Record) : Store.select ⟨"id", 3, [("Counter", [a, b])]⟩ byHits =
      .ok (sortRecords byHits.sorts [a, b]) :=
    Store.select_eq_ok_iff.mpr ⟨.inl (by decide : 2 ≤ insertionLimit), rfl⟩
  rw [hstore, result_select (hselect _ _), mapM_eq_ok, sortRecords_pair]
  split
  · exact .cons (read_counterRecord 2 second) (.cons (read_counterRecord 1 first) .nil)
  · exact .cons (read_counterRecord 1 first) (.cons (read_counterRecord 2 second) .nil)

/-- Counters whose hits are stored as texts: they are found in the order of the texts, the larger number first. -/
theorem select_textCounters :
    ((ofStore counterMapping).select "Counter" byHits
        (insertAll counterMapping "Counter" [counter none 9999999999999999999, counter none 10000000000000000000]
          (.empty "id" 1))).result =
      .ok [counter (some 2) 10000000000000000000, counter (some 1) 9999999999999999999] := by
  rw [select_counters, if_pos (by decide +kernel)]

end Counters

/-- The counters are in the order of their texts. -/
theorem sortedByInteger_textCounters :
    counterSchema.HasScalar "Counter" counterDeclaration counterHits .uint64 "hits" ∧
      (∀ o ∈ [counter none 9999999999999999999, counter none 10000000000000000000],
        counterDeclaration.HasInstance o) ∧
      ∃ stored found : List Int,
        ((insertAll counterMapping "Counter" [counter none 9999999999999999999, counter none 10000000000000000000]
            (.empty "id" 1)).matching byHits).map (ScalarType.uint64.storedInt? "hits") = stored.map some ∧
          [counter (some 2) 10000000000000000000, counter (some 1) 9999999999999999999].map
              (·.integer? "hits") = found.map some ∧
          SortedByInteger .asc stored found ∧
          (ScalarType.uint64 ≠ .uint64 → ∀ n ∈ stored, n < 2 ^ 63) ∧
          (ScalarType.uint64 = .int32 ∨ ScalarType.uint64 = .uint32 → found.Pairwise Direction.asc.Keeps) := by
  have hentities : ∀ o ∈ [counter none 9999999999999999999, counter none 10000000000000000000],
      counterDeclaration.HasInstance o := by
    intro o ho
    rcases List.mem_pair.mp ho with rfl | rfl
    · exact hasInstance_counter _ none
    · exact hasInstance_counter _ none
  exact ⟨hasScalar_counterHits, hentities, select_sortedByInteger counterSchema counterMapping "Counter"
    counterDeclaration counterHits .uint64 "hits" "id" 1 _ byHits .asc _ rfl hasScalar_counterHits trivial rfl
    (by simp [counterMapping]) hentities rfl rfl select_textCounters⟩

/-- Counters that are not found in the order of their hits: the texts of two large numbers are in another order, and
two numbers next to each other are the same double. -/
theorem select_counters_unsorted :
    (∃ objects, ((ofStore counterMapping).select "Counter" byHits
          (insertAll counterMapping "Counter" [counter none 9999999999999999999, counter none 10000000000000000000]
            (.empty "id" 1))).result = .ok objects ∧
        objects.map (·.integer? "hits") = [some 10000000000000000000, some 9999999999999999999] ∧
        ¬ Direction.asc.Keeps 10000000000000000000 9999999999999999999) ∧
      ∃ objects, ((ofStore counterMapping).select "Counter" byHits
          (insertAll counterMapping "Counter" [counter none 9007199254740993, counter none 9007199254740992]
            (.empty "id" 1))).result = .ok objects ∧
        objects.map (·.integer? "hits") = [some 9007199254740993, some 9007199254740992] ∧
        ¬ Direction.asc.Keeps 9007199254740993 9007199254740992 := by
  have hdoubles : ((ofStore counterMapping).select "Counter" byHits
      (insertAll counterMapping "Counter" [counter none 9007199254740993, counter none 9007199254740992]
        (.empty "id" 1))).result =
      .ok [counter (some 1) 9007199254740993, counter (some 2) 9007199254740992] := by
    rw [select_counters, if_neg (by decide +kernel)]
  exact ⟨⟨_, select_textCounters, rfl, by simp [Direction.Keeps]⟩, _, hdoubles, rfl, by simp [Direction.Keeps]⟩

/-! ## Counters that cannot be sorted -/

/-- Hits of which the first eleven and the last one are stored as texts, and those in between as integers. -/
def mixedHits : List UInt64 :=
  [9300000000000000001, 9300000000000000000] ++ (List.range 9).map (fun n => 9300000000000000002 + .ofNat n) ++
    (List.range 10).map (fun n => .ofNat (n + 1)) ++ [18446744073709551615]

/-- A store with a counter for each of them. -/
def mixedCounters : Store :=
  ⟨"id", 23, [("Counter", mixedHits.zipIdx.map fun counted => counterRecord (some (.ofNat (counted.2 + 1))) counted.1)]⟩

theorem mixedCounters_eq_insertAll :
    insertAll counterMapping "Counter" (mixedHits.map (counter none)) (.empty "id" 1) = mixedCounters := by
  simp only [insertAll, List.foldl_map, insert_counter]
  cbv

/-- Two texts are both equal to an integer, and differ. -/
theorem not_sortable_mixedCounters : ¬ Sortable byHits.sorts (mixedCounters.matching byHits) := by
  have hmem (k : Nat) (r : Record) (hr : (mixedCounters.matching byHits)[k]? = some r) :
      r ∈ mixedCounters.matching byHits := List.mem_of_getElem? hr
  have hlength : (mixedCounters.matching byHits).length = 22 := by cbv
  rintro (hshort | hpreorder)
  · rw [hlength] at hshort
    exact absurd hshort (by decide)
  · have heq := hpreorder.eq_trans (counterRecord (some 1) 9300000000000000001) (counterRecord (some 12) 1)
      (counterRecord (some 2) 9300000000000000000) (hmem 0 _ (by cbv)) (hmem 11 _ (by cbv)) (hmem 1 _ (by cbv))
      (by decide +kernel) (by decide +kernel)
    exact absurd heq (by decide +kernel)

/-- All these counters are converted, but there are no pages of them in the order of their hits, and no list. -/
theorem pages_break_off :
    (insertAll counterMapping "Counter" (mixedHits.map (counter none)) (.empty "id" 1) = mixedCounters ∧
        ∀ r ∈ mixedCounters.collection "Counter", (counterMapping.converter.read "Counter" r).result.isOk = true) ∧
      (∀ p : Pageable, p.sorts = byHits.sorts →
        (ofStore counterMapping).query ⟨"Counters", "all", .page⟩ "Counter" (.select "Counter") [.pageable p]
          mixedCounters = .fail .unsortable) ∧
      ¬ ∃ first objects, Pageable.of 1 22 = .ok first ∧
        ((ofStore counterMapping).query ⟨"Counters", "all", .list⟩ "Counter" byHits [] mixedCounters).result =
          .ok (.list objects) ∧
        VisitsAll (fun p => (ofStore counterMapping).query ⟨"Counters", "all", .page⟩ "Counter" (.select "Counter")
          [.pageable p] mixedCounters) (byHits.sorts.foldl Pageable.sortBy first) 22 objects := by
  refine ⟨⟨mixedCounters_eq_insertAll, ?_⟩, ?_, ?_⟩
  · intro r hr
    obtain ⟨⟨hits, n⟩, -, rfl⟩ : ∃ counted ∈ mixedHits.zipIdx,
        counterRecord (some (.ofNat (counted.2 + 1))) counted.1 = r := List.mem_map.mp hr
    rw [read_counterRecord]
    rfl
  · intro p hp
    have hsorts : ((DocumentQuery.select "Counter").effective [.pageable p]).sorts = byHits.sorts :=
      ((DocumentQuery.select "Counter").asks_effective [.pageable p]).sorts.trans hp
    refine query_of_error (Store.select_of_not_sortable ?_) (.inr rfl)
    rw [hsorts]
    exact not_sortable_mixedCounters
  · rintro ⟨first, objects, -, hlist, -⟩
    have herror : (ofStore counterMapping).query ⟨"Counters", "all", .list⟩ "Counter" byHits [] mixedCounters =
        .fail .unsortable :=
      query_of_error (Store.select_of_not_sortable not_sortable_mixedCounters) (.inl nofun)
    rw [herror] at hlist
    cases hlist

end Template
end EntityMapping
