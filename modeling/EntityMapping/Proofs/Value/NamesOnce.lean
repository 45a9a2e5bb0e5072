import EntityMapping.Proofs.Record.OrderedMap
import EntityMapping.Proofs.Value.Equality
import EntityMapping.Proofs.Value.Wire

/-!
# Records without repeated names

The operations on records never put two fields of one name into a record, and records without repeated names are equal
in both directions or in none. Only the reader of texts takes the fields as they come.

* `Value.NamesOnce` — no record in a value has a name twice
* `Value.eqv_comm` — equality of such values can be turned round
* `Value.NamesOnce.step` — operations on records keep this
* `Value.namesOnce_made_iff` — it holds of all records that can be made exactly when it holds of those that are read
-/

namespace EntityMapping

/-! ## Equality field by field -/

section Records

variable {a b : Record}

theorem eqvRecord_iff (a b : Record) :
    eqvRecord a b = true ↔
      a.name = b.name ∧ a.size = b.size ∧ ∀ f ∈ a.fields, ∃ v, b.get? f.1 = some v ∧ v.eqv f.2 = true := by
  rw [eqvRecord, Bool.and_eq_true, Bool.and_eq_true, decide_eq_true_eq, decide_eq_true_eq, and_assoc,
    List.all_eq_true]
  refine and_congr_right fun _ => and_congr_right fun _ => ⟨fun h f hf => ?_, fun h f hf => ?_⟩
  · have hf := h ⟨f, hf⟩ (List.mem_attach _ _)
    dsimp only at hf
    split at hf
    · next v hv => exact ⟨v, hv, hf⟩
    · simp at hf
  · obtain ⟨v, hv, heq⟩ := h f.1 f.2
    dsimp only
    split
    · next w hw => rwa [← Option.some.inj (hv.symm.trans hw)]
    · next hnone => simp [hnone] at hv

/-- Without repeated names, records are equal when they have the same name, the same field names, and equal values
under each of these. -/
theorem eqvRecord_iff_of_nodup (ha : a.names.Nodup) (hb : b.names.Nodup) :
    eqvRecord a b = true ↔
      a.name = b.name ∧ (∀ name, name ∈ a.names ↔ name ∈ b.names) ∧
        ∀ name v w, a.get? name = some v → b.get? name = some w → w.eqv v = true := by
  rw [eqvRecord_iff]
  refine and_congr_right fun _ => ⟨fun ⟨hsize, h⟩ => ?_, fun ⟨hnames, h⟩ => ?_⟩
  · have hsub : a.names ⊆ b.names := by
      intro name hname
      obtain ⟨f, hf, rfl⟩ := List.mem_map.mp hname
      obtain ⟨v, hv, -⟩ := h f hf
      exact List.mem_map.mpr ⟨(f.1, v), Fields.mem_of_get? hv, rfl⟩
    -- as many different names cannot be fewer
    have hperm : a.names.Perm b.names :=
      (List.subperm_of_subset ha hsub).perm_of_length_le (by simpa [RecordOf.names, RecordOf.size] using hsize.ge)
    refine ⟨fun name => hperm.mem_iff, fun name v w hv hw => ?_⟩
    obtain ⟨w', hw', heq⟩ := h (name, v) (Fields.mem_of_get? hv)
    rwa [Option.some.inj (hw.symm.trans hw')]
  · have hperm : a.names.Perm b.names := (List.perm_ext_iff_of_nodup ha hb).mpr hnames
    refine ⟨by simpa [RecordOf.names, RecordOf.size] using hperm.length_eq, fun f hf => ?_⟩
    have hname : f.1 ∈ b.names := (hnames f.1).mp (List.mem_map_of_mem hf)
    obtain ⟨w, hw⟩ := Option.isSome_iff_exists.mp (Fields.isSome_get?_iff.mpr hname)
    exact ⟨w, hw, h f.1 f.2 w (Fields.get?_of_mem ha hf) hw⟩

/-- Equality of records without repeated names can be turned round if it can for the values under their names. -/
theorem eqvRecord_comm (ha : a.names.Nodup) (hb : b.names.Nodup)
    (h : ∀ name v w, a.get? name = some v → b.get? name = some w → v.eqv w = w.eqv v) :
    eqvRecord a b = eqvRecord b a := by
  rw [Bool.eq_iff_iff, eqvRecord_iff_of_nodup ha hb, eqvRecord_iff_of_nodup hb ha]
  refine and_congr eq_comm (and_congr (forall_congr' fun _ => iff_comm) ⟨fun heq name v w hv hw => ?_,
    fun heq name v w hv hw => ?_⟩)
  · rw [h name w v hw hv]
    exact heq name w v hw hv
  · rw [← h name v w hv hw]
    exact heq name w v hw hv

theorem eqvItems_comm {as bs : List Value} (h : ∀ a ∈ as, ∀ b ∈ bs, a.eqv b = b.eqv a) :
    eqvItems as bs = eqvItems bs as := by
  induction as generalizing bs with
  | nil => cases bs <;> simp [eqvItems]
  | cons a as ih =>
    cases bs with
    | nil => simp [eqvItems]
    | cons b bs =>
      rw [eqvItems, eqvItems, h a List.mem_cons_self b List.mem_cons_self,
        ih fun a ha b hb => h a (List.mem_cons_of_mem _ ha) b (List.mem_cons_of_mem _ hb)]

theorem eqvRecords_comm {as bs : List Record} (h : ∀ a ∈ as, ∀ b ∈ bs, eqvRecord a b = eqvRecord b a) :
    eqvRecords as bs = eqvRecords bs as := by
  induction as generalizing bs with
  | nil => cases bs <;> simp [eqvRecords]
  | cons a as ih =>
    cases bs with
    | nil => simp [eqvRecords]
    | cons b bs =>
      rw [eqvRecords, eqvRecords, h a List.mem_cons_self b List.mem_cons_self,
        ih fun a ha b hb => h a (List.mem_cons_of_mem _ ha) b (List.mem_cons_of_mem _ hb)]

end Records

namespace Value

/-! ## Names that occur once -/

/-- No record in a value has two fields of one name. -/
inductive NamesOnce : Value → Prop
  | plain {v : Value} (h : v.isPlain = true) : NamesOnce v
  | array {items : List Value} (h : ∀ v ∈ items, NamesOnce v) : NamesOnce (.array items)
  | record {r : Record} (hnames : r.names.Nodup) (h : ∀ f ∈ r.fields, NamesOnce f.2) : NamesOnce (.record r)
  | records {rs : List Record} (h : ∀ r ∈ rs, NamesOnce (.record r)) : NamesOnce (.records rs)

theorem namesOnce_record_iff {r : Record} :
    NamesOnce (.record r) ↔ r.names.Nodup ∧ ∀ f ∈ r.fields, NamesOnce f.2 := by
  refine ⟨fun h => ?_, fun ⟨hnames, h⟩ => .record hnames h⟩
  cases h with
  | plain h => cases h
  | record hnames h => exact ⟨hnames, h⟩

theorem namesOnce_array_iff {items : List Value} : NamesOnce (.array items) ↔ ∀ v ∈ items, NamesOnce v := by
  refine ⟨fun h => ?_, .array⟩
  cases h with
  | plain h => cases h
  | array h => exact h

theorem namesOnce_records_iff {rs : List Record} : NamesOnce (.records rs) ↔ ∀ r ∈ rs, NamesOnce (.record r) := by
  refine ⟨fun h => ?_, .records⟩
  cases h with
  | plain h => cases h
  | records h => exact h

theorem isPlain_of_eqv {a b : Value} (ha : a.isPlain = true) (h : b.eqv a = true) : b.isPlain = true := by
  cases a with
  | array | record | records => simp [isPlain] at ha
  | _ => cases b <;> simp_all [isPlain, eqv]

/-- Equality can be turned round where no name is repeated. -/
theorem eqv_comm {a b : Value} (ha : a.NamesOnce) (hb : b.NamesOnce) : a.eqv b = b.eqv a := by
  induction ha generalizing b with
  | plain h =>
    rw [Bool.eq_iff_iff]
    exact ⟨eqv_symm_of_isPlain h, fun heq => eqv_symm_of_isPlain (isPlain_of_eqv h heq) heq⟩
  | array h ih =>
    cases b with
    | array items =>
      rw [namesOnce_array_iff] at hb
      rw [eqv, eqv, eqvItems_comm fun v hv w hw => ih v hv (hb w hw)]
    | _ => simp [eqv]
  | record hnames h ih =>
    cases b with
    | record r =>
      rw [namesOnce_record_iff] at hb
      rw [eqv, eqv, eqvRecord_comm hnames hb.1 fun name v w hv hw =>
        ih (name, v) (Fields.mem_of_get? hv) (hb.2 (name, w) (Fields.mem_of_get? hw))]
    | _ => simp [eqv]
  | records h ih =>
    cases b with
    | records rs =>
      rw [namesOnce_records_iff] at hb
      rw [eqv, eqv, eqvRecords_comm fun r hr s hs => by simpa [eqv] using ih r hr (hb s hs)]
    | _ => simp [eqv]

/-! ## Operations -/

/-- The values that an operation puts into a record. -/
def operands : RecordOf.Operation Value → List Value
  | .add _ v => [v]
  | .splice other => [.record other]
  | .collect fields => fields.map Prod.snd
  | .remove _ | .rename _ => []

/-- An operation keeps names from being repeated, in the record and in the records inside. -/
theorem NamesOnce.step {r : Record} (hr : NamesOnce (.record r)) {op : RecordOf.Operation Value}
    (hop : ∀ v ∈ operands op, NamesOnce v) : NamesOnce (.record (op.onRecord.run r).2) := by
  obtain ⟨hnames, hvalues⟩ := namesOnce_record_iff.mp hr
  refine .record ((RecordOf.shows_toMap hnames).step op).2.nodup_names fun f hf => ?_
  cases op with
  | add name v =>
    rcases Fields.mem_add hf with rfl | hf
    · exact hop v (List.mem_singleton_self v)
    · exact hvalues f hf
  | remove name => exact hvalues f (Fields.mem_remove hf)
  | splice other =>
    rcases Fields.mem_addAll hf with hf | hf
    · exact hvalues f hf
    · exact (namesOnce_record_iff.mp (hop _ (List.mem_singleton_self _))).2 f hf
  | rename name => exact hvalues f hf
  | collect fields =>
    rcases Fields.mem_addAll hf with hf | hf
    · simp at hf
    · exact hop f.2 (List.mem_map_of_mem hf)

/-- The values that can be made: plain ones, lists, records that come of operations on an empty record or on one that
was read from one of the given texts, and what is taken out of these. -/
inductive Made (texts : String → Prop) : Value → Prop
  | plain {v : Value} (h : v.isPlain = true) : Made texts v
  | array {items : List Value} (h : ∀ v ∈ items, Made texts v) : Made texts (.array items)
  | records {rs : List Record} (h : ∀ r ∈ rs, Made texts (.record r)) : Made texts (.records rs)
  | empty (name : String) : Made texts (.record (.empty name))
  | step {r : Record} (hr : Made texts (.record r)) (op : RecordOf.Operation Value)
      (hop : ∀ v ∈ operands op, Made texts v) : Made texts (.record (op.onRecord.run r).2)
  | read {text : String} {r : Record} (htext : texts text) (h : RecordOf.ofJson text = .ok r) : Made texts (.record r)
  | item {items : List Value} (h : Made texts (.array items)) {v : Value} (hv : v ∈ items) : Made texts v
  | field {r : Record} (h : Made texts (.record r)) {f : String × Value} (hf : f ∈ r.fields) : Made texts f.2
  | element {rs : List Record} (h : Made texts (.records rs)) {r : Record} (hr : r ∈ rs) : Made texts (.record r)

theorem namesOnce_of_made {texts : String → Prop}
    (htexts : ∀ text r, texts text → RecordOf.ofJson text = .ok r → NamesOnce (.record r)) {v : Value}
    (h : v.Made texts) : v.NamesOnce := by
  induction h with
  | plain h => exact .plain h
  | array _ ih => exact .array ih
  | records _ ih => exact .records ih
  | empty name => exact .record .nil (by simp [RecordOf.empty])
  | step _ op _ ih ihop => exact ih.step ihop
  | read htext h => exact htexts _ _ htext h
  | item _ hv ih => exact namesOnce_array_iff.mp ih _ hv
  | field _ hf ih => exact (namesOnce_record_iff.mp ih).2 _ hf
  | element _ hr ih => exact namesOnce_records_iff.mp ih _ hr

/-- **All records that can be made have no name twice, nor have the records inside, and are equal in both directions or
in none, exactly when this holds of the records that the given texts are read as.** -/
theorem namesOnce_made_iff (texts : String → Prop) :
    (∀ r s : Record, Made texts (.record r) → Made texts (.record s) →
      NamesOnce (.record r) ∧ r.eqv s = s.eqv r) ↔
    ∀ text r, texts text → RecordOf.ofJson text = .ok r → NamesOnce (.record r) := by
  refine ⟨fun h text r htext hread => ?_, fun h r s hr hs => ?_⟩
  · exact (h r r (.read htext hread) (.read htext hread)).1
  · have honce := namesOnce_of_made h hr
    have hcomm := eqv_comm honce (namesOnce_of_made h hs)
    rw [Value.eqv, Value.eqv] at hcomm
    exact ⟨honce, hcomm⟩

/-- From its text, a record with two fields `x` comes back as it is. It equals a record with the fields `x` and `y`,
which does not equal it. -/
theorem made_twice :
    let twice : Record := ⟨"A", [("x", .integer 1), ("x", .integer 1)]⟩
    let both : Record := ⟨"A", [("x", .integer 1), ("y", .integer 2)]⟩
    RecordOf.ofJson twice.toJson = .ok twice ∧ Made (fun _ => True) (.record twice) ∧
      Made (fun _ => True) (.record both) ∧ ¬ NamesOnce (.record twice) ∧ twice.eqv both = true ∧
      both.eqv twice = false := by
  intro twice both
  have hreadable : twice.IsReadable :=
    twice.isReadable_iff.mpr ⟨by decide +kernel, by decide +kernel⟩
  have hread : RecordOf.ofJson twice.toJson = .ok twice :=
    RecordOf.ofJson_toJson_of_isReadable hreadable fun x hx => by
      simp [twice, recordFloats, fieldsFloats, floats] at hx
  have hx : Made (fun _ => True) (.record ⟨"A", [("x", .integer 1)]⟩) :=
    .step (.empty "A") (.add "x" (.integer 1)) fun v hv => .plain (by simp_all [operands, isPlain])
  have hboth : Made (fun _ => True) (.record both) :=
    .step hx (.add "y" (.integer 2)) fun v hv => .plain (by simp_all [operands, isPlain])
  refine ⟨hread, .read trivial hread, hboth, fun h => ?_, ?_, ?_⟩
  · exact absurd (namesOnce_record_iff.mp h).1 (by decide)
  · exact (eqvRecord_iff twice both).mpr ⟨rfl, rfl, by simp [twice, both, RecordOf.get?, Fields.get?, eqv]⟩
  · rw [Bool.eq_false_iff, Ne, eqvRecord_iff]
    rintro ⟨-, -, h⟩
    simp [twice, both, RecordOf.get?, Fields.get?] at h

end Value
end EntityMapping
