import EntityMapping.Proofs.Calendar.Reading
import EntityMapping.Proofs.Json.Parts
import EntityMapping.Proofs.Uuid
import EntityMapping.Proofs.Value.Equality

/-!
# The wire format of records

A record comes back from its JSON text, field by field and in order, when all its doubles are finite and the text
stays within the nesting limit, and no record without these two properties is ever read.

* `valueOfJson?_toJson` — what stays within the limit is read
* `sendable_of_read_toJson` — of written values, nothing else is read
* `sendable_of_read` — from any tree, however loosely it is written, nothing else is read
* `RecordOf.ofJson_toJson` — the three of them on texts
-/

namespace EntityMapping

/-! ## Doubles in values -/

mutual

/-- The doubles in a value. -/
def Value.floats : Value → List Float
  | .float x => [x]
  | .array items => itemsFloats items
  | .record r => recordFloats r
  | .records rs => recordsFloats rs
  | .text _ | .integer _ | .boolean _ | .timestamp _ | .date _ | .uuid _ | .binary _ => []

def itemsFloats : List Value → List Float
  | [] => []
  | v :: vs => v.floats ++ itemsFloats vs

/-- The doubles in a record. -/
def recordFloats : RecordOf Value → List Float
  | ⟨_, fields⟩ => fieldsFloats fields

def recordsFloats : List (RecordOf Value) → List Float
  | [] => []
  | r :: rs => recordFloats r ++ recordsFloats rs

def fieldsFloats : List (String × Value) → List Float
  | [] => []
  | (_, v) :: fs => v.floats ++ fieldsFloats fs

end

theorem mem_itemsFloats {vs : List Value} {x : Float} : x ∈ itemsFloats vs ↔ ∃ v ∈ vs, x ∈ v.floats := by
  induction vs with
  | nil => simp [itemsFloats]
  | cons v vs ih => simp [itemsFloats, ih]

theorem mem_recordsFloats {rs : List Record} {x : Float} :
    x ∈ recordsFloats rs ↔ ∃ r ∈ rs, x ∈ recordFloats r := by
  induction rs with
  | nil => simp [recordsFloats]
  | cons r rs ih => simp [recordsFloats, ih]

theorem mem_fieldsFloats {fs : List (String × Value)} {x : Float} :
    x ∈ fieldsFloats fs ↔ ∃ f ∈ fs, x ∈ f.2.floats := by
  induction fs with
  | nil => simp [fieldsFloats]
  | cons f fs ih => simp [fieldsFloats, ih]

/-! ## Trees of values -/

theorem itemsToJson_eq_map (vs : List Value) : itemsToJson vs = vs.map Value.toJson := by
  induction vs with
  | nil => rw [itemsToJson, List.map_nil]
  | cons v vs ih => rw [itemsToJson, List.map_cons, ih]

theorem recordsToJson_eq_map (rs : List Record) : recordsToJson rs = rs.map recordToJson := by
  induction rs with
  | nil => rw [recordsToJson, List.map_nil]
  | cons r rs ih => rw [recordsToJson, List.map_cons, ih]

/-- A field as JSON. -/
def fieldToJson (f : String × Value) : Json := .fields [("name", .text f.1), ("value", f.2.toJson)]

theorem fieldsToJson_eq_map (fs : List (String × Value)) : fieldsToJson fs = fs.map fieldToJson := by
  induction fs with
  | nil => rw [fieldsToJson, List.map_nil]
  | cons f fs ih => rw [fieldsToJson, List.map_cons, ih, fieldToJson]

open Json

mutual

/-- Whatever a value holds, its tree has a text. -/
theorem writable_toJson (v : Value) : v.toJson.Writable := by
  match v with
  | .text s => exact writable_field (writable_text s)
  | .integer n => exact writable_field (writable_int _)
  | .float x => exact writable_field (writable_double x)
  | .boolean b => exact writable_field (by simp [Writable])
  | .timestamp t => exact writable_field (writable_text _)
  | .date d => exact writable_field (writable_text _)
  | .uuid u => exact writable_field (writable_text _)
  | .binary bytes =>
    refine writable_field ?_
    rw [Writable, writableItems_iff]
    intro j hj
    obtain ⟨b, -, rfl⟩ := List.mem_map.mp hj
    exact writable_int _
  | .array items =>
    refine writable_field ?_
    rw [Writable]
    exact writable_itemsToJson items
  | .record r => exact writable_field (writable_recordToJson r)
  | .records rs =>
    refine writable_field ?_
    rw [Writable]
    exact writable_recordsToJson rs

theorem writable_itemsToJson (vs : List Value) : WritableItems (itemsToJson vs) := by
  match vs with
  | [] => simp [itemsToJson, WritableItems]
  | v :: vs =>
    rw [itemsToJson, WritableItems]
    exact ⟨writable_toJson v, writable_itemsToJson vs⟩

theorem writable_recordToJson (r : Record) : (recordToJson r).Writable := by
  match r with
  | ⟨name, fs⟩ =>
    refine writable_fields (writable_text name) ?_
    rw [Writable]
    exact writable_fieldsToJson fs

theorem writable_recordsToJson (rs : List Record) : WritableItems (recordsToJson rs) := by
  match rs with
  | [] => simp [recordsToJson, WritableItems]
  | r :: rs =>
    rw [recordsToJson, WritableItems]
    exact ⟨writable_recordToJson r, writable_recordsToJson rs⟩

theorem writable_fieldsToJson (fs : List (String × Value)) : WritableItems (fieldsToJson fs) := by
  match fs with
  | [] => simp [fieldsToJson, WritableItems]
  | (name, v) :: fs =>
    rw [fieldsToJson, WritableItems]
    exact ⟨writable_fields (writable_text name) (writable_toJson v), writable_fieldsToJson fs⟩

end

/-! ## Scalars -/

/-- The text of a double reads back as the double. -/
def ReadsBack (x : Float) : Prop := (parse? (double x).render).bind Json.double? = some x

theorem double?_of_readsBack {x : Float} (h : ReadsBack x) : (double x).double? = some x := by
  rwa [ReadsBack, parse?_render (writable_double x), Option.bind_some] at h

/-! ## Lists of trees -/

/-- A tree with the given doubles in it can be sent through a reader that may open `limit` brackets. -/
def Sendable (limit : Nat) (j : Json) (floats : List Float) : Prop :=
  j.depth ≤ limit ∧ ∀ x ∈ floats, x.isFinite = true

theorem sendable_field {limit : Nat} {tag : String} {j : Json} {floats : List Float} :
    Sendable (limit + 1) (.fields [(tag, j)]) floats ↔ Sendable limit j floats := by
  simp [Sendable, depth_field]

/-- A pair of keys with a text under the first one, as records and fields have it. -/
theorem sendable_named {limit : Nat} {key key' name : String} {j : Json} {floats : List Float} :
    Sendable (limit + 1) (.fields [(key, .text name), (key', j)]) floats ↔ Sendable limit j floats := by
  simp [Sendable, depth_fields, Json.text, depth]

section
variable {α β : Type} {limit : Nat} {xs : List α} {write : α → Json} {floats : α → List Float} {all : List Float}

/-- A list can be sent when each item can. -/
theorem sendable_items (hall : ∀ x, x ∈ all ↔ ∃ a ∈ xs, x ∈ floats a) :
    Sendable (limit + 1) (.array (xs.map write)) all ↔ ∀ a ∈ xs, Sendable limit (write a) (floats a) := by
  simp only [Sendable, depth, Nat.add_le_add_iff_right, depthItems_le_iff, List.mem_map, forall_exists_index,
    and_imp, forall_apply_eq_imp_iff₂, hall]
  constructor
  · exact fun h a ha => ⟨h.1 a ha, fun x hx => h.2 x a ha hx⟩
  · exact fun h => ⟨fun a ha => (h a ha).1, fun x a ha hx => (h a ha).2 x hx⟩

theorem exists_of_sendable_items (hall : ∀ x, x ∈ all ↔ ∃ a ∈ xs, x ∈ floats a)
    (h : Sendable limit (.array (xs.map write)) all) :
    ∃ n, limit = n + 1 ∧ ∀ a ∈ xs, Sendable n (write a) (floats a) := by
  cases limit with
  | zero => exact absurd h.1 (by simp [depth])
  | succ n => exact ⟨n, rfl, (sendable_items hall).mp h⟩

end

/-! ## The reader of values -/

section
variable {limit : Nat}

theorem itemsOfJson?_eq (j : Json) : itemsOfJson? limit j = Json.items? valueOfJson? limit j := by
  unfold itemsOfJson? Json.items?
  rfl

theorem recordsOfJson?_eq (j : Json) : recordsOfJson? limit j = Json.items? recordOfJson? limit j := by
  unfold recordsOfJson? Json.items?
  rfl

theorem fieldsOfJson?_eq (j : Json) : fieldsOfJson? limit j = Json.items? fieldOfJson? limit j := by
  unfold fieldsOfJson? Json.items?
  rfl

theorem valueOfJson?_array (j : Json) :
    valueOfJson? (limit + 1) (.fields [("Array", j)]) = (Json.items? valueOfJson? limit j).map .array := by
  rw [valueOfJson?, tagged?_field, ← itemsOfJson?_eq]
  rfl

theorem valueOfJson?_record (j : Json) :
    valueOfJson? (limit + 1) (.fields [("Record", j)]) = (recordOfJson? limit j).map .record := by
  rw [valueOfJson?, tagged?_field]
  rfl

theorem valueOfJson?_records (j : Json) :
    valueOfJson? (limit + 1) (.fields [("Records", j)]) = (Json.items? recordOfJson? limit j).map .records := by
  rw [valueOfJson?, tagged?_field, ← recordsOfJson?_eq]
  rfl

theorem valueOfJson?_scalar {tag : String} (h : tag ≠ "Array" ∧ tag ≠ "Record" ∧ tag ≠ "Records") (j : Json) :
    valueOfJson? (limit + 1) (.fields [(tag, j)]) = scalarOfJson? limit tag j := by
  rw [valueOfJson?, tagged?_field]
  simp only [if_neg h.1, if_neg h.2.1, if_neg h.2.2]

theorem recordOfJson?_toJson (name : String) (j : Json) :
    recordOfJson? (limit + 1) (.fields [("name", .text name), ("fields", j)]) =
      (Json.items? fieldOfJson? limit j).map fun fs => ⟨name, fs⟩ := by
  rw [recordOfJson?, parts?_fields (by decide), ← fieldsOfJson?_eq]
  simp only [text?, Json.text]
  cases fieldsOfJson? limit j <;> rfl

theorem fieldOfJson?_toJson (name : String) (j : Json) :
    fieldOfJson? (limit + 1) (.fields [("name", .text name), ("value", j)]) =
      (valueOfJson? limit j).map fun v => (name, v) := by
  rw [fieldOfJson?, parts?_fields (by decide)]
  simp only [text?, Json.text]
  cases valueOfJson? limit j <;> rfl

end

/-! ## What is sent is read -/

theorem exists_toJson_eq (v : Value) : ∃ tag j, v.toJson = .fields [(tag, j)] := by
  cases v <;> exact ⟨_, _, by rw [Value.toJson]⟩

theorem exists_of_sendable_fields {limit : Nat} {members : List (String × Json)} {floats : List Float}
    (h : Sendable limit (.fields members) floats) : ∃ n, limit = n + 1 := by
  cases limit with
  | zero => exact absurd h.1 (by simp [fields, depth])
  | succ n => exact ⟨n, rfl⟩

/-- A value that holds no others is read from what it is written as. -/
theorem valueOfJson?_of_isPlain {limit : Nat} {v : Value} (hv : v.isPlain = true)
    (hs : Sendable (limit + 1) v.toJson v.floats) (hf : ∀ x ∈ v.floats, ReadsBack x) :
    valueOfJson? (limit + 1) v.toJson = some v := by
  cases v with
  | array | record | records => simp [Value.isPlain] at hv
  | text s =>
    rw [Value.toJson, valueOfJson?_scalar (by decide)]
    rfl
  | integer n =>
    rw [Value.toJson, valueOfJson?_scalar (by decide), scalarOfJson?, int64?_int]
    rfl
  | float x =>
    rw [Value.toJson, valueOfJson?_scalar (by decide), scalarOfJson?,
      double?_of_readsBack (hf x (by simp [Value.floats]))]
    rfl
  | boolean b =>
    rw [Value.toJson, valueOfJson?_scalar (by decide)]
    rfl
  | timestamp t =>
    rw [Value.toJson, valueOfJson?_scalar (by decide), scalarOfJson?, Json.text, text?, Option.bind_some,
      t.readWire?_wireText]
    rfl
  | date d =>
    rw [Value.toJson, valueOfJson?_scalar (by decide), scalarOfJson?, Json.text, text?, Option.bind_some,
      d.readWire?_text]
    rfl
  | uuid u =>
    rw [Value.toJson, valueOfJson?_scalar (by decide), scalarOfJson?, Json.text, text?, Option.bind_some,
      u.read?_text]
    rfl
  | binary bytes =>
    rw [Value.toJson] at hs ⊢
    have hdepth := (sendable_field.mp hs).1
    cases limit with
    | zero => exact absurd hdepth (by simp [depth])
    | succ n =>
      rw [valueOfJson?_scalar (by decide), scalarOfJson?, items?_map fun b _ => byte?_int b]
      rfl

mutual

/-- A value that can be sent is read. -/
theorem valueOfJson?_toJson (limit : Nat) (v : Value) (hs : Sendable limit v.toJson v.floats)
    (hf : ∀ x ∈ v.floats, ReadsBack x) : valueOfJson? limit v.toJson = some v := by
  obtain ⟨tag, j, hv⟩ := exists_toJson_eq v
  obtain ⟨n, rfl⟩ := exists_of_sendable_fields (hv ▸ hs)
  by_cases hplain : v.isPlain = true
  · exact valueOfJson?_of_isPlain hplain hs hf
  match v with
  | .text _ | .integer _ | .float _ | .boolean _ | .timestamp _ | .date _ | .uuid _ | .binary _ =>
    exact absurd rfl hplain
  | .array items =>
    rw [Value.toJson, itemsToJson_eq_map] at hs ⊢
    rw [Value.floats] at hs hf
    obtain ⟨m, rfl, hitems⟩ := exists_of_sendable_items (fun x => mem_itemsFloats) (sendable_field.mp hs)
    rw [valueOfJson?_array, items?_map fun a ha => valueOfJson?_toJson m a (hitems a ha) fun x hx =>
      hf x (mem_itemsFloats.mpr ⟨a, ha, hx⟩)]
    rfl
  | .record r =>
    rw [Value.toJson] at hs ⊢
    rw [Value.floats] at hs hf
    rw [valueOfJson?_record, recordOfJson?_recordToJson n r (sendable_field.mp hs) hf]
    rfl
  | .records rs =>
    rw [Value.toJson, recordsToJson_eq_map] at hs ⊢
    rw [Value.floats] at hs hf
    obtain ⟨m, rfl, hrecords⟩ := exists_of_sendable_items (fun x => mem_recordsFloats) (sendable_field.mp hs)
    rw [valueOfJson?_records, items?_map fun r hr => recordOfJson?_recordToJson m r (hrecords r hr) fun x hx =>
      hf x (mem_recordsFloats.mpr ⟨r, hr, hx⟩)]
    rfl

/-- A record that can be sent is read. -/
theorem recordOfJson?_recordToJson (limit : Nat) (r : Record)
    (hs : Sendable limit (recordToJson r) (recordFloats r)) (hf : ∀ x ∈ recordFloats r, ReadsBack x) :
    recordOfJson? limit (recordToJson r) = some r := by
  obtain ⟨name, fs⟩ := r
  rw [recordToJson, fieldsToJson_eq_map] at hs ⊢
  rw [recordFloats] at hs hf
  obtain ⟨n, rfl⟩ := exists_of_sendable_fields hs
  obtain ⟨m, rfl, hfields⟩ := exists_of_sendable_items (fun x => mem_fieldsFloats) (sendable_named.mp hs)
  rw [recordOfJson?_toJson, items?_map fun f h => fieldOfJson?_fieldToJson m f (hfields f h) fun x hx =>
    hf x (mem_fieldsFloats.mpr ⟨f, h, hx⟩)]
  rfl

theorem fieldOfJson?_fieldToJson (limit : Nat) (f : String × Value) (hs : Sendable limit (fieldToJson f) f.2.floats)
    (hf : ∀ x ∈ f.2.floats, ReadsBack x) : fieldOfJson? limit (fieldToJson f) = some f := by
  obtain ⟨name, v⟩ := f
  rw [fieldToJson] at hs ⊢
  obtain ⟨n, rfl⟩ := exists_of_sendable_fields hs
  rw [fieldOfJson?_toJson, valueOfJson?_toJson n v (sendable_named.mp hs) hf]
  rfl

end

/-! ## What is read can be sent -/

/-- What a tree is read as is a finite double. -/
theorem isFinite_of_double? {j : Json} {x : Float} (h : j.double? = some x) : x.isFinite = true := by
  cases j with
  | number n => exact Numeral.isFinite_of_toDouble? h
  | _ => simp [Json.double?] at h

/-- A value that holds no others can be sent when it is no infinite double and no list of bytes with no bracket
left for it. -/
theorem sendable_of_isPlain {limit : Nat} {v : Value} (hv : v.isPlain = true)
    (hfloat : ∀ x, v = .float x → x.isFinite = true) (hbinary : ∀ bytes, v = .binary bytes → 0 < limit) :
    Sendable (limit + 1) v.toJson v.floats := by
  cases v with
  | array | record | records => simp [Value.isPlain] at hv
  | float x =>
    rw [Value.toJson, sendable_field, Value.floats]
    refine ⟨?_, by simpa using hfloat x rfl⟩
    obtain ⟨-, n, -, hx⟩ | ⟨-, hx⟩ := double_cases x <;> simp [hx, depth]
  | binary bytes =>
    rw [Value.toJson, sendable_field, Value.floats]
    refine ⟨?_, by simp⟩
    have hflat : depthItems (bytes.map fun b => Json.int b.toNat) ≤ 0 :=
      depthItems_le_iff.mpr fun j hj => by
        obtain ⟨b, -, rfl⟩ := List.mem_map.mp hj
        simp [Json.int, depth]
    have := hbinary bytes rfl
    rw [depth]
    omega
  | _ =>
    rw [Value.toJson, sendable_field, Value.floats]
    exact ⟨by simp [depth, Json.text, Json.int], by simp⟩

theorem sendable_of_scalarOfJson? {limit : Nat} {tag : String} {j : Json} {v : Value}
    (h : scalarOfJson? limit tag j = some v) : Sendable (limit + 1) v.toJson v.floats := by
  unfold scalarOfJson? at h
  split at h
  case h_3 =>
    obtain ⟨x, hx, rfl⟩ := Option.map_eq_some_iff.mp h
    exact sendable_of_isPlain rfl (fun y hy => Value.float.inj hy ▸ isFinite_of_double? hx) (by simp)
  case h_8 =>
    obtain ⟨bytes, hbytes, rfl⟩ := Option.map_eq_some_iff.mp h
    obtain ⟨n, -, rfl, -⟩ := exists_of_items? hbytes
    exact sendable_of_isPlain rfl (by simp) (by simp)
  case h_9 => simp at h
  all_goals
    obtain ⟨a, -, rfl⟩ := Option.map_eq_some_iff.mp h
    exact sendable_of_isPlain rfl (by simp) (by simp)

mutual

/-- From whatever tree a value is read, it can be sent through the same reader. -/
theorem sendable_of_read (limit : Nat) {j : Json} {v : Value} (h : valueOfJson? limit j = some v) :
    Sendable limit v.toJson v.floats := by
  match limit with
  | 0 => simp [valueOfJson?] at h
  | limit + 1 =>
    rw [valueOfJson?] at h
    split at h
    · simp at h
    split at h
    · obtain ⟨items, hitems, rfl⟩ := Option.map_eq_some_iff.mp h
      rw [itemsOfJson?_eq] at hitems
      obtain ⟨n, rfl, hall⟩ := exists_of_mem_items? hitems
      rw [Value.toJson, itemsToJson_eq_map, Value.floats]
      refine sendable_field.mpr ((sendable_items fun x => mem_itemsFloats).mpr fun a ha => ?_)
      obtain ⟨k, hk⟩ := hall a ha
      exact sendable_of_read n hk
    split at h
    · obtain ⟨r, hr, rfl⟩ := Option.map_eq_some_iff.mp h
      rw [Value.toJson, Value.floats]
      exact sendable_field.mpr (sendable_of_read_record limit hr)
    split at h
    · obtain ⟨rs, hrs, rfl⟩ := Option.map_eq_some_iff.mp h
      rw [recordsOfJson?_eq] at hrs
      obtain ⟨n, rfl, hall⟩ := exists_of_mem_items? hrs
      rw [Value.toJson, recordsToJson_eq_map, Value.floats]
      refine sendable_field.mpr ((sendable_items fun x => mem_recordsFloats).mpr fun r hr => ?_)
      obtain ⟨k, hk⟩ := hall r hr
      exact sendable_of_read_record n hk
    · exact sendable_of_scalarOfJson? h

theorem sendable_of_read_record (limit : Nat) {j : Json} {r : Record} (h : recordOfJson? limit j = some r) :
    Sendable limit (recordToJson r) (recordFloats r) := by
  match limit with
  | 0 => simp [recordOfJson?] at h
  | limit + 1 =>
    rw [recordOfJson?] at h
    split at h
    · split at h
      · next hfields =>
        obtain rfl := Option.some.inj h
        rw [fieldsOfJson?_eq] at hfields
        obtain ⟨n, rfl, hall⟩ := exists_of_mem_items? hfields
        rw [recordToJson, fieldsToJson_eq_map, recordFloats]
        refine sendable_named.mpr ((sendable_items fun x => mem_fieldsFloats).mpr fun f hf => ?_)
        obtain ⟨k, hk⟩ := hall f hf
        exact sendable_of_read_field n hk
      · simp at h
    · simp at h

theorem sendable_of_read_field (limit : Nat) {j : Json} {f : String × Value} (h : fieldOfJson? limit j = some f) :
    Sendable limit (fieldToJson f) f.2.floats := by
  match limit with
  | 0 => simp [fieldOfJson?] at h
  | limit + 1 =>
    rw [fieldOfJson?] at h
    split at h
    · split at h
      · next hvalue =>
        obtain rfl := Option.some.inj h
        exact sendable_named.mpr (sendable_of_read limit hvalue)
      · simp at h
    · simp at h

end

/-! ## Of what is written, only what can be sent is read -/

theorem sendable_of_read_isPlain {limit : Nat} {v w : Value} (hv : v.isPlain = true)
    (h : valueOfJson? (limit + 1) v.toJson = some w) : Sendable (limit + 1) v.toJson v.floats := by
  refine sendable_of_isPlain hv (fun x hx => ?_) (fun bytes hbytes => ?_)
  · obtain ⟨hx', -⟩ | ⟨-, hnull⟩ := double_cases x
    · exact hx'
    · rw [hx, Value.toJson, valueOfJson?_scalar (by decide), scalarOfJson?, hnull] at h
      simp [Json.double?] at h
  · rw [hbytes, Value.toJson, valueOfJson?_scalar (by decide), scalarOfJson?] at h
    obtain ⟨read, hread, -⟩ := Option.map_eq_some_iff.mp h
    obtain ⟨n, -, rfl, -⟩ := exists_of_items? hread
    omega

mutual

/-- A value that is read at all from what it is written as can be sent. -/
theorem sendable_of_read_toJson (limit : Nat) (v : Value) {w : Value} (h : valueOfJson? limit v.toJson = some w) :
    Sendable limit v.toJson v.floats := by
  match limit with
  | 0 => simp [valueOfJson?] at h
  | limit + 1 =>
    by_cases hplain : v.isPlain = true
    · exact sendable_of_read_isPlain hplain h
    cases v with
    | text | integer | float | boolean | timestamp | date | uuid | binary => exact absurd rfl hplain
    | array items =>
      rw [Value.toJson, itemsToJson_eq_map] at h ⊢
      rw [valueOfJson?_array] at h
      obtain ⟨read, hread, -⟩ := Option.map_eq_some_iff.mp h
      obtain ⟨n, rfl, hall⟩ := exists_of_items?_map hread
      rw [Value.floats]
      refine sendable_field.mpr ((sendable_items fun x => mem_itemsFloats).mpr fun a ha => ?_)
      obtain ⟨b, hb⟩ := hall a ha
      exact sendable_of_read_toJson n a hb
    | record r =>
      rw [Value.toJson] at h ⊢
      rw [valueOfJson?_record] at h
      obtain ⟨read, hread, -⟩ := Option.map_eq_some_iff.mp h
      rw [Value.floats]
      exact sendable_field.mpr (sendable_of_read_recordToJson limit r hread)
    | records rs =>
      rw [Value.toJson, recordsToJson_eq_map] at h ⊢
      rw [valueOfJson?_records] at h
      obtain ⟨read, hread, -⟩ := Option.map_eq_some_iff.mp h
      obtain ⟨n, rfl, hall⟩ := exists_of_items?_map hread
      rw [Value.floats]
      refine sendable_field.mpr ((sendable_items fun x => mem_recordsFloats).mpr fun r hr => ?_)
      obtain ⟨b, hb⟩ := hall r hr
      exact sendable_of_read_recordToJson n r hb

theorem sendable_of_read_recordToJson (limit : Nat) (r : Record) {w : Record}
    (h : recordOfJson? limit (recordToJson r) = some w) : Sendable limit (recordToJson r) (recordFloats r) := by
  match limit with
  | 0 => simp [recordOfJson?] at h
  | limit + 1 =>
    obtain ⟨name, fs⟩ := r
    rw [recordToJson, fieldsToJson_eq_map] at h ⊢
    rw [recordOfJson?_toJson] at h
    obtain ⟨read, hread, -⟩ := Option.map_eq_some_iff.mp h
    obtain ⟨n, rfl, hall⟩ := exists_of_items?_map hread
    rw [recordFloats]
    refine sendable_named.mpr ((sendable_items fun x => mem_fieldsFloats).mpr fun f hf => ?_)
    obtain ⟨b, hb⟩ := hall f hf
    exact sendable_of_read_fieldToJson n f hb

theorem sendable_of_read_fieldToJson (limit : Nat) (f : String × Value) {g : String × Value}
    (h : fieldOfJson? limit (fieldToJson f) = some g) : Sendable limit (fieldToJson f) f.2.floats := by
  match limit with
  | 0 => simp [fieldOfJson?] at h
  | limit + 1 =>
    obtain ⟨name, v⟩ := f
    rw [fieldToJson, fieldOfJson?_toJson] at h
    obtain ⟨read, hread, -⟩ := Option.map_eq_some_iff.mp h
    exact sendable_named.mpr (sendable_of_read_toJson limit v hread)

end

/-! ## Texts -/

namespace RecordOf

/-- Whether the text of a record can be read: all doubles in it are finite, and at most 127 brackets are open at
once. -/
def IsReadable (r : Record) : Prop :=
  (∀ x ∈ recordFloats r, x.isFinite = true) ∧ nesting r.toJson ≤ 127

theorem isReadable_iff (r : Record) :
    r.IsReadable ↔ Sendable nestingLimit (recordToJson r) (recordFloats r) := by
  rw [IsReadable, toJson, nesting_render, Sendable, nestingLimit, and_comm]

theorem ofJson_toJson_eq (r : Record) :
    ofJson r.toJson = match recordOfJson? nestingLimit (recordToJson r) with
      | some r => .ok r
      | none => .error .serialization := by
  rw [ofJson, readJson, toJson, parse?_render (writable_recordToJson r), Option.bind_some]
  cases recordOfJson? nestingLimit (recordToJson r) <;> rfl

theorem isReadable_of_ofJson {text : String} {r : Record} (h : ofJson text = .ok r) : r.IsReadable := by
  unfold ofJson readJson at h
  split at h
  · next x hx =>
    obtain rfl := Except.ok.inj h
    obtain ⟨j, -, hj⟩ := Option.bind_eq_some_iff.mp hx
    exact (isReadable_iff _).mpr (sendable_of_read_record nestingLimit hj)
  · simp at h

theorem ofJson_toJson_of_isReadable {r : Record} (h : r.IsReadable)
    (hf : ∀ x ∈ recordFloats r, x.isFinite = true → ReadsBack x) : ofJson r.toJson = .ok r := by
  rw [ofJson_toJson_eq, recordOfJson?_recordToJson nestingLimit r (r.isReadable_iff.mp h) fun x hx =>
    hf x hx (h.1 x hx)]

theorem ofJson_toJson_of_not {r : Record} (h : ¬ r.IsReadable) : ofJson r.toJson = .error .serialization := by
  rw [ofJson_toJson_eq]
  cases hread : recordOfJson? nestingLimit (recordToJson r) with
  | none => rfl
  | some w => exact absurd (r.isReadable_iff.mpr (sendable_of_read_recordToJson nestingLimit r hread)) h

/-- The wire format. A record with finite doubles whose text nests at most 127 brackets comes back from its text as
it is, provided that the texts of its doubles read back; any other record does not come back at all. What is read
from any text is of the first kind, so writing and reading it again changes nothing. -/
theorem ofJson_toJson :
    (∀ r : Record, (∀ x ∈ recordFloats r, x.isFinite = true → ReadsBack x) →
      r.IsReadable → ofJson r.toJson = .ok r) ∧
    (∀ r : Record, ¬ r.IsReadable → ofJson r.toJson = .error .serialization) ∧
    ∀ (text : String) (r : Record), ofJson text = .ok r →
      r.IsReadable ∧ ((∀ x ∈ recordFloats r, x.isFinite = true → ReadsBack x) → ofJson r.toJson = ofJson text) := by
  refine ⟨fun r hf h => ofJson_toJson_of_isReadable h hf, fun r h => ofJson_toJson_of_not h, fun text r h => ?_⟩
  have hr := isReadable_of_ofJson h
  exact ⟨hr, fun hf => (ofJson_toJson_of_isReadable hr hf).trans h.symm⟩

/-- A record with a double in it, and a bracket in a text. -/
def gauge : Record := ⟨"Gauge", [("level", .float 0.5), ("marks", .array [.text "a[", .record ⟨"Mark", []⟩])]⟩

theorem readsBack_gauge : ∀ x ∈ recordFloats gauge, x.isFinite = true → ReadsBack x := by
  intro x hx _
  obtain rfl : x = 0.5 := by simpa [gauge, recordFloats, fieldsFloats, itemsFloats, Value.floats] using hx
  rw [ReadsBack, parse?_render (writable_double _), Option.bind_some]
  decide +kernel

theorem isReadable_gauge : gauge.IsReadable := by
  have hfinite : ∀ x ∈ recordFloats gauge, x.isFinite = true := by decide +kernel
  have hdepth : (recordToJson gauge).depth ≤ 127 := by decide +kernel
  exact gauge.isReadable_iff.mpr ⟨hdepth, hfinite⟩

/-- A record with an infinite double. -/
def overflown : Record := ⟨"Gauge", [("level", .float (1.0 / 0.0))]⟩

theorem not_isReadable_overflown : ¬ overflown.IsReadable := fun h =>
  absurd (h.1 (1.0 / 0.0) (by simp [overflown, recordFloats, fieldsFloats, Value.floats])) (by decide +kernel)

/-- The gauge comes back, and reading its text again gives what reading it once gave; the infinite one does not come
back. -/
theorem ofJson_toJson_gauge :
    gauge.IsReadable ∧ ofJson gauge.toJson = .ok gauge ∧ ofJson overflown.toJson = .error .serialization ∧
      ∃ r, ofJson gauge.toJson = .ok r ∧ r.IsReadable ∧ ofJson r.toJson = ofJson gauge.toJson := by
  have hback := ofJson_toJson.1 gauge readsBack_gauge isReadable_gauge
  obtain ⟨hreadable, hagain⟩ := ofJson_toJson.2.2 gauge.toJson gauge hback
  exact ⟨hreadable, hback, ofJson_toJson.2.1 overflown not_isReadable_overflown,
    gauge, hback, hreadable, hagain readsBack_gauge⟩

end RecordOf
end EntityMapping
