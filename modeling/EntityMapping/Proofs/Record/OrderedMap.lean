import EntityMapping.Proofs.Record.Fields
import Mathlib.Data.List.Induction
import Mathlib.Data.List.Nodup

/-!
# Records as insertion-ordered maps

With different names, what can be seen of a record is an insertion-ordered map: its names in the order in which they
came, and the value under each. Whatever is done to the record is seen as the same thing done to the map.

* `OrderedMap` — the maps, with what can be done to them
* `OrderedMap.ofList_concat`, `OrderedMap.merge_insert` — lists and second maps go in item by item
* `RecordOf.Shows` — a record looks like a map
* `RecordOf.Shows.step`, `RecordOf.Shows.run` — what one operation keeps, and what any number of them do
* `RecordOf.isOrderedMap` — all that can be seen of a record, after any operations
-/

namespace EntityMapping

/-! ## The maps -/

/-- A map whose keys are names in the order in which they came. -/
@[ext]
structure OrderedMap (V : Type) where
  keys : List String
  get? : String → Option V
  nodup_keys : keys.Nodup
  isSome_get?_iff : ∀ key, (get? key).isSome = true ↔ key ∈ keys

/-- A name counts where it came first. -/
theorem eraseDups_concat (names : List String) (name : String) :
    (names ++ [name]).eraseDups = if name ∈ names then names.eraseDups else names.eraseDups ++ [name] := by
  rw [List.eraseDups_append]
  by_cases h : name ∈ names
  · simp [List.removeAll, h]
  · simp [List.removeAll, h, List.eraseDups_cons]

theorem nodup_eraseDups (names : List String) : names.eraseDups.Nodup := by
  induction names using List.reverseRecOn with
  | nil => exact .nil
  | append_singleton names name ih =>
    rw [eraseDups_concat]
    split
    · exact ih
    · next h => exact List.nodup_append.mpr ⟨ih, by simp, by simp; grind⟩

namespace OrderedMap

variable {V : Type}

/-- A key gets a value. If it is there it keeps its place, and otherwise it comes last. -/
def insert (m : OrderedMap V) (name : String) (value : V) : OrderedMap V where
  keys := if name ∈ m.keys then m.keys else m.keys ++ [name]
  get? key := if key = name then some value else m.get? key
  nodup_keys := by
    split
    · exact m.nodup_keys
    · next h => exact List.nodup_append.mpr ⟨m.nodup_keys, by simp, by grind⟩
  isSome_get?_iff key := by
    have := m.isSome_get?_iff key
    split <;> split <;> simp_all

/-- A key goes away. The others stay as they are. -/
def erase (m : OrderedMap V) (name : String) : OrderedMap V where
  keys := m.keys.filter (· ≠ name)
  get? key := if key = name then none else m.get? key
  nodup_keys := m.nodup_keys.filter _
  isSome_get?_iff key := by
    have := m.isSome_get?_iff key
    split <;> simp_all

/-- A second map goes over the first one: its values count, and the keys that it has alone follow in its order. -/
def merge (m n : OrderedMap V) : OrderedMap V where
  keys := m.keys ++ n.keys.filter (· ∉ m.keys)
  get? key := (n.get? key).or (m.get? key)
  nodup_keys := List.nodup_append.mpr ⟨m.nodup_keys, n.nodup_keys.filter _, by grind⟩
  isSome_get?_iff key := by
    have hm := m.isSome_get?_iff key
    have hn := n.isSome_get?_iff key
    by_cases h : key ∈ m.keys <;> simp_all

/-- The map of a list: of a repeated key, the last value counts, in the first place. -/
def ofList (fields : List (String × V)) : OrderedMap V where
  keys := (fields.map Prod.fst).eraseDups
  get? key := fields.reverse.lookup key
  nodup_keys := nodup_eraseDups _
  isSome_get?_iff key := by
    rw [List.mem_eraseDups, ← Option.ne_none_iff_isSome, Ne, List.lookup_eq_none_iff]
    simp

/-- What comes last in a list is put into the map of the rest. -/
theorem ofList_concat (fields : List (String × V)) (f : String × V) :
    ofList (fields ++ [f]) = (ofList fields).insert f.1 f.2 := by
  have hmem : f.1 ∈ (ofList fields).keys ↔ f.1 ∈ fields.map Prod.fst := List.mem_eraseDups
  ext1
  · show ((fields ++ [f]).map Prod.fst).eraseDups = if f.1 ∈ (ofList fields).keys then _ else _
    rw [List.map_append, List.map_singleton, eraseDups_concat, if_congr hmem rfl rfl]
    rfl
  · funext key
    show (fields ++ [f]).reverse.lookup key = if key = f.1 then some f.2 else fields.reverse.lookup key
    rw [List.reverse_append, List.reverse_singleton, List.singleton_append, List.lookup_cons]
    by_cases h : key = f.1
    · simp [h]
    · simp [h, beq_false_of_ne h]

theorem merge_ofList_nil (m : OrderedMap V) : m.merge (ofList []) = m := by
  ext1
  · simp [merge, ofList]
  · simp [merge, ofList]

theorem ofList_nil_merge (m : OrderedMap V) : (ofList []).merge m = m := by
  ext1
  · simp [merge, ofList]
  · simp [merge, ofList]

/-- What is put into the second map is put into both together. -/
theorem merge_insert (m n : OrderedMap V) (name : String) (value : V) :
    m.merge (n.insert name value) = (m.merge n).insert name value := by
  ext1
  · by_cases hm : name ∈ m.keys <;> by_cases hn : name ∈ n.keys <;> simp [merge, insert, hm, hn]
  · funext key
    by_cases h : key = name <;> simp [merge, insert, h]

end OrderedMap

/-! ## What is seen of a record -/

/-- A map with a name. -/
structure NamedMap (V : Type) extends OrderedMap V where
  name : String

namespace RecordOf

variable {V : Type} {r : RecordOf V} {m : NamedMap V}

/-- Whether all that can be seen of a record is what a map has. -/
structure Shows (r : RecordOf V) (m : NamedMap V) : Prop where
  name : r.name = m.name
  names : r.names = m.keys
  size : r.size = m.keys.length
  get? : ∀ key, r.get? key = m.get? key
  contains : ∀ key, r.contains key = decide (key ∈ m.keys)

/-- The names and what is found under them decide about the rest. -/
theorem Shows.of_get? (hname : r.name = m.name) (hnames : r.names = m.keys)
    (hget : ∀ key, r.get? key = m.get? key) : r.Shows m where
  name := hname
  names := hnames
  size := by
    rw [← hnames]
    exact (List.length_map _).symm
  get? := hget
  contains key := by
    rw [contains_eq_isSome, hget, Bool.eq_iff_iff, m.isSome_get?_iff, decide_eq_true_eq]

/-- The names of a record that looks like a map are different. -/
theorem Shows.nodup_names (h : r.Shows m) : r.names.Nodup := h.names ▸ m.nodup_keys

/-- A new record looks like the empty map. -/
theorem shows_empty (name : String) : (empty name : RecordOf V).Shows ⟨.ofList [], name⟩ :=
  .of_get? rfl rfl fun _ => rfl

namespace Shows

theorem add (h : r.Shows m) (name : String) (value : V) :
    (r.add name value).Shows { m with toOrderedMap := m.insert name value } := by
  refine .of_get? h.name ?_ fun key => ?_
  · show (Fields.add name value r.fields).map Prod.fst = if name ∈ m.keys then m.keys else m.keys ++ [name]
    rw [Fields.names_add, ← h.names]
    rfl
  · rw [get?_add, h.get?]
    rfl

theorem remove (h : r.Shows m) (name : String) :
    (r.remove name).Shows { m with toOrderedMap := m.erase name } := by
  refine .of_get? h.name ?_ fun key => ?_
  · show (Fields.remove name r.fields).map Prod.fst = m.keys.filter (· ≠ name)
    rw [Fields.names_remove, ← h.names]
    show r.names.erase name = _
    rw [h.nodup_names.erase_eq_filter name]
    simp [bne, beq_eq_decide]
  · show Fields.get? key (Fields.remove name r.fields) = if key = name then none else m.get? key
    rw [Fields.get?_remove h.nodup_names, ← h.get?]
    rfl

/-- Adding fields puts the map of their list over the map before. -/
theorem addAll (h : r.Shows m) (fields : List (String × V)) :
    ({ r with fields := Fields.addAll r.fields fields } : RecordOf V).Shows
      { m with toOrderedMap := m.merge (.ofList fields) } := by
  -- the induction is from the right, since the last field is added last
  induction fields using List.reverseRecOn with
  | nil => simpa [OrderedMap.merge_ofList_nil] using h
  | append_singleton fields f ih =>
    rw [OrderedMap.ofList_concat, OrderedMap.merge_insert, Fields.addAll_append]
    exact ih.add f.1 f.2

theorem splice (h : r.Shows m) (other : RecordOf V) :
    (r.splice other).Shows { m with toOrderedMap := m.merge (.ofList other.fields) } :=
  h.addAll other.fields

end Shows

/-- Collecting fields makes the map of their list. -/
theorem shows_collect (name : String) (fields : List (String × V)) :
    (collect name fields).Shows ⟨.ofList fields, name⟩ := by
  have h := (shows_empty name).addAll fields
  rwa [OrderedMap.ofList_nil_merge] at h

/-- The map that a record looks like if its names are different. -/
def toMap (r : RecordOf V) : NamedMap V := ⟨.ofList r.fields, r.name⟩

theorem shows_toMap (h : r.names.Nodup) : r.Shows r.toMap := by
  have hfields : Fields.addAll [] r.fields = r.fields := Fields.addAll_of_nodup h
  have hcollect := shows_collect r.name r.fields
  rwa [collect, hfields] at hcollect

/-! ## Operations -/

/-- What can be done to a record. -/
inductive Operation (V : Type) where
  /-- It makes no difference whether the record itself gets the field or a new one that takes its place. -/
  | add (name : String) (value : V)
  | remove (name : String)
  | splice (other : RecordOf V)
  | rename (name : String)
  /-- The record makes way for one that is collected from fields. -/
  | collect (fields : List (String × V))

namespace Operation

/-- An operation on a record. A removal answers with the value that was there. -/
def onRecord : Operation V → StateM (RecordOf V) (Option V)
  | add name value => modifyGet fun r => (none, r.add name value)
  | remove name => modifyGet fun r => (r.get? name, r.remove name)
  | splice other => modifyGet fun r => (none, r.splice other)
  | rename name => modifyGet fun r => (none, { r with name })
  | collect fields => modifyGet fun _ => (none, .collect "" fields)

/-- The same operation on a map. -/
def onMap : Operation V → StateM (NamedMap V) (Option V)
  | add name value => modifyGet fun m => (none, { m with toOrderedMap := m.insert name value })
  | remove name => modifyGet fun m => (m.get? name, { m with toOrderedMap := m.erase name })
  | splice other => modifyGet fun m => (none, { m with toOrderedMap := m.merge (.ofList other.fields) })
  | rename name => modifyGet fun m => (none, { m with name })
  | collect fields => modifyGet fun _ => (none, ⟨.ofList fields, ""⟩)

end Operation

/-- An operation gives the same answer on a record and on the map that it looks like, and they look alike afterwards. -/
theorem Shows.step (h : r.Shows m) (op : Operation V) :
    (op.onRecord.run r).1 = (op.onMap.run m).1 ∧ (op.onRecord.run r).2.Shows (op.onMap.run m).2 := by
  cases op with
  | add name value => exact ⟨rfl, h.add name value⟩
  | remove name => exact ⟨h.get? name, h.remove name⟩
  | splice other => exact ⟨rfl, h.splice other⟩
  | rename name => exact ⟨rfl, .of_get? rfl h.names h.get?⟩
  | collect fields => exact ⟨rfl, shows_collect "" fields⟩

theorem Shows.run (h : r.Shows m) (ops : List (Operation V)) :
    ((ops.mapM Operation.onRecord).run r).1 = ((ops.mapM Operation.onMap).run m).1 ∧
      ((ops.mapM Operation.onRecord).run r).2.Shows ((ops.mapM Operation.onMap).run m).2 := by
  induction ops generalizing r m with
  | nil => exact ⟨rfl, h⟩
  | cons op ops ih =>
    obtain ⟨hanswer, hafter⟩ := h.step op
    obtain ⟨hanswers, hend⟩ := ih hafter
    simp only [List.mapM_cons]
    exact ⟨congrArg₂ List.cons hanswer hanswers, hend⟩

/-- Splicing adds the fields of the other record in order. -/
theorem splice_eq_foldl (r other : RecordOf V) :
    r.splice other = other.fields.foldl (fun r f => r.add f.1 f.2) r := by
  rw [splice]
  induction other.fields generalizing r with
  | nil => rfl
  | cons f fields ih => exact ih (r.add f.1 f.2)

/-- Splicing one record after the other is splicing both, spliced before, if the names of the first are different. -/
theorem splice_splice (r : RecordOf V) {b : RecordOf V} (hb : b.names.Nodup) (c : RecordOf V) :
    (r.splice b).splice c = r.splice (b.splice c) :=
  congrArg (RecordOf.mk r.name) (Fields.addAll_addAll hb).symm

/-- **A record with different names is an insertion-ordered map: whatever is done to it, it answers like the map to
which the same is done, it looks like this map, and its names stay different. Splicing adds the fields of the other
record in order, and is associative.** -/
theorem isOrderedMap :
    (∀ r : RecordOf V, r.names.Nodup → ∀ ops : List (Operation V),
      ((ops.mapM Operation.onRecord).run r).1 = ((ops.mapM Operation.onMap).run r.toMap).1 ∧
      ((ops.mapM Operation.onRecord).run r).2.Shows ((ops.mapM Operation.onMap).run r.toMap).2 ∧
      ((ops.mapM Operation.onRecord).run r).2.names.Nodup) ∧
    (∀ r b : RecordOf V, r.splice b = b.fields.foldl (fun r f => r.add f.1 f.2) r) ∧
    ∀ r b c : RecordOf V, b.names.Nodup → (r.splice b).splice c = r.splice (b.splice c) := by
  refine ⟨fun r h ops => ?_, splice_eq_foldl, fun r b c hb => r.splice_splice hb c⟩
  obtain ⟨hanswers, hend⟩ := (shows_toMap h).run ops
  exact ⟨hanswers, hend, hend.nodup_names⟩

/-- The name that is removed and added again comes last, behind the new names that were spliced in. -/
theorem isOrderedMap_counts :
    let r : RecordOf Nat := ⟨"Counts", [("a", 1), ("b", 2)]⟩
    let b : RecordOf Nat := ⟨"Part", [("c", 3), ("b", 4)]⟩
    let c : RecordOf Nat := ⟨"Part", [("c", 5)]⟩
    let ops : List (Operation Nat) := [.remove "a", .splice b, .add "a" 6, .rename "Sums", .remove "d"]
    r.names.Nodup ∧ b.names.Nodup ∧
      ((ops.mapM Operation.onRecord).run r).1 = [some 1, none, none, none, none] ∧
      ((ops.mapM Operation.onRecord).run r).2.names = ["b", "c", "a"] ∧
      ((ops.mapM Operation.onRecord).run r).2.get? "b" = some 4 ∧
      (r.splice b).splice c = r.splice (b.splice c) := by
  intro r b c ops
  have hr : r.names.Nodup := by decide
  have hb : b.names.Nodup := by decide
  obtain ⟨hanswers, hshows, -⟩ := isOrderedMap.1 r hr ops
  exact ⟨hr, hb, hanswers, hshows.names, hshows.get? "b", isOrderedMap.2.2 r b c hb⟩

end RecordOf
end EntityMapping
