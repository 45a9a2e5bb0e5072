import EntityMapping.Collection
import EntityMapping.Proofs.Schema.Declared

/-!
# Pruned objects

An optional embedded object of which nothing is stored cannot be told from one that is not there. A *pruned*
object has none of these, at any depth; sets inside are put together again from their pruned items.

* `DeclaredSchema.prune` — the pruned object
* `DeclaredSchema.read_prune` — what its fields hold
* `DeclaredSchema.exists_isNull_prune` — what is stored of an object is still there when it is pruned
-/

namespace EntityMapping
namespace DeclaredSchema

/-- The mapped member of a type, by its name. -/
def member? (D : DeclaredSchema) (type : TypeName) (name : String) : Option Member :=
  (D.declaration? type).bind fun d => d.mapped.find? fun m => m.name = name

/-- The order of the objects of a type. -/
def orderOf (D : DeclaredSchema) (type : TypeName) : Object → Object → Ordering :=
  match D.declaration? type with
  | some d => d.order
  | none => fun _ _ => .eq

/-- Whether something is an optional embedded object of which nothing is stored. -/
def isDropped (D : DeclaredSchema) (m : Member) : Datum → Bool
  | .object o => m.mayBeEmpty && m.type.shape = .embedded o.type && (D.populated o).isEmpty
  | _ => false

mutual

/-- A pruned object. -/
def pruneObject (D : DeclaredSchema) : ObjectOf Datum → ObjectOf Datum
  | ⟨type, slots⟩ => ⟨type, pruneSlots D type slots⟩

/-- The slots of a pruned object. Members that are not mapped are left alone. -/
def pruneSlots (D : DeclaredSchema) (type : TypeName) :
    List (String × Option Datum) → List (String × Option Datum)
  | [] => []
  | (name, none) :: slots => (name, none) :: pruneSlots D type slots
  | (name, some x) :: slots =>
    (name, match D.member? type name with
      | some m => if D.isDropped m x then none else some (pruneDatum D x)
      | none => some x) :: pruneSlots D type slots

/-- What a member holds, with the objects inside pruned. -/
def pruneDatum (D : DeclaredSchema) : Datum → Datum
  | .scalar t x => .scalar t x
  | .object o => .object (pruneObject D o)
  | .collection kind item items => .collection kind item (kind.ofList (D.orderOf item) (pruneObjects D items))

/-- Pruned objects. -/
def pruneObjects (D : DeclaredSchema) : List (ObjectOf Datum) → List (ObjectOf Datum)
  | [] => []
  | o :: os => pruneObject D o :: pruneObjects D os

end

/-- **A pruned object: optional embedded objects of which nothing is stored are taken out, at every level.** -/
def prune (D : DeclaredSchema) (o : Object) : Object := pruneObject D o

/-! ## What pruning keeps -/

variable {D : DeclaredSchema}

@[simp] theorem type_prune (o : Object) : (D.prune o).type = o.type := by
  cases o
  rfl

theorem pruneObjects_eq_map (os : List Object) : pruneObjects D os = os.map D.prune := by
  induction os with
  | nil => rfl
  | cons o os ih => rw [pruneObjects, ih, List.map_cons, prune]

/-- What is left of something in a slot. -/
def pruneSlot (D : DeclaredSchema) (type : TypeName) (name : String) (x : Datum) : Option Datum :=
  match D.member? type name with
  | some m => if D.isDropped m x then none else some (D.pruneDatum x)
  | none => some x

theorem pruneSlots_eq_map (type : TypeName) (slots : List (String × Option Datum)) :
    pruneSlots D type slots = slots.map fun s => (s.1, s.2.bind (D.pruneSlot type s.1)) := by
  induction slots with
  | nil => rfl
  | cons s slots ih =>
    obtain ⟨name, x⟩ := s
    cases x with
    | none => rw [pruneSlots, ih, List.map_cons, Option.bind_none]
    | some x => rw [pruneSlots, ih, List.map_cons, Option.bind_some, pruneSlot]

theorem slots_prune (o : Object) :
    (D.prune o).slots = o.slots.map fun s => (s.1, s.2.bind (D.pruneSlot o.type s.1)) := by
  cases o
  exact pruneSlots_eq_map _ _

theorem names_prune (o : Object) : (D.prune o).slots.map Prod.fst = o.slots.map Prod.fst := by
  rw [slots_prune, List.map_map]
  rfl

theorem get?_map_slots (g : String → Option Datum → Option Datum) (name : String)
    (slots : List (String × Option Datum)) :
    Fields.get? name (slots.map fun s => (s.1, g s.1 s.2)) = (Fields.get? name slots).map (g name) := by
  induction slots with
  | nil => rfl
  | cons s slots ih =>
    rw [List.map_cons, Fields.get?, Fields.get?]
    split
    · next hname => rw [hname, Option.map_some]
    · exact ih

/-- What a member holds after something was done to every slot. -/
theorem get?_of_slots_eq {o p : Object} {g : String → Datum → Option Datum}
    (h : p.slots = o.slots.map fun s => (s.1, s.2.bind (g s.1))) (name : String) :
    p.get? name = (o.get? name).bind (g name) := by
  rw [ObjectOf.get?, h, get?_map_slots fun name x => x.bind (g name), ObjectOf.get?]
  cases Fields.get? name o.slots <;> rfl

theorem get?_prune (o : Object) (name : String) :
    (D.prune o).get? name = (o.get? name).bind (D.pruneSlot o.type name) :=
  get?_of_slots_eq (slots_prune o) name

theorem fits_pruneDatum (x : Datum) (s : Shape) : (D.pruneDatum x).fits s = x.fits s := by
  cases x with
  | scalar => rfl
  | object o =>
    cases o
    cases s <;> rfl
  | collection => cases s <;> rfl

/-! ## Members of declared objects -/

variable {d : Declaration} {o : Object} {m : Member}

theorem member?_of_mapped (h : D.declaration? o.type = some d) (hm : m ∈ d.mapped) :
    D.member? o.type m.name = some m := by
  rw [member?, h, Option.bind_some]
  exact find?_of_nodup (Declaration.nodup_mapped (D.nodup_members d (mem_of_declaration? h))) hm

theorem member?_of_not_mapped (h : D.declaration? o.type = some d) (hm : m ∈ d.members)
    (hmapped : m.isMapped = false) : D.member? o.type m.name = none := by
  rw [member?, h, Option.bind_some, List.find?_eq_none]
  intro n hn
  have hne : n ≠ m := fun heq => by simp [← heq, (List.mem_filter.mp hn).2] at hmapped
  have hnodup := D.nodup_members d (mem_of_declaration? h)
  simpa using fun hname => hne (List.inj_on_of_nodup_map hnodup (Declaration.mem_members hn) hm hname)

/-- What a mapped member of a pruned object holds. -/
theorem get?_prune_of_mapped (h : D.declaration? o.type = some d) (hm : m ∈ d.mapped) :
    (D.prune o).get? m.name =
      (o.get? m.name).bind fun x => if D.isDropped m x then none else some (D.pruneDatum x) := by
  rw [get?_prune]
  congr 1
  funext x
  rw [pruneSlot, member?_of_mapped h hm]

theorem get?_prune_of_not_mapped (h : D.declaration? o.type = some d) (hm : m ∈ d.members)
    (hmapped : m.isMapped = false) : (D.prune o).get? m.name = o.get? m.name := by
  rw [get?_prune]
  have hkeep (x : Datum) : D.pruneSlot o.type m.name x = some x := by
    rw [pruneSlot, member?_of_not_mapped h hm hmapped]
  cases o.get? m.name with
  | none => rfl
  | some x => exact hkeep x

theorem hasInstance_prune (h : D.declaration? o.type = some d) (ho : d.HasInstance o) :
    d.HasInstance (D.prune o) where
  type := (type_prune o).trans ho.type
  slots := (names_prune o).trans ho.slots
  fits m hm x hx := by
    rw [get?_prune_of_mapped h hm] at hx
    obtain ⟨y, hy, hyx⟩ := Option.bind_eq_some_iff.mp hx
    split at hyx
    · simp at hyx
    · injection hyx with hyx
      rw [← hyx, fits_pruneDatum]
      exact ho.fits m hm y hy
  present m hm hmay := by
    obtain ⟨x, hx⟩ := Option.isSome_iff_exists.mp (ho.present m hm hmay)
    -- only optional members are emptied
    have hdrop : D.isDropped m x = false := by
      cases x <;> simp [isDropped, hmay]
    rw [get?_prune_of_mapped h hm, hx, Option.bind_some, hdrop]
    rfl

/-- What the field of a mapped member reads from a pruned object. -/
theorem read_prune (h : D.declaration? o.type = some d) (ho : d.HasInstance o) (hm : m ∈ d.mapped) :
    (m.field d.typeName).read (D.prune o) =
      ((m.field d.typeName).read o).bind fun x => if D.isDropped m x then none else some (D.pruneDatum x) := by
  rw [(hasInstance_prune h ho).read_field hm, ho.read_field hm, get?_prune_of_mapped h hm]

/-- An object of which something is stored holds something, also when it is pruned. -/
theorem exists_isNull_prune (h : D.declaration? o.type = some d) (ho : d.HasInstance o)
    (hpopulated : D.populated o ≠ []) : ∃ f ∈ d.entityType.fields, f.isNull (D.prune o) = false := by
  rw [Schema.populated_of_find? (find?_of_declaration? h)] at hpopulated
  obtain ⟨y, hy⟩ := List.exists_mem_of_ne_nil _ hpopulated
  obtain ⟨f, hf, hy⟩ := List.mem_flatMap.mp hy
  obtain ⟨m, hm, rfl⟩ := List.mem_map.mp hf
  refine ⟨_, hf, ?_⟩
  rw [FieldMapping.isNull, read_prune h ho hm]
  cases hx : (m.field d.typeName).read o with
  | none => simp [Schema.populatedBy, hx] at hy
  | some x =>
    have hdrop : D.isDropped m x = false := by
      cases x with
      | scalar | collection => rfl
      | object p =>
        -- something is stored of the object, so it is not one of those that are taken out
        by_contra hdrop
        simp only [isDropped, Bool.not_eq_false, Bool.and_eq_true, decide_eq_true_eq,
          List.isEmpty_iff] at hdrop
        have hembeds := FieldMapping.embeds?_of_shape (f := m.field d.typeName) hdrop.1.2
        simp [Schema.populatedBy, hx, hembeds, hdrop.2] at hy
    rw [Option.bind_some, hdrop]
    rfl

end DeclaredSchema
end EntityMapping
