import EntityMapping.Converter.Reading
import EntityMapping.Proofs.Schema.Declared
import EntityMapping.Proofs.Traced
import Mathlib.Data.List.Find

/-!
# Building declared objects

An object of a declared type is built from what a record says about its mapped members, either by the constructor
over all mapped members or on top of the object that all objects of the type start as. Both ways come down to one
object, which is written down member by member.

* `Declaration.objectOf` — the object that is built
* `Member.mapM_construct` — the constructor takes the arguments of the mapped members, or refuses the first bad one
* `Contribution.fill_of_says` — what is put on top of another object
* `Declaration.instantiate_eq_ok_iff` — when an object is built, and which one
* `Declaration.instantiate_eq_error_iff` — with which error no object is built
-/

namespace EntityMapping

/-! ## The object that is built -/

/-- What a member holds when the constructor is given `x` for it. -/
def Member.slot (m : Member) (x : Option Datum) : Option Datum :=
  match m.presence with
  | .required => x
  | .optional => x
  | .defaulted d => some (x.getD d)
  | .skipped initial => initial

/-- Whether the constructor asks for a member. -/
def Member.isRequired (m : Member) : Bool :=
  match m.presence with
  | .required => true
  | _ => false

theorem Member.isRequired_iff {m : Member} : m.isRequired = true ↔ m.presence = .required := by
  unfold isRequired
  cases m.presence <;> simp

/-- Whether a mapped member can be built from an argument. -/
def Member.takes (m : Member) : Option Datum → Bool
  | none => !m.isRequired
  | some x => x.fits m.type.shape

/-- The error for an argument that a mapped member cannot be built from. -/
def Member.refusal (m : Member) : Option Datum → MapError
  | none => .missingArgument m.name
  | some _ => .typeMismatch (.wrongType m.name m.type.text)

namespace Declaration

/-- What a member of a new object holds when a record says `value` about the mapped members. -/
def held (d : Declaration) (value : Member → Option Datum) (m : Member) : Option Datum :=
  match d.start with
  | none => m.slot (value m)
  | some o => if m.isMapped then (value m).or (o.get? m.name) else o.get? m.name

/-- The new object when a record says `value` about the mapped members. -/
def objectOf (d : Declaration) (value : Member → Option Datum) : Object :=
  ⟨d.typeName, d.members.map fun m => (m.name, d.held value m)⟩

/-- Whether no object is built without a value for a member. -/
def demands (d : Declaration) (m : Member) : Bool :=
  match d.start, m.presence with
  | none, .required => true
  | _, _ => false

/-- The first member that is demanded and not given. -/
def missing? (d : Declaration) (given : Member → Bool) : Option Member :=
  d.mapped.find? fun m => d.demands m && !given m

variable {d : Declaration} {value : Member → Option Datum} {m : Member}

theorem names_objectOf (d : Declaration) (value : Member → Option Datum) :
    (d.objectOf value).slots.map Prod.fst = d.members.map Member.name := by
  rw [objectOf, List.map_map]
  rfl

theorem get?_objectOf (hnodup : (d.members.map Member.name).Nodup) (hm : m ∈ d.members) :
    (d.objectOf value).get? m.name = d.held value m := by
  have hfound : Fields.get? m.name (d.objectOf value).slots = some (d.held value m) :=
    Fields.get?_of_mem (names_objectOf d value ▸ hnodup) (List.mem_map.mpr ⟨m, hm, rfl⟩)
  rw [ObjectOf.get?, hfound]
  rfl

/-- A mapped member holds what the record says about it, if it says something. -/
theorem held_of_some {x : Datum} (hm : m.isMapped = true) (hx : value m = some x) : d.held value m = some x := by
  unfold held
  split
  · unfold Member.slot
    cases hpresence : m.presence with
    | required | optional => exact hx
    | defaulted y => exact congrArg some (by rw [hx, Option.getD_some])
    | skipped y => simp [Member.isMapped, hpresence] at hm
  · rw [if_pos hm, hx, Option.some_or]

/-- An optional member holds what the record says about it, also if this is nothing. -/
theorem held_of_optional (hm : m.presence = .optional) (hstart : ∀ s, d.start = some s → s.get? m.name = none) :
    d.held value m = value m := by
  cases hcase : d.start with
  | none => simp [held, hcase, Member.slot, hm]
  | some s => simp [held, hcase, Member.isMapped, hm, hstart s hcase]

theorem held_congr {value' : Member → Option Datum} (h : value m = value' m) : d.held value m = d.held value' m := by
  rw [held, held, h]

/-- What a record says does not matter for a member that is not mapped. -/
theorem held_of_not_mapped (value value' : Member → Option Datum) (hm : m.isMapped = false) :
    d.held value m = d.held value' m := by
  unfold held Member.slot
  cases hpresence : m.presence with
  | skipped x => simp [hm]
  | required | optional | defaulted x => simp [Member.isMapped, hpresence] at hm

/-- The field of a mapped member reads what the record says about the member. -/
theorem read_objectOf {x : Datum} (hnodup : (d.members.map Member.name).Nodup) (hm : m ∈ d.mapped)
    (hx : value m = some x) (hfits : x.fits m.type.shape = true) :
    (m.field d.typeName).read (d.objectOf value) = some x := by
  have hget : (d.objectOf value).get? m.name = some x :=
    (get?_objectOf hnodup (mem_members hm)).trans (held_of_some (List.mem_filter.mp hm).2 hx)
  rw [FieldMapping.read, if_pos (by rfl)]
  show ((d.objectOf value).get? m.name).filter _ = _
  rw [hget]
  exact if_pos hfits

theorem demands_of_start_none (hcase : d.start = none) (m : Member) : d.demands m = m.isRequired := by
  unfold demands Member.isRequired
  rw [hcase]
  cases m.presence <;> rfl

theorem demands_of_start_some {o : Object} (hcase : d.start = some o) : d.demands m = false := by
  unfold demands
  rw [hcase]

theorem missing?_eq_none_iff {given : Member → Bool} :
    d.missing? given = none ↔ ∀ m ∈ d.mapped, d.demands m = true → given m = true := by
  simp [missing?]

theorem missing?_congr {given given' : Member → Bool} (h : ∀ m ∈ d.mapped, given m = given' m) :
    d.missing? given = d.missing? given' :=
  List.find?_congr fun m hm => by rw [h m hm]

theorem mayBeEmpty_of_demands (h : d.demands m = true) : m.mayBeEmpty = false := by
  unfold demands at h
  split at h
  · next hpresence => simp [Member.mayBeEmpty, hpresence]
  · simp at h

end Declaration

/-! ## By the constructor -/

namespace Construction

variable {α β : Type} {x : Construction α} {f : α → Construction β}

/-- A construction after another one goes on with the arguments that are left. -/
theorem bind_of_ok {s rest : Arguments} {a : α} (h : x s = .ok (a, rest)) : (x >>= f) s = f a rest := by
  show StateT.bind x f s = _
  rw [StateT.bind, h]
  rfl

theorem bind_of_error {s : Arguments} {e : MapError} (h : x s = .error e) : (x >>= f) s = .error e := by
  show StateT.bind x f s = _
  rw [StateT.bind, h]
  rfl

theorem next_cons (name : String) (argument : Option Datum) (rest : Arguments) :
    next ((name, argument) :: rest) = .ok ((name, argument), rest) := rfl

end Construction

namespace Member

variable {m : Member} {x : Option Datum} {rest : Arguments}

theorem takeOptional_of_fits (hfits : ∀ y, x = some y → y.fits m.type.shape = true) :
    Construction.takeOptional m.type ((m.name, x) :: rest) = .ok (x, rest) := by
  rw [Construction.takeOptional, Construction.bind_of_ok (Construction.next_cons m.name x rest)]
  cases x with
  | none => rfl
  | some y =>
    simp only [hfits y rfl, if_true]
    rfl

theorem take_none : Construction.take m.type ((m.name, none) :: rest) = .error (.missingArgument m.name) := by
  rw [Construction.take, Construction.bind_of_ok (Construction.next_cons m.name none rest)]
  rfl

theorem take_some {y : Datum} (hfits : y.fits m.type.shape = true) :
    Construction.take m.type ((m.name, some y) :: rest) = .ok (y, rest) := by
  rw [Construction.take, Construction.bind_of_ok (Construction.next_cons m.name (some y) rest)]
  simp only [hfits, if_true]
  rfl

theorem takeOptional_refused {y : Datum} (h : y.fits m.type.shape = false) :
    Construction.takeOptional m.type ((m.name, some y) :: rest) = .error (m.refusal (some y)) := by
  rw [Construction.takeOptional, Construction.bind_of_ok (Construction.next_cons m.name (some y) rest)]
  simp only [h, Bool.false_eq_true, if_false]
  rfl

theorem take_refused {y : Datum} (h : y.fits m.type.shape = false) :
    Construction.take m.type ((m.name, some y) :: rest) = .error (m.refusal (some y)) := by
  rw [Construction.take, Construction.bind_of_ok (Construction.next_cons m.name (some y) rest)]
  simp only [h, Bool.false_eq_true, if_false]
  rfl

/-- A mapped member is built from an argument that it takes. -/
theorem construct_of_takes (hm : m.isMapped = true) (h : m.takes x = true) (rest : Arguments) :
    m.construct ((m.name, x) :: rest) = .ok ((m.name, m.slot x), rest) := by
  have hfits : ∀ y, x = some y → y.fits m.type.shape = true := by
    rintro y rfl
    exact h
  unfold construct slot
  cases hpresence : m.presence with
  | required =>
    obtain ⟨y, rfl⟩ : ∃ y, x = some y := by
      cases x with
      | none => simp [takes, isRequired_iff.mpr hpresence] at h
      | some y => exact ⟨y, rfl⟩
    dsimp only
    rw [Construction.bind_of_ok (take_some h)]
    rfl
  | optional =>
    dsimp only
    rw [Construction.bind_of_ok (takeOptional_of_fits hfits)]
    rfl
  | defaulted y =>
    have hdefault : Construction.takeOrDefault m.type y ((m.name, x) :: rest) = .ok (x.getD y, rest) := by
      rw [Construction.takeOrDefault, Construction.bind_of_ok (takeOptional_of_fits hfits)]
      rfl
    dsimp only
    rw [Construction.bind_of_ok hdefault]
    rfl
  | skipped y => simp [isMapped, hpresence] at hm

/-- A mapped member refuses any other argument. -/
theorem construct_of_not_takes (hm : m.isMapped = true) (h : m.takes x = false) (rest : Arguments) :
    m.construct ((m.name, x) :: rest) = .error (m.refusal x) := by
  unfold construct
  cases hpresence : m.presence with
  | skipped y => simp [isMapped, hpresence] at hm
  | required =>
    cases x with
    | none => exact Construction.bind_of_error take_none
    | some y => exact Construction.bind_of_error (take_refused h)
  | optional =>
    cases x with
    | none => simp [takes, isRequired, hpresence] at h
    | some y => exact Construction.bind_of_error (takeOptional_refused h)
  | defaulted z =>
    cases x with
    | none => simp [takes, isRequired, hpresence] at h
    | some y => exact Construction.bind_of_error (Construction.bind_of_error (takeOptional_refused h))

theorem construct_skipped (hm : m.isMapped = false) (x : Option Datum) (s : Arguments) :
    m.construct s = .ok ((m.name, m.slot x), s) := by
  unfold isMapped at hm
  split at hm
  · next y hpresence =>
    rw [construct, slot, hpresence]
    rfl
  · simp at hm

/-- The constructor takes exactly the arguments of the mapped members, and leaves the others. It fails at the first
argument that is refused. -/
theorem mapM_construct (value : Member → Option Datum) (members : List Member) (rest : Arguments) :
    members.mapM Member.construct ((members.filter isMapped).map (fun m => (m.name, value m)) ++ rest) =
      match (members.filter isMapped).find? (fun m => !m.takes (value m)) with
      | some m => .error (m.refusal (value m))
      | none => .ok (members.map fun m => (m.name, m.slot (value m)), rest) := by
  induction members with
  | nil => rfl
  | cons m members ih =>
    rw [List.mapM_cons]
    cases hm : m.isMapped with
    | false =>
      rw [List.filter_cons_of_neg (by simp [hm]), Construction.bind_of_ok (construct_skipped hm (value m) _)]
      split at ih
      · exact Construction.bind_of_error ih
      · exact Construction.bind_of_ok ih
    | true =>
      rw [List.filter_cons_of_pos hm, List.map_cons, List.cons_append]
      cases htakes : m.takes (value m) with
      | false =>
        rw [List.find?_cons_of_pos (by simp [htakes])]
        exact Construction.bind_of_error (construct_of_not_takes hm htakes _)
      | true =>
        rw [List.find?_cons_of_neg (by simp [htakes]), Construction.bind_of_ok (construct_of_takes hm htakes _)]
        split at ih
        · exact Construction.bind_of_error ih
        · exact Construction.bind_of_ok ih

end Member

/-! ## On top of another object -/

/-- Puts something into a slot, if there is something. -/
def ObjectOf.putSome (o : Object) (member : String) : Option Datum → Object
  | none => o
  | some x => o.set member x

/-- Puts values into some slots one by one, as far as there are values. -/
def ObjectOf.putAll {α : Type} (name : α → String) (value : α → Option Datum) (as : List α) (o : Object) : Object :=
  as.foldl (fun o a => o.putSome (name a) (value a)) o

namespace ObjectOf

theorem type_putSome (o : Object) (member : String) (x : Option Datum) : (o.putSome member x).type = o.type := by
  cases x <;> rfl

theorem names_putSome {o : Object} {member : String} (h : member ∈ o.slots.map Prod.fst) (x : Option Datum) :
    (o.putSome member x).slots.map Prod.fst = o.slots.map Prod.fst := by
  cases x with
  | none => rfl
  | some x => exact names_set h x

theorem get?_putSome (o : Object) (member key : String) (x : Option Datum) :
    (o.putSome member x).get? key = if key = member then x.or (o.get? key) else o.get? key := by
  cases x with
  | none => simp [putSome]
  | some x =>
    rw [putSome, get?_set]
    split <;> rfl

end ObjectOf

/-- Whether each of the contributions is that of its field, and something that a member of the field can hold. -/
structure Declaration.Fills (d : Declaration) (k : FieldMapping → Contribution) : Prop where
  field : ∀ f, (k f).field = f
  fits : ∀ m ∈ d.mapped, ∀ x, (k (m.field d.typeName)).value.result = .ok (some x) → x.fits m.type.shape = true

/-- Whether a record says `value` about some members. -/
def Declaration.Says (d : Declaration) (k : FieldMapping → Contribution) (members : List Member)
    (value : Member → Option Datum) : Prop :=
  ∀ m ∈ members, (k (m.field d.typeName)).value.result = .ok (value m)

namespace Declaration

variable {d : Declaration} {k : FieldMapping → Contribution} {value : Member → Option Datum}

theorem Says.fits (hvalue : d.Says k d.mapped value) (hk : d.Fills k) :
    ∀ m ∈ d.mapped, ∀ x, value m = some x → x.fits m.type.shape = true :=
  fun m hm x hx => hk.fits m hm x ((hvalue m hm).trans (congrArg Except.ok hx))

theorem Says.mapM_eq {members : List Member} (hvalue : d.Says k members value) :
    (members.mapM fun m => (k (m.field d.typeName)).value.result) = .ok (members.map value) := by
  rw [mapM_eq_ok, List.forall₂_map_right_iff]
  exact List.forall₂_same.mpr hvalue

/-- A record that says something acceptable about each member says something about all of them. -/
theorem exists_says {members : List Member} (h : ∀ m ∈ members, ∃ x, (k (m.field d.typeName)).value.result = .ok x) :
    ∃ value, d.Says k members value := by
  choose! value hvalue using h
  exact ⟨value, hvalue⟩

end Declaration

namespace Contribution

variable {d : Declaration} {o : Object} {k : FieldMapping → Contribution} {value : Member → Option Datum}

/-- What a record says about one member is put there. If it says nothing, the object stays as it is. -/
theorem result_apply (hk : d.Fills k) (htype : o.type = d.typeName) {m : Member} (hm : m ∈ d.mapped) :
    ((k (m.field d.typeName)).apply o).result =
      (k (m.field d.typeName)).value.result.map (o.putSome m.name) := by
  unfold apply
  rw [Traced.result_bind]
  cases hx : (k (m.field d.typeName)).value.result with
  | error e => rfl
  | ok x =>
    cases x with
    | none => rfl
    | some x =>
      have hfits : x.fits (m.field d.typeName).shape = true := hk.fits m hm x hx
      show (k (m.field d.typeName)).field.write o x = _
      rw [hk.field, FieldMapping.write, if_pos hfits, if_pos (by exact htype)]
      rfl

/-- Filling puts in one contribution after the other. -/
theorem fill_cons (c : Contribution) (ks : List Contribution) (o : Object) :
    fill (c :: ks) o = c.apply o >>= fun p => fill ks p := by
  rw [fill, overlay]
  cases h : (c.apply o).result with
  | error e => rw [Traced.bind_of_error h, Traced.bind_of_error (by rfl)]
  | ok p =>
    rw [Traced.bind_of_ok h, fill]
    show (⟨(c.apply o).log ++ (overlay ks p).2.log, (overlay ks p).2.result⟩ : Conversion Unit) >>=
      (fun _ => pure (overlay ks p).1) = _
    cases hrest : (overlay ks p).2.result with
    | error e => rw [Traced.bind_of_error hrest, Traced.bind_of_error rfl]
    | ok _ => rw [Traced.bind_of_ok hrest, Traced.bind_of_ok rfl, List.append_assoc]

theorem result_fill_cons (c : Contribution) (ks : List Contribution) (o : Object) :
    (fill (c :: ks) o).result = (c.apply o).result >>= fun p => (fill ks p).result := by
  rw [fill_cons, Traced.result_bind]

/-- What is said about some members is put there, and the others stay as they are. -/
theorem fill_of_says (hk : d.Fills k) (htype : o.type = d.typeName) {members : List Member}
    (hmembers : ∀ m ∈ members, m ∈ d.mapped) (hvalue : d.Says k members value) :
    (fill (members.map fun m => k (m.field d.typeName)) o).result =
      .ok (o.putAll Member.name value members) := by
  induction members generalizing o with
  | nil => rfl
  | cons m members ih =>
    have hput := result_apply hk htype (hmembers m List.mem_cons_self)
    rw [hvalue m List.mem_cons_self] at hput
    rw [List.map_cons, result_fill_cons, hput]
    exact ih ((ObjectOf.type_putSome _ _ _).trans htype) (fun n hn => hmembers n (List.mem_cons_of_mem _ hn))
      fun n hn => hvalue n (List.mem_cons_of_mem _ hn)

/-- Filling fails with the first error among the contributions. -/
theorem fill_eq_error_iff (hk : d.Fills k) (htype : o.type = d.typeName) {members : List Member} {e : MapError}
    (hmembers : ∀ m ∈ members, m ∈ d.mapped) :
    (fill (members.map fun m => k (m.field d.typeName)) o).result = .error e ↔
      (members.mapM fun m => (k (m.field d.typeName)).value.result) = .error e := by
  induction members generalizing o with
  | nil => exact iff_of_false nofun nofun
  | cons m members ih =>
    rw [List.map_cons, result_fill_cons, result_apply hk htype (hmembers m List.mem_cons_self), List.mapM_cons]
    cases hvalue : (k (m.field d.typeName)).value.result with
    | error e' =>
      constructor
      · rintro ⟨⟩
        rfl
      · rintro ⟨⟩
        rfl
    | ok x =>
      have htail : ∀ n ∈ members, n ∈ d.mapped := fun n hn => hmembers n (List.mem_cons_of_mem _ hn)
      refine (ih ((ObjectOf.type_putSome _ _ _).trans htype) htail).trans ?_
      constructor
      · intro h
        rw [h]
        rfl
      · intro h
        rcases bind_eq_error.mp h with h | ⟨y, -, h⟩
        · cases h
        · rcases bind_eq_error.mp h with h | ⟨ys, -, h⟩
          · exact h
          · cases h

/-- Filling fails if there is an error among the contributions. -/
theorem exists_value_of_fill {ks : List Contribution} {q : Object} (h : (fill ks o).result = .ok q) :
    ∀ c ∈ ks, ∃ x, c.value.result = .ok x := by
  induction ks generalizing o with
  | nil => simp
  | cons c ks ih =>
    rw [result_fill_cons, bind_eq_ok] at h
    obtain ⟨p, happly, hrest⟩ := h
    rw [List.forall_mem_cons]
    refine ⟨?_, ih hrest⟩
    unfold apply at happly
    rw [Traced.result_bind, bind_eq_ok] at happly
    obtain ⟨x, hx, -⟩ := happly
    exact ⟨x, hx⟩

end Contribution

namespace ObjectOf

variable {α : Type} {name : α → String} {value : α → Option Datum} {as : List α} {o : Object}

theorem putAll_cons (a : α) (as : List α) (o : Object) :
    putAll name value (a :: as) o = putAll name value as (o.putSome (name a) (value a)) := rfl

@[simp] theorem type_putAll (as : List α) (o : Object) : (putAll name value as o).type = o.type := by
  induction as generalizing o with
  | nil => rfl
  | cons a as ih => exact (ih _).trans (type_putSome _ _ _)

theorem names_putAll (h : ∀ a ∈ as, name a ∈ o.slots.map Prod.fst) :
    (putAll name value as o).slots.map Prod.fst = o.slots.map Prod.fst := by
  induction as generalizing o with
  | nil => rfl
  | cons a as ih =>
    have hnames := names_putSome (h a List.mem_cons_self) (value a)
    refine (ih fun b hb => ?_).trans hnames
    rw [hnames]
    exact h b (List.mem_cons_of_mem _ hb)

/-- Slots of other names stay as they are. -/
theorem get?_putAll_of_ne {key : String} (h : ∀ a ∈ as, name a ≠ key) :
    (putAll name value as o).get? key = o.get? key := by
  induction as generalizing o with
  | nil => rfl
  | cons a as ih =>
    rw [putAll_cons, ih fun b hb => h b (List.mem_cons_of_mem _ hb), get?_putSome,
      if_neg (h a List.mem_cons_self).symm]

/-- A slot that is put in under one name only holds the value for it, or what it held. -/
theorem get?_putAll_of_only {a : α} (ha : a ∈ as) (honly : ∀ b ∈ as, name b = name a → b = a) :
    (putAll name value as o).get? (name a) = (value a).or (o.get? (name a)) := by
  induction as generalizing o with
  | nil => simp at ha
  | cons b as ih =>
    have honly' : ∀ b ∈ as, name b = name a → b = a := fun b hb => honly b (List.mem_cons_of_mem _ hb)
    rw [putAll_cons]
    by_cases hmem : a ∈ as
    · rw [ih hmem honly', get?_putSome]
      split
      · next hname => rw [honly b List.mem_cons_self hname.symm, ← Option.or_assoc, Option.or_self]
      · rfl
    · obtain rfl : a = b := (List.mem_cons.mp ha).resolve_right hmem
      have hothers : ∀ b ∈ as, name b ≠ name a := fun b hb hname => hmem (honly' b hb hname ▸ hb)
      rw [get?_putAll_of_ne hothers, get?_putSome, if_pos rfl]

theorem get?_putAll (hnodup : (as.map name).Nodup) {a : α} (ha : a ∈ as) :
    (putAll name value as o).get? (name a) = (value a).or (o.get? (name a)) :=
  get?_putAll_of_only ha fun _ hb => List.inj_on_of_nodup_map hnodup hb ha

end ObjectOf

/-! ## Either way -/

namespace Declaration

variable {d : Declaration} {k : FieldMapping → Contribution} {value : Member → Option Datum} {o : Object} {m : Member}

theorem map_fields (k : FieldMapping → Contribution) :
    d.entityType.fields.map k = d.mapped.map fun m => k (m.field d.typeName) := by
  rw [entityType, List.map_map]
  rfl

/-- What the record says about the parameters becomes the arguments. -/
theorem argumentsFrom_eq (hnodup : (d.members.map Member.name).Nodup) (hk : d.Fills k) :
    d.constructor.argumentsFrom (d.entityType.fields.map k) =
      d.mapped.mapM fun m => (k (m.field d.typeName)).value := by
  unfold Constructor.argumentsFrom
  show (d.mapped.map Member.name).mapM _ = _
  rw [List.mapM_map]
  refine mapM_congr fun m hm => ?_
  have hfind : (d.entityType.fields.map k).find? (fun c => c.field.member = m.name) =
      some (k (m.field d.typeName)) := by
    rw [entityType, List.map_map, List.find?_map]
    have hmember : ((fun c : Contribution => decide (c.field.member = m.name)) ∘ k ∘ Member.field d.typeName) =
        fun n => decide (n.name = m.name) := by
      funext n
      simp [hk.field, Member.field]
    rw [hmember, find?_of_nodup (nodup_mapped hnodup) hm]
    rfl
  dsimp only [Function.comp_apply]
  rw [hfind]

/-- The constructor fits the arguments of the mapped members together, or fails at the first one that is refused. -/
theorem invoke_map (hcase : d.start = none) (value : Member → Option Datum) :
    (ConstructorCall.mk d.entityType.name d.constructor (d.mapped.map value)).invoke.result =
      match d.mapped.find? (fun m => !m.takes (value m)) with
      | some m => .error (.construction d.constructor.signature (.inl (m.refusal (value m))))
      | none => .ok (d.objectOf value) := by
  have hconstruct := Member.mapM_construct value d.members []
  have hslots : (d.members.map fun m => (m.name, m.slot (value m))) = (d.objectOf value).slots := by
    refine List.map_congr_left fun m _ => ?_
    rw [held, hcase]
  rw [List.append_nil, hslots] at hconstruct
  unfold ConstructorCall.invoke
  dsimp only
  rw [if_pos (by simp [constructor])]
  show ConstructorCall.result _ = _
  have hbuild : d.constructor.build (d.constructor.parameters.zip (d.mapped.map value)) =
      (do return ⟨d.typeName, ← d.members.mapM Member.construct⟩ : Construction Object)
        (d.mapped.map fun m => (m.name, value m)) := by
    rw [constructor, List.zip_map']
  rw [ConstructorCall.result, hbuild]
  change d.members.mapM Member.construct (d.mapped.map fun m => (m.name, value m)) = match d.mapped.find? _ with
    | some m => _
    | none => _ at hconstruct
  split at hconstruct
  · rw [Construction.bind_of_error hconstruct]
    rfl
  · rw [Construction.bind_of_ok hconstruct]
    rfl

/-- Arguments that fit are taken if none is missing. -/
theorem invoke_of_arguments (hcase : d.start = none)
    (hfits : ∀ m ∈ d.mapped, ∀ x, value m = some x → x.fits m.type.shape = true)
    (hdemands : ∀ m ∈ d.mapped, d.demands m = true → (value m).isSome = true) :
    (ConstructorCall.mk d.entityType.name d.constructor (d.mapped.map value)).invoke.result =
      .ok (d.objectOf value) := by
  have htaken : d.mapped.find? (fun m => !m.takes (value m)) = none := by
    refine List.find?_eq_none.mpr fun m hm => ?_
    have hdemands := hdemands m hm
    rw [demands_of_start_none hcase] at hdemands
    cases hx : value m with
    | none => simpa [Member.takes, hx] using hdemands
    | some x => simpa [Member.takes] using hfits m hm x hx
  rw [invoke_map hcase, htaken]

/-- The error of a constructor that misses an argument. -/
def missingError (d : Declaration) (m : Member) : MapError :=
  .construction d.constructor.signature (.inl (.missingArgument m.name))

/-- The constructor fails at the first argument that is not given and must be there. -/
theorem invoke_of_missing (hcase : d.start = none)
    (hfits : ∀ m ∈ d.mapped, ∀ x, value m = some x → x.fits m.type.shape = true)
    (hmissing : d.missing? (fun m => (value m).isSome) = some m) :
    (ConstructorCall.mk d.entityType.name d.constructor (d.mapped.map value)).invoke.result =
      .error (d.missingError m) := by
  -- where everything fits, an argument is refused only if it is missing
  have hrefused : d.mapped.find? (fun m => !m.takes (value m)) = some m := by
    rw [← hmissing]
    refine List.find?_congr fun n hn => ?_
    rw [demands_of_start_none hcase]
    cases hx : value n with
    | none => simp [Member.takes, hx]
    | some x => simp [Member.takes, hx, hfits n hn x hx]
  have hnone : value m = none := by
    have := List.find?_some hmissing
    simpa using (Bool.and_eq_true_iff.mp this).2
  rw [invoke_map hcase, hrefused]
  simp only [hnone]
  rfl

/-- All mapped members are parameters of the constructor, so nothing is left to put on top. -/
theorem filter_parameters (hk : d.Fills k) :
    (d.entityType.fields.map k).filter (fun c => c.field.member ∉ d.constructor.parameters) = [] := by
  rw [map_fields, List.filter_eq_nil_iff]
  intro c hc
  obtain ⟨m, hm, rfl⟩ := List.mem_map.mp hc
  simpa [hk.field, Member.field, constructor] using ⟨m, hm, rfl⟩

/-- What a type with a constructor makes of the contributions. -/
theorem instantiate_of_constructor (hnodup : (d.members.map Member.name).Nodup) (hcase : d.start = none)
    (hk : d.Fills k) :
    d.entityType.instantiate (d.entityType.fields.map k) =
      (d.mapped.mapM fun m => (k (m.field d.typeName)).value) >>= fun arguments =>
        (ConstructorCall.mk d.entityType.name d.constructor arguments).invoke := by
  have hcreation : d.entityType.creation = .constructed d.constructor := by rw [entityType, hcase]
  unfold EntityType.instantiate
  rw [hcreation]
  dsimp only
  rw [argumentsFrom_eq hnodup hk, filter_parameters hk]
  congr 1
  funext arguments
  exact bind_pure _

theorem result_instantiate_of_constructor (hnodup : (d.members.map Member.name).Nodup) (hcase : d.start = none)
    (hk : d.Fills k) :
    (d.entityType.instantiate (d.entityType.fields.map k)).result =
      (d.mapped.mapM fun m => (k (m.field d.typeName)).value.result) >>= fun arguments =>
        (ConstructorCall.mk d.entityType.name d.constructor arguments).invoke.result := by
  rw [instantiate_of_constructor hnodup hcase hk, Traced.result_bind, Traced.result_mapM]

/-- What a type whose objects start as copies makes of the contributions. -/
theorem instantiate_of_start {s : Object} (hcase : d.start = some s) :
    d.entityType.instantiate (d.entityType.fields.map k) =
      Contribution.fill (d.mapped.map fun m => k (m.field d.typeName)) s := by
  have hcreation : d.entityType.creation = .fresh s := by rw [entityType, hcase]
  unfold EntityType.instantiate
  rw [hcreation, map_fields]

/-- What is put on top of the object that all objects start as. -/
theorem putAll_eq_objectOf {s : Object} (hnodup : (d.members.map Member.name).Nodup)
    (hcase : d.start = some s) (htype : s.type = d.typeName)
    (hslots : s.slots.map Prod.fst = d.members.map Member.name) :
    s.putAll Member.name value d.mapped = d.objectOf value := by
  have hmembers : ∀ m ∈ d.mapped, m.name ∈ s.slots.map Prod.fst := fun m hm => by
    rw [hslots]
    exact List.mem_map_of_mem (mem_members hm)
  have hnames : (s.putAll Member.name value d.mapped).slots.map Prod.fst = s.slots.map Prod.fst :=
    ObjectOf.names_putAll hmembers
  refine ObjectOf.ext_get? ((ObjectOf.type_putAll d.mapped s).trans htype)
    (hnames.trans (hslots.trans (names_objectOf d value).symm)) (hnames ▸ hslots ▸ hnodup) fun name hname => ?_
  rw [hnames, hslots] at hname
  obtain ⟨m, hm, rfl⟩ := List.mem_map.mp hname
  rw [get?_objectOf hnodup hm, held, hcase]
  dsimp only
  split
  · next hmapped => exact ObjectOf.get?_putAll (nodup_mapped hnodup) (List.mem_filter.mpr ⟨hm, hmapped⟩)
  · next hmapped =>
    refine ObjectOf.get?_putAll_of_ne fun n hn hname => hmapped ?_
    -- a mapped member of that name would be this one
    rw [← List.inj_on_of_nodup_map hnodup (mem_members hn) hm hname]
    exact (List.mem_filter.mp hn).2

/-- **When an object of a declared type is built, and which one: the record says something acceptable about all mapped
members, and something about those that the constructor demands.** -/
theorem instantiate_eq_ok_iff (hnodup : (d.members.map Member.name).Nodup)
    (hstart : ∀ s, d.start = some s → s.type = d.typeName ∧ s.slots.map Prod.fst = d.members.map Member.name)
    (hk : d.Fills k) :
    (d.entityType.instantiate (d.entityType.fields.map k)).result = .ok o ↔
      ∃ value : Member → Option Datum, d.Says k d.mapped value ∧
        (∀ m ∈ d.mapped, d.demands m = true → (value m).isSome = true) ∧ o = d.objectOf value := by
  constructor
  · intro h
    -- each member has a contribution, and what it is decides about the rest
    have hsaid : ∃ value, d.Says k d.mapped value := by
      cases hcase : d.start with
      | none =>
        rw [result_instantiate_of_constructor hnodup hcase hk, bind_eq_ok] at h
        obtain ⟨arguments, hmap, -⟩ := h
        exact exists_says fun m hm => exists_of_mapM_eq_ok hmap hm
      | some s =>
        rw [instantiate_of_start hcase] at h
        exact exists_says fun m hm => Contribution.exists_value_of_fill h _ (List.mem_map.mpr ⟨m, hm, rfl⟩)
    obtain ⟨value, hvalue⟩ := hsaid
    refine ⟨value, hvalue, ?_⟩
    cases hcase : d.start with
    | none =>
      rw [result_instantiate_of_constructor hnodup hcase hk, hvalue.mapM_eq] at h
      cases hmissing : d.missing? fun m => (value m).isSome with
      | none =>
        have hdemands := missing?_eq_none_iff.mp hmissing
        have hbuilt := invoke_of_arguments hcase (hvalue.fits hk) hdemands
        exact ⟨hdemands, (Except.ok.inj (hbuilt.symm.trans h)).symm⟩
      | some m => cases (invoke_of_missing hcase (hvalue.fits hk) hmissing).symm.trans h
    | some s =>
      refine ⟨fun m _ hdemanded => by simp [demands_of_start_some hcase] at hdemanded, ?_⟩
      obtain ⟨htype, hslots⟩ := hstart s hcase
      rw [instantiate_of_start hcase, Contribution.fill_of_says hk htype (fun _ => id) hvalue,
        putAll_eq_objectOf hnodup hcase htype hslots] at h
      exact (Except.ok.inj h).symm
  · rintro ⟨value, hvalue, hdemands, rfl⟩
    cases hcase : d.start with
    | none =>
      rw [result_instantiate_of_constructor hnodup hcase hk, hvalue.mapM_eq]
      exact invoke_of_arguments hcase (hvalue.fits hk) hdemands
    | some s =>
      obtain ⟨htype, hslots⟩ := hstart s hcase
      rw [instantiate_of_start hcase, Contribution.fill_of_says hk htype (fun _ => id) hvalue,
        putAll_eq_objectOf hnodup hcase htype hslots]

/-- **When no object is built, and with which error: with the first error among what the record says, and otherwise with
that of the first argument that is missing.** -/
theorem instantiate_eq_error_iff {e : MapError} (hnodup : (d.members.map Member.name).Nodup)
    (hstart : ∀ s, d.start = some s → s.type = d.typeName ∧ s.slots.map Prod.fst = d.members.map Member.name)
    (hk : d.Fills k) :
    (d.entityType.instantiate (d.entityType.fields.map k)).result = .error e ↔
      (d.mapped.mapM fun m => (k (m.field d.typeName)).value.result) = .error e ∨
      ∃ value m, d.Says k d.mapped value ∧ d.missing? (fun m => (value m).isSome) = some m ∧ e = d.missingError m := by
  cases hcase : d.start with
  | none =>
    rw [result_instantiate_of_constructor hnodup hcase hk, bind_eq_error]
    refine or_congr Iff.rfl ?_
    constructor
    · rintro ⟨arguments, hmap, h⟩
      obtain ⟨value, hvalue⟩ := exists_says fun m hm => exists_of_mapM_eq_ok hmap hm
      cases hvalue.mapM_eq.symm.trans hmap
      cases hmissing : d.missing? fun m => (value m).isSome with
      | none => cases (invoke_of_arguments hcase (hvalue.fits hk) (missing?_eq_none_iff.mp hmissing)).symm.trans h
      | some m =>
        exact ⟨value, m, hvalue, hmissing,
          Except.error.inj (h.symm.trans (invoke_of_missing hcase (hvalue.fits hk) hmissing))⟩
    · rintro ⟨value, m, hvalue, hmissing, rfl⟩
      exact ⟨_, hvalue.mapM_eq, invoke_of_missing hcase (hvalue.fits hk) hmissing⟩
  | some s =>
    rw [instantiate_of_start hcase, Contribution.fill_eq_error_iff hk (hstart s hcase).1 fun _ => id]
    refine (or_iff_left ?_).symm
    rintro ⟨value, m, -, hmissing, -⟩
    -- nothing is demanded where there is no constructor
    simpa [demands_of_start_some hcase] using List.find?_some hmissing

/-- An object is built again from what its mapped members hold, if the other members hold what they start with. -/
theorem objectOf_get? {p : Object} (hnodup : (d.members.map Member.name).Nodup) (hp : d.HasInstance p)
    (hskips : ∀ m ∈ d.members, m.isMapped = false → p.get? m.name = d.initial m)
    (hstart : ∀ s, d.start = some s → ∀ m ∈ d.mapped, m.mayBeEmpty = true → s.get? m.name = none) :
    d.objectOf (fun m => p.get? m.name) = p := by
  refine ObjectOf.ext_get? hp.type.symm ((names_objectOf d _).trans hp.slots.symm)
    (names_objectOf d (fun m => p.get? m.name) ▸ hnodup) fun name hname => ?_
  rw [names_objectOf] at hname
  obtain ⟨m, hm, rfl⟩ := List.mem_map.mp hname
  rw [get?_objectOf hnodup hm]
  cases hmapped : m.isMapped with
  | false =>
    rw [hskips m hm hmapped, held, initial]
    cases hcase : d.start with
    | some s => simp [hmapped]
    | none =>
      unfold Member.slot
      cases hpresence : m.presence with
      | skipped x => rfl
      | required | optional | defaulted x => simp [Member.isMapped, hpresence] at hmapped
  | true =>
    have hmem : m ∈ d.mapped := List.mem_filter.mpr ⟨hm, hmapped⟩
    cases hget : p.get? m.name with
    | some x => exact held_of_some hmapped hget
    | none =>
      have hmay : m.mayBeEmpty = true := by
        cases hmay : m.mayBeEmpty with
        | true => rfl
        | false => simpa [hget] using hp.present m hmem hmay
      rw [held]
      cases hcase : d.start with
      | some s => simp [hmapped, hget, hstart s hcase m hmem hmay]
      | none =>
        unfold Member.slot
        cases hpresence : m.presence with
        | required | defaulted x => simp [Member.mayBeEmpty, hpresence] at hmay
        | optional => exact hget
        | skipped x => simp [Member.isMapped, hpresence] at hmapped

end Declaration
end EntityMapping
