/-!
# Records

A record is a name and a list of named fields: the form in which storage holds entities. It is an
insertion-ordered map. Adding a field under a name that is present replaces the value and keeps the place;
a new name goes to the end; lookup and removal take the first field of a name.

`get_add` says what lookup sees after an addition, `names_add` where the name stands.
-/

namespace EntityMapping

/-- A named list of fields with values in `V`. -/
structure RecordOf (V : Type) where
  name : String
  fields : List (String × V)
  deriving Repr, Inhabited, DecidableEq

namespace Fields

variable {V : Type}

/-- Adds a field: in the place of the first field of that name, or at the end. -/
def add (name : String) (value : V) : List (String × V) → List (String × V)
  | [] => [(name, value)]
  | f :: fs => if f.1 = name then (name, value) :: fs else f :: add name value fs

/-- The value of the first field of a name. -/
def get? (name : String) : List (String × V) → Option V
  | [] => none
  | f :: fs => if f.1 = name then some f.2 else get? name fs

/-- Removes the first field of a name. -/
def remove (name : String) : List (String × V) → List (String × V)
  | [] => []
  | f :: fs => if f.1 = name then fs else f :: remove name fs

/-- Adds fields one after the other. -/
def addAll (fs : List (String × V)) (more : List (String × V)) : List (String × V) :=
  more.foldl (fun fs f => add f.1 f.2 fs) fs

theorem get?_add (name key : String) (value : V) (fs : List (String × V)) :
    get? key (add name value fs) = if key = name then some value else get? key fs := by
  induction fs with
  | nil =>
    unfold add get? get?
    by_cases h : key = name
    · simp [h]
    · simp [h, Ne.symm h]
  | cons f fs ih =>
    unfold add
    by_cases hf : f.1 = name
    · by_cases h : key = name
      · simp [get?, hf, h]
      · simp [get?, hf, h, Ne.symm h]
    · rw [if_neg hf, get?, ih]
      by_cases h : f.1 = key
      · have : key ≠ name := fun hk => hf (h.trans hk)
        simp [get?, h, this]
      · simp [get?, h]

/-- The value found is the value of a field. -/
theorem mem_of_get? {name : String} {value : V} {fs : List (String × V)}
    (h : get? name fs = some value) : (name, value) ∈ fs := by
  induction fs with
  | nil => simp [get?] at h
  | cons f fs ih =>
    unfold get? at h
    split at h
    · next hf =>
      injection h with h
      subst hf h
      exact List.mem_cons_self
    · exact List.mem_cons_of_mem _ (ih h)

theorem names_add (name : String) (value : V) (fs : List (String × V)) :
    (add name value fs).map Prod.fst =
      if name ∈ fs.map Prod.fst then fs.map Prod.fst else fs.map Prod.fst ++ [name] := by
  induction fs with
  | nil => simp [add]
  | cons f fs ih =>
    unfold add
    by_cases hf : f.1 = name
    · simp [hf]
    · rw [if_neg hf, List.map_cons, ih]
      have : name ≠ f.1 := Ne.symm hf
      by_cases h : name ∈ fs.map Prod.fst <;> simp [h, this]

end Fields

namespace RecordOf

variable {V : Type}

/-- A record without fields. -/
def empty (name : String) : RecordOf V := ⟨name, []⟩

/-- The value of a field, the first one of that name. -/
def get? (r : RecordOf V) (name : String) : Option V := Fields.get? name r.fields

/-- Whether the record has a field of that name. -/
def contains (r : RecordOf V) (name : String) : Bool := r.fields.any fun f => f.1 = name

/-- Adds a field, replacing the value of a field of the same name. -/
def add (r : RecordOf V) (name : String) (value : V) : RecordOf V :=
  { r with fields := Fields.add name value r.fields }

/-- Removes a field, the first one of that name. -/
def remove (r : RecordOf V) (name : String) : RecordOf V :=
  { r with fields := Fields.remove name r.fields }

/-- Adds every field of another record. -/
def splice (r other : RecordOf V) : RecordOf V :=
  { r with fields := Fields.addAll r.fields other.fields }

/-- The record that a list of fields makes: of a repeated name, the last value in the first place. -/
def collect (name : String) (fields : List (String × V)) : RecordOf V :=
  ⟨name, Fields.addAll [] fields⟩

/-- The field names, in order. -/
def names (r : RecordOf V) : List String := r.fields.map Prod.fst

/-- The number of fields. -/
def size (r : RecordOf V) : Nat := r.fields.length

/-- Lookup after an addition sees the new value under its name and the old ones elsewhere. -/
theorem get?_add (r : RecordOf V) (name key : String) (value : V) :
    (r.add name value).get? key = if key = name then some value else r.get? key :=
  Fields.get?_add name key value r.fields

end RecordOf
end EntityMapping
