import EntityMapping.Record
import Mathlib.Data.List.Nodup

/-!
# Lists of fields

Laws of the insertion-ordered maps that records are made of.

* `Fields.get?_addAll` — of the fields that are added, the last one of a name counts
* `Fields.addAll_addAll` — fields can be added in batches that were put together before
* `Fields.addAll_of_nodup`, `Fields.length_addAll_iff` — nothing is replaced exactly when no name is repeated
* `Fields.get?_remove` — lookup behind a removal
* `Fields.ext_get?` — without repeated names, lookup and the order of names determine the fields
-/

namespace EntityMapping
namespace Fields

variable {V : Type} {name key other : String} {value : V} {fs gs more : List (String × V)}

@[simp] theorem addAll_nil : addAll fs [] = fs := rfl

@[simp] theorem addAll_cons (f : String × V) :
    addAll fs (f :: more) = addAll (add f.1 f.2 fs) more := rfl

theorem addAll_append : addAll fs (gs ++ more) = addAll (addAll fs gs) more :=
  List.foldl_append

/-! ## Lookup -/

theorem get?_eq_none_iff : get? name fs = none ↔ name ∉ fs.map Prod.fst := by
  induction fs with
  | nil => simp [get?]
  | cons f fs ih =>
    unfold get?
    by_cases h : f.1 = name
    · simp [h]
    · simp [h, Ne.symm h, ih]

theorem isSome_get?_iff : (get? name fs).isSome = true ↔ name ∈ fs.map Prod.fst := by
  rw [← Option.ne_none_iff_isSome, Ne, get?_eq_none_iff, not_not]

/-- In two lists one after the other, the first one goes before. -/
theorem get?_append : get? key (fs ++ gs) = (get? key fs).or (get? key gs) := by
  induction fs with
  | nil => rfl
  | cons f fs ih =>
    rw [List.cons_append, get?, get?, ih]
    split <;> rfl

/-- Without repeated names, every field is found. -/
theorem get?_of_mem (h : (fs.map Prod.fst).Nodup) (hmem : (name, value) ∈ fs) : get? name fs = some value := by
  induction fs with
  | nil => simp at hmem
  | cons f fs ih =>
    obtain ⟨hfresh, hrest⟩ := List.nodup_cons.mp h
    rcases List.mem_cons.mp hmem with rfl | hmem
    · simp [get?]
    · have hne : f.1 ≠ name := fun hf => hfresh (hf ▸ List.mem_map_of_mem hmem)
      rw [get?, if_neg hne]
      exact ih hrest hmem

/-- Without repeated names, the order of fields does not matter for what is found. -/
theorem get?_of_perm (hfs : (fs.map Prod.fst).Nodup) (h : fs.Perm gs) (name : String) :
    get? name fs = get? name gs := by
  have hgs : (gs.map Prod.fst).Nodup := (h.map Prod.fst).nodup_iff.mp hfs
  cases hget : get? name fs with
  | none =>
    rw [get?_eq_none_iff, (h.map Prod.fst).mem_iff] at hget
    exact (get?_eq_none_iff.mpr hget).symm
  | some v => exact (get?_of_mem hgs (h.mem_iff.mp (mem_of_get? hget))).symm

/-- Of the fields that are added, the last one of a name counts. -/
theorem get?_addAll : get? key (addAll fs more) = (get? key more.reverse).or (get? key fs) := by
  induction more generalizing fs with
  | nil => rfl
  | cons f more ih =>
    rw [addAll_cons, ih, List.reverse_cons, get?_append, get?_add, Option.or_assoc]
    congr 1
    by_cases h : f.1 = key
    · simp [get?, h]
    · simp [get?, h, Ne.symm h]

theorem get?_addAll_of_nodup (h : (more.map Prod.fst).Nodup) :
    get? key (addAll fs more) = (get? key more).or (get? key fs) := by
  rw [get?_addAll, get?_of_perm h more.reverse_perm.symm]

/-- Without repeated names, lookup and the order of names determine the fields. -/
theorem ext_get? (hnames : fs.map Prod.fst = gs.map Prod.fst) (hnodup : (fs.map Prod.fst).Nodup)
    (hget : ∀ name ∈ fs.map Prod.fst, get? name fs = get? name gs) : fs = gs := by
  have hnodup' : (gs.map Prod.fst).Nodup := hnames ▸ hnodup
  refine List.ext_getElem (by simpa using congrArg List.length hnames) fun i hi hj => ?_
  have hname : fs[i].1 = gs[i].1 := by
    have := congrArg (fun names => names[i]?) hnames
    simpa [hi, hj] using this
  have hfs : get? fs[i].1 fs = some fs[i].2 := get?_of_mem hnodup (List.getElem_mem hi)
  have hgs : get? gs[i].1 gs = some gs[i].2 := get?_of_mem hnodup' (List.getElem_mem hj)
  have hvalue := hget fs[i].1 (List.mem_map_of_mem (List.getElem_mem hi))
  rw [hfs, hname, hgs] at hvalue
  exact Prod.ext hname (Option.some.inj hvalue)

/-! ## Additions -/

theorem nodup_add (h : (fs.map Prod.fst).Nodup) : ((add name value fs).map Prod.fst).Nodup := by
  rw [names_add]
  split
  · exact h
  · next hname => exact List.nodup_append.mpr ⟨h, by simp, by grind⟩

theorem mem_names_addAll :
    name ∈ (addAll fs more).map Prod.fst ↔ name ∈ fs.map Prod.fst ∨ name ∈ more.map Prod.fst := by
  rw [← isSome_get?_iff, get?_addAll, Option.isSome_or, Bool.or_eq_true, isSome_get?_iff, isSome_get?_iff,
    List.map_reverse, List.mem_reverse, or_comm]

theorem add_of_not_mem (h : name ∉ fs.map Prod.fst) : add name value fs = fs ++ [(name, value)] := by
  induction fs with
  | nil => rfl
  | cons f fs ih =>
    simp only [List.map_cons, List.mem_cons, not_or] at h
    rw [add, if_neg (Ne.symm h.1), ih h.2, List.cons_append]

/-- Without repeated names, adding fields puts them at the end. -/
theorem addAll_of_nodup (h : ((fs ++ more).map Prod.fst).Nodup) : addAll fs more = fs ++ more := by
  induction more generalizing fs with
  | nil => simp
  | cons f more ih =>
    have hfresh : f.1 ∉ fs.map Prod.fst := by
      rw [List.map_append, List.nodup_append] at h
      exact fun hmem => h.2.2 _ hmem _ (by simp) rfl
    rw [addAll_cons, add_of_not_mem hfresh, ih (by simpa using h)]
    simp

theorem add_add (v w : V) : add name v (add name w fs) = add name v fs := by
  induction fs with
  | nil => simp [add]
  | cons f fs ih =>
    by_cases h : f.1 = name
    · simp [add, h]
    · simp [add, h, ih]

/-- The order of two additions does not matter if the first name is present. -/
theorem add_comm (hne : name ≠ other) (hmem : name ∈ fs.map Prod.fst) (v w : V) :
    add name v (add other w fs) = add other w (add name v fs) := by
  induction fs with
  | nil => simp at hmem
  | cons f fs ih =>
    by_cases h : f.1 = name
    · subst h
      simp [add, hne]
    · by_cases h' : f.1 = other
      · subst h'
        simp [add, h]
      · have hmem : name ∈ fs.map Prod.fst := by simpa [Ne.symm h] using hmem
        simp [add, h, h', ih hmem]

theorem add_addAll_of_not_mem (hmem : name ∈ fs.map Prod.fst) (hmore : name ∉ more.map Prod.fst) :
    add name value (addAll fs more) = addAll (add name value fs) more := by
  induction more generalizing fs with
  | nil => rfl
  | cons f more ih =>
    simp only [List.map_cons, List.mem_cons, not_or] at hmore
    have hmem' : name ∈ (add f.1 f.2 fs).map Prod.fst := by
      rw [names_add]
      split
      · exact hmem
      · exact List.mem_append_left _ hmem
    rw [addAll_cons, ih hmem' hmore.2, add_comm hmore.1 hmem, addAll_cons]

theorem addAll_add (h : (gs.map Prod.fst).Nodup) :
    addAll fs (add name value gs) = add name value (addAll fs gs) := by
  induction gs generalizing fs with
  | nil => rfl
  | cons g gs ih =>
    obtain ⟨hfresh, hrest⟩ := List.nodup_cons.mp h
    by_cases hg : g.1 = name
    -- the field that is replaced is the first of the batch, and no later one has its name
    · subst hg
      have hmem : g.1 ∈ (add g.1 g.2 fs).map Prod.fst := isSome_get?_iff.mp (by simp [get?_add])
      rw [add, if_pos rfl, addAll_cons, addAll_cons, add_addAll_of_not_mem hmem hfresh, add_add]
    · rw [add, if_neg hg, addAll_cons, ih hrest, addAll_cons]

/-- Fields can be added in batches that were put together before. -/
theorem addAll_addAll (h : (gs.map Prod.fst).Nodup) : addAll fs (addAll gs more) = addAll (addAll fs gs) more := by
  induction more generalizing gs with
  | nil => rfl
  | cons f more ih => rw [addAll_cons, ih (nodup_add h), addAll_add h, addAll_cons]

theorem mem_add {f : String × V} (h : f ∈ add name value fs) : f = (name, value) ∨ f ∈ fs := by
  induction fs with
  | nil => exact .inl (List.mem_singleton.mp h)
  | cons g fs ih =>
    rw [add] at h
    split at h
    · exact (List.mem_cons.mp h).imp_right (List.mem_cons_of_mem g)
    · rcases List.mem_cons.mp h with rfl | h
      · exact .inr List.mem_cons_self
      · exact (ih h).imp_right (List.mem_cons_of_mem _)

theorem mem_addAll {f : String × V} (h : f ∈ addAll fs more) : f ∈ fs ∨ f ∈ more := by
  induction more generalizing fs with
  | nil => exact .inl h
  | cons g more ih =>
    rcases ih h with h | h
    · exact (mem_add h).elim (fun heq => .inr (heq ▸ List.mem_cons_self)) .inl
    · exact .inr (List.mem_cons_of_mem _ h)

/-! ## Removals -/

theorem mem_remove {f : String × V} (h : f ∈ remove name fs) : f ∈ fs := by
  induction fs with
  | nil => exact h
  | cons g fs ih =>
    rw [remove] at h
    split at h
    · exact List.mem_cons_of_mem _ h
    · exact (List.mem_cons.mp h).elim (fun heq => heq ▸ List.mem_cons_self) fun h => List.mem_cons_of_mem _ (ih h)

theorem names_remove : (remove name fs).map Prod.fst = (fs.map Prod.fst).erase name := by
  induction fs with
  | nil => rfl
  | cons f fs ih =>
    rw [remove, List.map_cons, List.erase_cons]
    by_cases h : f.1 = name
    · simp [h]
    · simp [h, ih]

/-- Without repeated names, what is removed is not found any more. -/
theorem get?_remove (h : (fs.map Prod.fst).Nodup) :
    get? key (remove name fs) = if key = name then none else get? key fs := by
  induction fs with
  | nil => simp [remove, get?]
  | cons f fs ih =>
    obtain ⟨hfresh, hrest⟩ := List.nodup_cons.mp h
    rw [remove]
    by_cases hf : f.1 = name
    · subst hf
      rw [if_pos rfl]
      split
      · next hkey => exact hkey ▸ get?_eq_none_iff.mpr hfresh
      · next hkey => rw [get?, if_neg (Ne.symm hkey)]
    · rw [if_neg hf, get?, ih hrest]
      by_cases hkey : f.1 = key
      · have hne : key ≠ name := fun h => hf (hkey.trans h)
        simp [get?, hkey, hne]
      · simp [get?, hkey]

/-! ## How many fields there are -/

theorem length_add : (add name value fs).length = if name ∈ fs.map Prod.fst then fs.length else fs.length + 1 := by
  have := congrArg List.length (names_add name value fs)
  rw [List.length_map] at this
  rw [this]
  split <;> simp

theorem length_addAll_le (fs more : List (String × V)) : (addAll fs more).length ≤ fs.length + more.length := by
  induction more generalizing fs with
  | nil => simp
  | cons f more ih =>
    have := ih (add f.1 f.2 fs)
    rw [length_add] at this
    rw [addAll_cons, List.length_cons]
    split at this <;> omega

/-- There are as many fields as were added exactly when no name is repeated. -/
theorem length_addAll_iff (h : (fs.map Prod.fst).Nodup) :
    (addAll fs more).length = fs.length + more.length ↔ ((fs ++ more).map Prod.fst).Nodup := by
  constructor
  · intro hlength
    induction more generalizing fs with
    | nil => simpa using h
    | cons f more ih =>
      -- had the first field replaced another one, the others could not make up for it
      have hle := length_addAll_le (add f.1 f.2 fs) more
      rw [addAll_cons, List.length_cons] at hlength
      have hfresh : f.1 ∉ fs.map Prod.fst := by
        intro hmem
        rw [length_add, if_pos hmem] at hle
        omega
      have hadd : add f.1 f.2 fs = fs ++ [f] := add_of_not_mem hfresh
      have := ih (nodup_add h) (by rw [hlength, length_add, if_neg hfresh]; omega)
      rw [hadd] at this
      simpa using this
  · intro hnodup
    rw [addAll_of_nodup hnodup, List.length_append]

end Fields

/-- A record has a field of a name when lookup finds one. -/
theorem RecordOf.contains_eq_isSome {V : Type} (r : RecordOf V) (name : String) :
    r.contains name = (r.get? name).isSome := by
  rw [Bool.eq_iff_iff, RecordOf.get?, Fields.isSome_get?_iff]
  simp [RecordOf.contains]

theorem RecordOf.get?_remove {V : Type} {r : RecordOf V} (h : r.names.Nodup) (name key : String) :
    (r.remove name).get? key = if key = name then none else r.get? key := Fields.get?_remove h

end EntityMapping
