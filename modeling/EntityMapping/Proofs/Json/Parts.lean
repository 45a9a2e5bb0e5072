import EntityMapping.Proofs.Json.Nesting
import EntityMapping.Value.Json

/-!
# Trees taken apart

Objects of one or two keys, texts, numbers and arrays as they are written: how deep they are, that they have a
text, and what the readers of parts find in them. A reader of arrays succeeds exactly when it has a bracket left and the
reader of items succeeds on every item (`exists_of_items?`, `items?_map`).
-/

namespace EntityMapping
namespace Json

/-! ## Objects -/

theorem depth_field (name : String) (j : Json) : (fields [(name, j)]).depth = j.depth + 1 := by
  simp [fields, depth, depthMembers]

theorem depth_fields (name name' : String) (j k : Json) :
    (fields [(name, j), (name', k)]).depth = max j.depth k.depth + 1 := by
  simp [fields, depth, depthMembers]

theorem writable_field {name : String} {j : Json} (h : j.Writable) : (fields [(name, j)]).Writable := by
  simp [fields, Writable, WritableMembers, h]

theorem writable_fields {name name' : String} {j k : Json} (hj : j.Writable) (hk : k.Writable) :
    (fields [(name, j), (name', k)]).Writable := by
  simp [fields, Writable, WritableMembers, hj, hk]

theorem tagged?_field (tag : String) (j : Json) : (fields [(tag, j)]).tagged? = some (tag, j) := rfl

/-- An object of two keys has the two parts that are asked for. -/
theorem parts?_fields {name name' : String} (h : name ≠ name') (j k : Json) :
    (fields [(name, j), (name', k)]).parts? [name, name'] = some [some j, some k] := by
  simp [fields, parts?, occurrences, lookup?, h, h.symm, List.countP_cons]

/-! ## Texts and numbers -/

theorem writable_text (s : String) : (text s).Writable := by simp [text, Writable]

theorem writable_int (n : Int) : (int n).Writable := by simpa [int, Writable] using Numeral.wellFormed_ofInt n

/-- A double is written as a numeral when it is finite, and as null otherwise. -/
theorem double_cases (x : Float) :
    (x.isFinite = true ∧ ∃ n : Numeral, n.WellFormed ∧ double x = .number n) ∨
      (x.isFinite = false ∧ double x = .null) := by
  have hfinite := isSome_ofFloat?_iff x
  unfold double DoubleText.ofFloat
  cases hx : Dyadic.ofFloat? x with
  | none =>
    right
    simp only [hx, Option.isSome_none, Bool.false_eq_true, false_iff, Bool.not_eq_true] at hfinite
    refine ⟨hfinite, ?_⟩
    simp only [Option.map_none]
    split
    · next hsplit => split at hsplit <;> simp at hsplit
    · rfl
  | some d =>
    left
    exact ⟨hfinite.mp (by simp [hx]), _, Numeral.wellFormed_ofDecimal _ _, rfl⟩

theorem writable_double (x : Float) : (double x).Writable := by
  obtain ⟨-, n, hn, hx⟩ | ⟨-, hx⟩ := double_cases x
  · simpa [hx, Writable] using hn
  · simp [hx, Writable]

theorem int64?_int (n : Int64) : (Json.int n.toInt).int64? = some n := by
  have hlow := n.le_toInt
  have hhigh := n.toInt_lt
  simp only [int64?, int?, Json.int, Numeral.toInt?_ofInt (n := n.toInt) (by omega) (by omega), Option.bind_some]
  rw [if_pos (by omega), Option.map_some, Int64.ofInt_toInt]

theorem byte?_int (b : UInt8) : (Json.int b.toNat).byte? = some b := by
  have hlt := b.toNat_lt
  simp only [byte?, int?, Json.int, Numeral.toInt?_ofInt (n := (b.toNat : Int)) (by omega) (by omega),
    Option.bind_some]
  rw [if_pos (by omega), Option.map_some, Int.toNat_natCast, UInt8.ofNat_toNat]

/-! ## Arrays -/

theorem depthItems_le_iff {js : List Json} {d : Nat} : depthItems js ≤ d ↔ ∀ j ∈ js, j.depth ≤ d := by
  induction js with
  | nil => simp [depthItems]
  | cons j js ih => rw [depthItems, Nat.max_le, ih, List.forall_mem_cons]

theorem writableItems_iff {js : List Json} : WritableItems js ↔ ∀ j ∈ js, j.Writable := by
  induction js with
  | nil => simp [WritableItems]
  | cons j js ih => simp [WritableItems, ih]

section
variable {α β : Type} {limit : Nat} {xs : List α} {write : α → Json}

/-- Of a list that is read item by item, each item is read, and nothing else is found. -/
theorem mapM_eq_some {f : α → Option β} {ys : List β} (h : xs.mapM f = some ys) :
    (∀ a ∈ xs, ∃ b, f a = some b) ∧ ∀ b ∈ ys, ∃ a ∈ xs, f a = some b := by
  induction xs generalizing ys with
  | nil => simp_all
  | cons a xs ih =>
    rw [List.mapM_cons] at h
    simp only [Option.bind_eq_bind, Option.bind_eq_some_iff, Option.pure_def, Option.some.injEq] at h
    obtain ⟨b, hb, bs, hbs, rfl⟩ := h
    obtain ⟨hleft, hright⟩ := ih hbs
    refine ⟨fun c hc => ?_, fun c hc => ?_⟩
    · obtain rfl | hc := List.mem_cons.mp hc
      · exact ⟨b, hb⟩
      · exact hleft c hc
    · obtain rfl | hc := List.mem_cons.mp hc
      · exact ⟨a, List.mem_cons_self, hb⟩
      · obtain ⟨d, hd, hdc⟩ := hright c hc
        exact ⟨d, List.mem_cons_of_mem a hd, hdc⟩

theorem mapM_map_eq_some {f : β → Option α} {g : α → β} (h : ∀ a ∈ xs, f (g a) = some a) :
    (xs.map g).mapM f = some xs := by
  induction xs with
  | nil => rfl
  | cons a xs ih =>
    rw [List.map_cons, List.mapM_cons, h a List.mem_cons_self, ih fun b hb => h b (List.mem_cons_of_mem a hb)]
    rfl

variable {read : Nat → Json → Option β} {ys : List β}

theorem exists_of_items? {j : Json} (h : Json.items? read limit j = some ys) :
    ∃ n js, limit = n + 1 ∧ j = .array js ∧ js.mapM (read n) = some ys := by
  unfold Json.items? at h
  split at h
  · exact ⟨_, _, rfl, rfl, h⟩
  · simp at h

/-- What is found in a list was read from some tree. -/
theorem exists_of_mem_items? {j : Json} (h : Json.items? read limit j = some ys) :
    ∃ n, limit = n + 1 ∧ ∀ b ∈ ys, ∃ k, read n k = some b := by
  obtain ⟨n, js, hn, -, hmap⟩ := exists_of_items? h
  refine ⟨n, hn, fun b hb => ?_⟩
  obtain ⟨k, -, hk⟩ := (mapM_eq_some hmap).2 b hb
  exact ⟨k, hk⟩

/-- If a written list is read, each item of it is. -/
theorem exists_of_items?_map (h : Json.items? read limit (.array (xs.map write)) = some ys) :
    ∃ n, limit = n + 1 ∧ ∀ a ∈ xs, ∃ b, read n (write a) = some b := by
  obtain ⟨n, js, hn, hjs, hmap⟩ := exists_of_items? h
  obtain rfl := Json.array.inj hjs
  exact ⟨n, hn, fun a ha => (mapM_eq_some hmap).1 _ (List.mem_map_of_mem ha)⟩

/-- If every item of a written list is read, the list is. -/
theorem items?_map {read : Nat → Json → Option α} (h : ∀ a ∈ xs, read limit (write a) = some a) :
    Json.items? read (limit + 1) (.array (xs.map write)) = some xs :=
  mapM_map_eq_some h

end

end Json
end EntityMapping
