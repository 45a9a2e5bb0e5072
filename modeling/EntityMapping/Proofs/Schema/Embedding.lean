import EntityMapping.Proofs.Schema.Declared
import Mathlib.Data.Finset.Card
import Mathlib.Logic.Relation

/-!
# Types that embed each other

Mapped types make a schema unless one of them embeds itself, directly or through the types that it embeds. How deep a
type embeds others is counted up to a limit, and as many steps as there are types are enough: a longer way down would
meet a type twice.

* `Schema.Embeds`, `Schema.Acyclic` — one type embeds another, and none embeds itself
* `Schema.exists_of_acyclic`, `Schema.acyclic` — the types that make a schema
* `Schema.embeddingDepth`, `Schema.embeddingDepth_eq` — how deep a type embeds others
* `Schema.embeddingDepth_lt` — what is embedded lies less deep
* `Schema.isSome_ofTypes?` — the types that are accepted as a schema
-/

namespace EntityMapping
namespace Schema

variable {types : List TypeDescription} {type u : TypeName} {d : TypeDescription} {f : FieldMapping}

/-- Whether objects of one type embed objects of another. -/
def Embeds (types : List TypeDescription) (type u : TypeName) : Prop :=
  ∃ d ∈ types, d.typeName = type ∧ ∃ f ∈ d.fields, f.embeds? = some u

theorem embeds_of_find? (hd : types.find? (fun d => d.typeName = type) = some d) (hf : f ∈ d.fields)
    (hu : f.embeds? = some u) : Embeds types type u :=
  ⟨d, List.mem_of_find?_eq_some hd, by simpa using List.find?_some hd, f, hf, hu⟩

/-- Whether no type embeds itself, neither directly nor through the types that it embeds. -/
def Acyclic (types : List TypeDescription) : Prop := ∀ type, ¬ Relation.TransGen (Embeds types) type type

/-- No type of a schema embeds itself. -/
theorem acyclic (S : Schema) : Acyclic S.types := by
  have hlt {type u : TypeName} (h : Relation.TransGen (Embeds S.types) type u) : S.depth u < S.depth type := by
    induction h with
    | single h =>
      obtain ⟨d, hd, rfl, f, hf, hu⟩ := h
      exact S.depth_lt d hd f hf _ hu
    | tail _ h ih =>
      obtain ⟨d, hd, rfl, f, hf, hu⟩ := h
      exact (S.depth_lt d hd f hf _ hu).trans ih
  exact fun type h => Nat.lt_irrefl _ (hlt h)

/-! ## Ways down -/

open Classical in
/-- The mapped types that a type embeds at any depth, and the type itself. -/
noncomputable def downwards (types : List TypeDescription) (type : TypeName) : Finset TypeName :=
  (types.map TypeDescription.typeName).toFinset.filter (Relation.ReflTransGen (Embeds types) type)

theorem mem_downwards :
    u ∈ downwards types type ↔
      u ∈ types.map TypeDescription.typeName ∧ Relation.ReflTransGen (Embeds types) type u := by
  simp [downwards]

theorem card_downwards_le (types : List TypeDescription) (type : TypeName) :
    (downwards types type).card ≤ types.length :=
  calc (downwards types type).card
    _ ≤ (types.map TypeDescription.typeName).toFinset.card :=
      Finset.card_le_card fun _ h => List.mem_toFinset.mpr (mem_downwards.mp h).1
    _ ≤ (types.map TypeDescription.typeName).length := List.toFinset_card_le _
    _ = types.length := List.length_map _

theorem card_downwards_pos (hd : types.find? (fun d => d.typeName = type) = some d) :
    0 < (downwards types type).card := by
  have htype : d.typeName = type := by simpa using List.find?_some hd
  have hmapped := List.mem_map_of_mem (f := TypeDescription.typeName) (List.mem_of_find?_eq_some hd)
  exact Finset.card_pos.mpr ⟨type, mem_downwards.mpr ⟨htype ▸ hmapped, .refl⟩⟩

/-- From a type that is embedded, fewer types can be reached: the one that embeds it cannot. -/
theorem card_downwards_lt (hacyclic : Acyclic types) (h : Embeds types type u) :
    (downwards types u).card < (downwards types type).card := by
  refine Finset.card_lt_card (Finset.ssubset_iff_of_subset ?_ |>.mpr ⟨type, ?_, ?_⟩)
  · intro v hv
    obtain ⟨hmapped, hway⟩ := mem_downwards.mp hv
    exact mem_downwards.mpr ⟨hmapped, .head h hway⟩
  · obtain ⟨d, hd, rfl, -⟩ := h
    exact mem_downwards.mpr ⟨List.mem_map_of_mem hd, .refl⟩
  · intro hmem
    exact hacyclic type (.head' h (mem_downwards.mp hmem).2)

/-- Types of which none embeds itself make a schema. -/
theorem exists_of_acyclic (hacyclic : Acyclic types) : ∃ S : Schema, S.types = types :=
  ⟨⟨types, fun type => (downwards types type).card, fun d hd f hf _ hu =>
    card_downwards_lt hacyclic ⟨d, hd, rfl, f, hf, hu⟩⟩, rfl⟩

/-! ## Depth -/

theorem foldl_max_le_iff {α : Type} {depth : α → Nat} {as : List α} {start limit : Nat} :
    as.foldl (fun deepest a => max deepest (depth a + 1)) start ≤ limit ↔ start ≤ limit ∧ ∀ a ∈ as, depth a < limit := by
  induction as generalizing start with
  | nil => simp
  | cons a as ih =>
    rw [List.foldl_cons, ih, List.forall_mem_cons, Nat.max_le, and_assoc, Nat.succ_le_iff]

theorem foldl_max_congr {α : Type} {depth depth' : α → Nat} {as : List α} (h : ∀ a ∈ as, depth a = depth' a)
    (start : Nat) :
    as.foldl (fun deepest a => max deepest (depth a + 1)) start =
      as.foldl (fun deepest a => max deepest (depth' a + 1)) start :=
  List.foldl_ext _ _ start fun _ a ha => by rw [h a ha]

/-- How deep a type embeds others: the number of steps of the longest way down. -/
def embeddingDepth (types : List TypeDescription) (type : TypeName) : Nat := depthWithin types types.length type

theorem depthWithin_le (types : List TypeDescription) (limit : Nat) (type : TypeName) :
    depthWithin types limit type ≤ limit := by
  induction limit generalizing type with
  | zero => rfl
  | succ limit ih =>
    unfold depthWithin
    split
    · exact Nat.zero_le _
    · exact foldl_max_le_iff.mpr ⟨Nat.zero_le _, fun u _ => Nat.lt_succ_of_le (ih u)⟩

theorem embeddingDepth_le (types : List TypeDescription) (type : TypeName) :
    embeddingDepth types type ≤ types.length :=
  depthWithin_le types types.length type

theorem depthWithin_of_none (h : types.find? (fun d => d.typeName = type) = none) (limit : Nat) :
    depthWithin types limit type = 0 := by
  cases limit with
  | zero => rfl
  | succ limit => rw [depthWithin, h]

theorem depthWithin_of_find? (hd : types.find? (fun d => d.typeName = type) = some d) (limit : Nat) :
    depthWithin types (limit + 1) type =
      (d.fields.filterMap FieldMapping.embeds?).foldl (fun depth u => max depth (depthWithin types limit u + 1)) 0 := by
  rw [depthWithin, hd]

/-- Counting further than there are types to reach changes nothing. -/
theorem depthWithin_succ (hacyclic : Acyclic types) {limit : Nat} {type : TypeName}
    (h : (downwards types type).card ≤ limit) :
    depthWithin types (limit + 1) type = depthWithin types limit type := by
  cases hd : types.find? (fun d => d.typeName = type) with
  | none => rw [depthWithin_of_none hd, depthWithin_of_none hd]
  | some d =>
    cases limit with
    | zero => exact absurd h (Nat.not_le.mpr (card_downwards_pos hd))
    | succ limit =>
      rw [depthWithin_of_find? hd, depthWithin_of_find? hd]
      refine foldl_max_congr (fun u hu => ?_) 0
      obtain ⟨f, hf, hu⟩ := List.mem_filterMap.mp hu
      have hlt := card_downwards_lt hacyclic (embeds_of_find? hd hf hu)
      exact depthWithin_succ hacyclic (by omega)

/-- If no type embeds itself, a type lies one step deeper than the deepest type that it embeds. -/
theorem embeddingDepth_eq (hacyclic : Acyclic types) (hd : types.find? (fun d => d.typeName = type) = some d) :
    embeddingDepth types type =
      (d.fields.filterMap FieldMapping.embeds?).foldl (fun depth u => max depth (embeddingDepth types u + 1)) 0 := by
  have hpos := card_downwards_pos hd
  have hle := card_downwards_le types type
  obtain ⟨limit, hlimit⟩ : ∃ limit, types.length = limit + 1 := ⟨types.length - 1, by omega⟩
  unfold embeddingDepth
  rw [hlimit, depthWithin_of_find? hd]
  refine foldl_max_congr (fun u hu => ?_) 0
  obtain ⟨f, hf, hu⟩ := List.mem_filterMap.mp hu
  have hlt := card_downwards_lt hacyclic (embeds_of_find? hd hf hu)
  exact (depthWithin_succ hacyclic (by omega)).symm

/-- **If no type embeds itself, what is embedded lies less deep.** -/
theorem embeddingDepth_lt (hacyclic : Acyclic types) (hd : types.find? (fun d => d.typeName = type) = some d)
    (hf : f ∈ d.fields) (hu : f.embeds? = some u) : embeddingDepth types u < embeddingDepth types type :=
  (foldl_max_le_iff.mp (embeddingDepth_eq hacyclic hd).ge).2 u (List.mem_filterMap.mpr ⟨f, hf, hu⟩)

/-- The types that are accepted as a schema: of types that are described once each, those of which none embeds itself. -/
theorem isSome_ofTypes? (honce : (types.map TypeDescription.typeName).Nodup) :
    (ofTypes? types).isSome ↔ Acyclic types := by
  unfold ofTypes?
  dsimp only
  constructor
  · intro h
    split at h
    · next hdepth => exact acyclic ⟨types, _, hdepth⟩
    · cases h
  · intro hacyclic
    rw [dif_pos]
    · rfl
    · intro d hd f hf u hu
      exact embeddingDepth_lt hacyclic (find?_of_nodup honce hd) hf hu

end Schema
end EntityMapping
