import EntityMapping.Proofs.Number.Exact
import EntityMapping.Proofs.Scalar

/-!
# Exact coding of scalars

Scalars are coded without loss, and where an integer is read, it is the one that the value stands for: an integer
stands for itself, a double for the integer that it is exactly, and where natural numbers of 64 bits are read, digits
stand for the number that they write. So a value is accepted if it stands for a number of the type. A list is read
item by item.

* `Value.HasInteger`, `ScalarType.Denotes` — which integer a value stands for
* `ScalarType.decode_of_denotes`, `ScalarType.decode_of_not_denotes` — which values an integer type accepts
* `ScalarType.readsItems` — which values a list type accepts
* `ScalarType.coding_exact` — all of it
-/

namespace EntityMapping

/-- Whether a value is a number that is the given integer of 64 bits exactly. -/
inductive Value.HasInteger : Value → Int → Prop
  | integer (n : Int64) : HasInteger (.integer n) n.toInt
  | float {x : Float} {n : Int} (exact : exactValue? x.toModel.unpack = some (n : ℚ)) (low : -2 ^ 63 ≤ n)
      (high : n < 2 ^ 63) : HasInteger (.float x) n

theorem Value.hasInteger_float_iff {x : Float} {n : Int} :
    (Value.float x).HasInteger n ↔ exactInteger? x = some n ∧ -2 ^ 63 ≤ n ∧ n < 2 ^ 63 := by
  rw [exactInteger?_eq_some_iff]
  constructor
  · rintro (_ | ⟨hexact, hlow, hhigh⟩)
    exact ⟨hexact, hlow, hhigh⟩
  · rintro ⟨hexact, hlow, hhigh⟩
    exact .float hexact hlow hhigh

/-- The integer that is read of a number is the one that it is. -/
theorem Value.hasInteger_iff {v : Value} {n : Int} : v.HasInteger n ↔ ∃ k, v.asInt64? = some k ∧ k.toInt = n := by
  constructor
  · rintro (⟨k⟩ | @⟨x, n, hexact, hlow, hhigh⟩)
    · exact ⟨k, rfl, rfl⟩
    · have hn : (Int64.ofInt n).toInt = n := Int64.toInt_ofInt_of_le hlow hhigh
      exact ⟨.ofInt n, exactInt64?_eq_some_iff.mpr (by rwa [hn]), hn⟩
  · rintro ⟨k, hk, rfl⟩
    cases v with
    | integer m =>
      obtain rfl : m = k := Option.some.inj hk
      exact .integer m
    | float x => exact .float (exactInt64?_eq_some_iff.mp hk) k.le_toInt k.toInt_lt
    | _ => simp [asInt64?] at hk

namespace ScalarType

variable {t : ScalarType} {v : Value} {n : Int}

/-- The integer that a value stands for where an integer type is read. -/
inductive Denotes (t : ScalarType) : Value → Int → Prop
  | number {v : Value} {n : Int} (has : v.HasInteger n) : Denotes t v n
  | text {s : String} {n : Nat} (unsigned : t = uint64) (writes : WritesNatural s.toList n) : Denotes t (.text s) n

/-- The numbers of an integer type. -/
def InRange : ScalarType → Int → Prop
  | int64, n => -2 ^ 63 ≤ n ∧ n < 2 ^ 63
  | int32, n => -2 ^ 31 ≤ n ∧ n < 2 ^ 31
  | uint32, n => 0 ≤ n ∧ n < 2 ^ 32
  | uint64, n => 0 ≤ n ∧ n < 2 ^ 64
  | _, _ => False

/-- What is asked for where an integer type is read. -/
def integerKind : ScalarType → String
  | int32 => "INTEGER (i32)"
  | uint32 => "INTEGER (u32)"
  | uint64 => "INTEGER (u64)"
  | _ => "INTEGER"

/-! ## Integers -/

theorem decodeInteger_of_hasInteger {α : Type} {wanted : String} {low high : Int} {make : Int → α}
    (h : v.HasInteger n) (hlow : low ≤ n) (hhigh : n ≤ high) : decodeInteger wanted low high make v = .ok (make n) := by
  obtain ⟨k, hk, rfl⟩ := Value.hasInteger_iff.mp h
  exact decodeInteger_of_bounds hk hlow hhigh

theorem decodeInteger_of_not {α : Type} {wanted : String} {low high : Int} {make : Int → α}
    (h : ∀ n, v.HasInteger n → ¬ (low ≤ n ∧ n ≤ high)) :
    decodeInteger wanted low high make v = .error (.expected wanted v) := by
  rw [decodeInteger]
  split
  · next k hk => rw [if_neg (h _ (Value.hasInteger_iff.mpr ⟨k, hk, rfl⟩))]
  · rfl

theorem decodeNatural_of_hasInteger (h : v.HasInteger n) :
    decodeNatural v = decodeInteger "INTEGER (u64)" 0 (2 ^ 64 - 1) (fun n => UInt64.ofNat n.toNat) v := by
  cases h <;> rfl

/-- A value is accepted if it stands for a number of the type, and that number is read. -/
theorem decode_of_denotes (h : t.Denotes v n) (hn : t.InRange n) :
    ∃ x, t.decode v = .ok x ∧ t.toInt? x = some n := by
  cases h with
  | number has =>
    cases t with
    | int64 =>
      obtain ⟨k, hk, rfl⟩ := Value.hasInteger_iff.mp has
      exact ⟨k, by rw [decode, hk, decodeKind], rfl⟩
    | int32 =>
      exact ⟨.ofInt n, decodeInteger_of_hasInteger has hn.1 (Int.le_sub_one_of_lt hn.2),
        congrArg some (Int32.toInt_ofInt_of_le hn.1 hn.2)⟩
    | uint32 =>
      obtain ⟨k, rfl⟩ := Int.eq_ofNat_of_zero_le hn.1
      exact ⟨.ofNat k, decodeInteger_of_hasInteger has hn.1 (Int.le_sub_one_of_lt hn.2),
        congrArg (some ∘ Int.ofNat) (UInt32.toNat_ofNat_of_lt' (Int.ofNat_lt.mp hn.2))⟩
    | uint64 =>
      obtain ⟨k, rfl⟩ := Int.eq_ofNat_of_zero_le hn.1
      refine ⟨.ofNat k, ?_, congrArg (some ∘ Int.ofNat) (UInt64.toNat_ofNat_of_lt' (Int.ofNat_lt.mp hn.2))⟩
      rw [decode, decodeNatural_of_hasInteger has]
      exact decodeInteger_of_hasInteger has hn.1 (Int.le_sub_one_of_lt hn.2)
    | _ => exact hn.elim
  | @text s k unsigned writes =>
    subst unsigned
    have hk : (UInt64.ofNat k).toNat = k := UInt64.toNat_ofNat_of_lt' (Int.ofNat_lt.mp hn.2)
    refine ⟨.ofNat k, ?_, congrArg (some ∘ Int.ofNat) hk⟩
    rw [decode, decodeNatural, readUInt64_eq_ok_iff.mpr (by rwa [hk])]

/-- A value that stands for no number of the type is refused. -/
theorem decode_of_not_denotes (ht : t.IsInteger) (h : ∀ n, t.InRange n → ¬ t.Denotes v n) :
    t.decode v = .error (.expected t.integerKind v) := by
  cases t with
  | int64 =>
    cases hv : v.asInt64? with
    | none =>
      rw [decode, hv]
      rfl
    | some k => exact absurd (.number (Value.hasInteger_iff.mpr ⟨k, hv, rfl⟩)) (h _ ⟨k.le_toInt, k.toInt_lt⟩)
  | int32 => exact decodeInteger_of_not fun n hn hbounds => h n ⟨hbounds.1, by omega⟩ (.number hn)
  | uint32 => exact decodeInteger_of_not fun n hn hbounds => h n ⟨hbounds.1, by omega⟩ (.number hn)
  | uint64 =>
    have hnumber : decodeInteger "INTEGER (u64)" 0 (2 ^ 64 - 1) (fun n => UInt64.ofNat n.toNat) v =
        .error (.expected "INTEGER (u64)" v) :=
      decodeInteger_of_not fun n hn hbounds => h n ⟨hbounds.1, by omega⟩ (.number hn)
    cases v with
    | text s =>
      rw [decode, decodeNatural]
      cases hs : readUInt64 s with
      | error fault => rfl
      | ok k =>
        have hlt := k.toNat_lt
        exact absurd (.text rfl (readUInt64_eq_ok_iff.mp hs)) (h _ ⟨by omega, by omega⟩)
    | _ => exact hnumber
  | _ => exact ht.elim

/-- What it means that an integer type is read without changing a number. -/
structure ReadsExactly (t : ScalarType) : Prop where
  /-- What is read is a number of the type that the value stands for. -/
  sound : ∀ {v x}, t.decode v = .ok x → ∃ n, t.toInt? x = some n ∧ t.InRange n ∧ t.Denotes v n
  /-- A number of the type is read from every value that stands for it. -/
  complete : ∀ {v n}, t.Denotes v n → t.InRange n → ∃ x, t.decode v = .ok x ∧ t.toInt? x = some n
  /-- Every other value is refused. -/
  refused : ∀ {v}, (∀ n, t.InRange n → ¬ t.Denotes v n) → t.decode v = .error (.expected t.integerKind v)

theorem IsInteger.readsExactly (ht : t.IsInteger) : t.ReadsExactly where
  sound := by
    intro v x hx
    by_cases h : ∃ n, t.InRange n ∧ t.Denotes v n
    · obtain ⟨n, hn, hdenotes⟩ := h
      obtain ⟨y, hy, hint⟩ := decode_of_denotes hdenotes hn
      obtain rfl : x = y := Except.ok.inj (hx.symm.trans hy)
      exact ⟨n, hint, hn, hdenotes⟩
    · have herror := decode_of_not_denotes ht fun n hn hdenotes => h ⟨n, hn, hdenotes⟩
      rw [hx] at herror
      exact absurd herror nofun
  complete := decode_of_denotes
  refused := decode_of_not_denotes ht

/-! ## Lists -/

/-- What it means that a list type is read item by item. -/
structure ReadsItems (item : ScalarType) : Prop where
  /-- A value is accepted if it is an array and all its elements are accepted. -/
  accepted : ∀ v, (∃ xs, (list item).decode v = .ok xs) ↔ ∃ vs, v = .array vs ∧ ∀ w ∈ vs, ∃ x, item.decode w = .ok x
  /-- The items are what is read of the elements, in their order. -/
  items : ∀ vs xs, (list item).decode (.array vs) = .ok xs ↔ List.Forall₂ (fun w x => item.decode w = .ok x) vs xs
  /-- The first element that is refused is what an array is refused for. -/
  refused : ∀ vs e, (list item).decode (.array vs) = .error e ↔
    ∃ before w after, vs = before ++ w :: after ∧ (∀ b ∈ before, (item.decode b).isOk = true) ∧ item.decode w = .error e
  /-- Nothing else is a list. -/
  other : ∀ v, (∀ vs, v ≠ .array vs) → (list item).decode v = .error (.expected "ARRAY" v)

theorem readsItems (item : ScalarType) : item.ReadsItems := by
  have hother (v : Value) (hv : ∀ vs, v ≠ .array vs) : (list item).decode v = .error (.expected "ARRAY" v) := by
    cases v with
    | array vs => exact absurd rfl (hv vs)
    | _ => rfl
  refine ⟨fun v => ⟨?_, ?_⟩, fun vs xs => mapM_eq_ok, fun vs e => mapM_eq_error_iff, hother⟩
  · rintro ⟨xs, hxs⟩
    by_cases hv : ∃ vs, v = .array vs
    · obtain ⟨vs, rfl⟩ := hv
      exact ⟨vs, rfl, fun w hw => exists_of_mapM_eq_ok hxs hw⟩
    · rw [hother v fun vs hvs => hv ⟨vs, hvs⟩] at hxs
      exact absurd hxs nofun
  · rintro ⟨vs, rfl, hvs⟩
    cases hread : vs.mapM item.decode with
    | ok xs => exact ⟨xs, hread⟩
    | error e =>
      obtain ⟨w, hw, herror⟩ := exists_of_mapM_eq_error hread
      obtain ⟨x, hx⟩ := hvs w hw
      rw [hx] at herror
      exact absurd herror nofun

/-! ## All scalars -/

/-- The types that are built from texts, integers, booleans, timestamps, dates, identifiers, values and lists of
them. -/
def IsExact : ScalarType → Prop
  | double => False
  | single => False
  | list item => item.IsExact
  | _ => True

theorem IsExact.holds (h : t.IsExact) (x : t.Carrier) : t.Holds x := by
  induction t with
  | double | single => exact h.elim
  | list item ih => exact fun y _ => ih h y
  | _ => trivial

/-- **Scalars are coded exactly.** What holds no doubles is read back from what it is stored as; an integer type is
read without changing a number; and a list is read item by item. -/
theorem coding_exact :
    (∀ t : ScalarType, t.IsExact → ∀ x : t.Carrier, t.decode (t.encode x) = .ok x) ∧
      (∀ t : ScalarType, t.IsInteger → t.ReadsExactly) ∧ ∀ item : ScalarType, item.ReadsItems :=
  ⟨fun t ht x => t.decode_encode (ht.holds x), fun _ ht => ht.readsExactly, readsItems⟩

/-- At the limits: the largest natural number comes back from inside of lists and is read from a text with a sign, the
double `-2 ^ 63` is a signed integer, and the double `2 ^ 63` is no integer of any type. -/
theorem coding_exact_limits :
    (list (list uint64)).decode ((list (list uint64)).encode [[18446744073709551615, 0], []]) =
        .ok [[18446744073709551615, 0], []] ∧
      (∃ x, uint64.decode (.text "+18446744073709551615") = .ok x ∧ uint64.toInt? x = some (2 ^ 64 - 1)) ∧
      (∃ x, int64.decode (.float (-9223372036854775808.0)) = .ok x ∧ int64.toInt? x = some (-2 ^ 63)) ∧
      uint64.decode (.float 9223372036854775808.0) =
        .error (.expected "INTEGER (u64)" (.float 9223372036854775808.0)) ∧
      ∃ xs, (list int32).decode (.array [.integer 7, .float 2.0]) = .ok xs := by
  obtain ⟨hcomesBack, hintegers, hlists⟩ := coding_exact
  refine ⟨hcomesBack (list (list uint64)) trivial [[18446744073709551615, 0], []], ?_, ?_, ?_, ?_⟩
  · have hwrites : WritesNatural "+18446744073709551615".toList (18446744073709551615 : UInt64).toNat :=
      readUInt64_eq_ok_iff.mp (by decide)
    exact (hintegers uint64 trivial).complete (.text rfl hwrites) ⟨by decide, by decide⟩
  · exact (hintegers int64 trivial).complete (.number (Value.hasInteger_float_iff.mpr (by decide)))
      ⟨by decide, by decide⟩
  · refine (hintegers uint64 trivial).refused fun n _ hdenotes => ?_
    cases hdenotes with
    | number has =>
      obtain ⟨hn, -, hhigh⟩ := Value.hasInteger_float_iff.mp has
      have hvalue : exactInteger? 9223372036854775808.0 = some (2 ^ 63) := by decide
      exact absurd (Option.some.inj (hn.symm.trans hvalue)) (Int.ne_of_lt hhigh)
  · refine ((hlists int32).accepted _).mpr ⟨_, rfl, ?_⟩
    simp only [List.forall_mem_cons, List.not_mem_nil, false_imp_iff, implies_true, and_true]
    exact ⟨⟨7, rfl⟩, ⟨2, rfl⟩⟩

end ScalarType
end EntityMapping
