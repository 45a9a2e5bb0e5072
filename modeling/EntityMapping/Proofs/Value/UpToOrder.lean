import EntityMapping.Proofs.Number.Order
import EntityMapping.Proofs.Value.NamesOnce

/-!
# Equality up to the order of fields

The search for equal fields goes from one record into the other one only. As long as no name is repeated, in the
records or inside, this is no matter: the fields of one record are those of the other one in another order, up to
equality of the values. Then equality is a relation as one expects it to be, but for the numbers that are none.

* `Fields.Rearranged`, `Value.Alike` — the same up to the order of fields, in one record and at all depths
* `Value.eqvRecord_iff_rel` — equal records hold equal values under each name
* `Value.eqv_iff_alike`, `Value.eqv_trans`, `Value.eqv_self_iff` — equality of values
* `Value.eqv_isUpToOrder` — all that equality is, and what keeps it
-/

namespace EntityMapping

/-! ## Items one by one -/

section Lists

variable {α β : Type}

/-- Lists are related item by item if they are by a relation that is the same on their items. -/
theorem forall₂_congr_of_mem {R S : α → β → Prop} {as : List α} {bs : List β}
    (h : ∀ a ∈ as, ∀ b ∈ bs, (R a b ↔ S a b)) : List.Forall₂ R as bs ↔ List.Forall₂ S as bs := by
  induction as generalizing bs with
  | nil => rw [List.forall₂_nil_left_iff, List.forall₂_nil_left_iff]
  | cons a as ih =>
    cases bs with
    | nil => exact iff_of_false nofun nofun
    | cons b bs =>
      rw [List.forall₂_cons, List.forall₂_cons, h a List.mem_cons_self b List.mem_cons_self,
        ih fun a ha b hb => h a (List.mem_cons_of_mem _ ha) b (List.mem_cons_of_mem _ hb)]

variable {R : α → α → Prop}

theorem forall₂_trans_of_mem {as bs cs : List α} (h : ∀ a ∈ as, ∀ b ∈ bs, ∀ c ∈ cs, R a b → R b c → R a c)
    (hab : List.Forall₂ R as bs) (hbc : List.Forall₂ R bs cs) : List.Forall₂ R as cs := by
  induction hab generalizing cs with
  | nil => exact hbc
  | @cons a b as bs hab _ ih =>
    cases hbc with
    | @cons _ c _ cs hbc hrest =>
      refine .cons (h a (by simp) b (by simp) c (by simp) hab hbc) (ih ?_ hrest)
      exact fun a ha b hb c hc => h a (by simp [ha]) b (by simp [hb]) c (by simp [hc])

theorem optionRel_iff {o p : Option α} :
    Option.Rel R o p ↔ (o.isSome = true ↔ p.isSome = true) ∧ ∀ v w, o = some v → p = some w → R v w := by
  cases o with
  | none => cases p <;> simp [Option.rel_none_none, Option.not_rel_none_some]
  | some v => cases p <;> simp [Option.rel_some_some, Option.not_rel_some_none]

theorem optionRel_trans {o p q : Option α} (h : ∀ u ∈ o, ∀ v ∈ p, ∀ w ∈ q, R u v → R v w → R u w)
    (hop : Option.Rel R o p) (hpq : Option.Rel R p q) : Option.Rel R o q := by
  cases hop with
  | none => exact hpq
  | some huv =>
    cases hpq with
    | some hvw => exact .some (h _ rfl _ rfl _ rfl huv hvw)

theorem optionRel_or {o o' p p' : Option α} (h : Option.Rel R o p) (h' : Option.Rel R o' p') :
    Option.Rel R (o.or o') (p.or p') := by
  cases h with
  | none => exact h'
  | some h => exact .some h

end Lists

/-! ## Lists of fields -/

namespace Fields

variable {V : Type} {fs gs hs : List (String × V)} {R : V → V → Prop}

/-- Whether the second of two lists of fields can be put in an order in which it has the names of the first one, and
values that are related to those of the first one. -/
def Rearranged (R : V → V → Prop) (fs gs : List (String × V)) : Prop :=
  ∃ hs : List (String × V), hs.Perm gs ∧ fs.map Prod.fst = hs.map Prod.fst ∧
    List.Forall₂ R (fs.map Prod.snd) (hs.map Prod.snd)

/-- Lists with the same names hold related things under each of them if their values are related one by one. -/
theorem rel_get?_of_forall₂ (hnames : fs.map Prod.fst = hs.map Prod.fst)
    (hvalues : List.Forall₂ R (fs.map Prod.snd) (hs.map Prod.snd)) (name : String) :
    Option.Rel R (get? name fs) (get? name hs) := by
  induction fs generalizing hs with
  | nil =>
    cases hs with
    | nil => exact .none
    | cons h hs => cases hnames
  | cons f fs ih =>
    cases hs with
    | nil => cases hnames
    | cons h hs =>
      obtain ⟨hname, hnames⟩ := List.cons.inj hnames
      obtain ⟨hvalue, hvalues⟩ := List.forall₂_cons.mp hvalues
      rw [get?, get?, ← hname]
      split
      · exact .some hvalue
      · exact ih hnames hvalues

/-- Lists of fields hold related things under each name if they have the same names, and related values under these. -/
theorem forall_rel_get?_iff :
    (∀ name, Option.Rel R (get? name fs) (get? name gs)) ↔
      (∀ name, name ∈ fs.map Prod.fst ↔ name ∈ gs.map Prod.fst) ∧
        ∀ name v w, get? name fs = some v → get? name gs = some w → R v w := by
  simp only [optionRel_iff, isSome_get?_iff, forall_and]

/-- Without repeated names, fields can be rearranged exactly if what is found under each name is related. -/
theorem rearranged_iff (hfs : (fs.map Prod.fst).Nodup) (hgs : (gs.map Prod.fst).Nodup) :
    Rearranged R fs gs ↔ ∀ name, Option.Rel R (get? name fs) (get? name gs) := by
  constructor
  · rintro ⟨hs, hperm, hnames, hvalues⟩ name
    rw [← get?_of_perm (hnames ▸ hfs) hperm name]
    exact rel_get?_of_forall₂ hnames hvalues name
  · intro h
    -- each field of the first list gets what the second list has under its name
    let partner (f : String × V) : String × V := (f.1, (get? f.1 gs).getD f.2)
    have hpartner : ∀ f ∈ fs, partner f ∈ gs ∧ R f.2 (partner f).2 := by
      intro f hf
      have hrel := h f.1
      rw [get?_of_mem hfs hf] at hrel
      cases hget : get? f.1 gs with
      | none => rw [hget] at hrel; cases hrel
      | some w =>
        rw [hget] at hrel
        cases hrel with
        | some hR => simpa [partner, hget] using ⟨mem_of_get? hget, hR⟩
    have hnames : (fs.map partner).map Prod.fst = fs.map Prod.fst := by simp [partner]
    refine ⟨fs.map partner, ?_, hnames.symm, ?_⟩
    · refine (List.perm_ext_iff_of_nodup (.of_map _ (hnames ▸ hfs)) (.of_map _ hgs)).mpr fun g => ?_
      rw [List.mem_map]
      constructor
      · rintro ⟨f, hf, rfl⟩
        exact (hpartner f hf).1
      · intro hg
        have hrel := h g.1
        rw [get?_of_mem hgs hg] at hrel
        cases hget : get? g.1 fs with
        | none => rw [hget] at hrel; cases hrel
        | some v => exact ⟨(g.1, v), mem_of_get? hget, by simp [partner, get?_of_mem hgs hg]⟩
    · rw [List.map_map, List.forall₂_map_left_iff, List.forall₂_map_right_iff]
      exact List.forall₂_same.mpr fun f hf => (hpartner f hf).2

end Fields

/-! ## Lists of values -/

theorem eqvItems_iff {as bs : List Value} :
    eqvItems as bs = true ↔ List.Forall₂ (fun a b => a.eqv b = true) as bs := by
  induction as generalizing bs with
  | nil => cases bs <;> simp [eqvItems]
  | cons a as ih =>
    cases bs with
    | nil => simp [eqvItems]
    | cons b bs => rw [eqvItems, Bool.and_eq_true, ih, List.forall₂_cons]

theorem eqvRecords_iff {as bs : List Record} :
    eqvRecords as bs = true ↔ List.Forall₂ (fun a b => eqvRecord a b = true) as bs := by
  induction as generalizing bs with
  | nil => cases bs <;> simp [eqvRecords]
  | cons a as ih =>
    cases bs with
    | nil => simp [eqvRecords]
    | cons b bs => rw [eqvRecords, Bool.and_eq_true, ih, List.forall₂_cons]

namespace Value

/-! ## Values up to the order of fields -/

/-- Whether two values are the same up to the order of the fields of records, in the values and inside. Doubles are
compared as numbers. -/
inductive Alike : Value → Value → Prop
  | float {x y : Float} (h : x.beq y = true) : Alike (.float x) (.float y)
  | plain {v : Value} (h : v.isPlain = true) (hfloat : ∀ x, v ≠ .float x) : Alike v v
  | array {as bs : List Value} (h : List.Forall₂ Alike as bs) : Alike (.array as) (.array bs)
  | record {name : String} {fs gs hs : List (String × Value)} (hperm : hs.Perm gs)
      (hnames : fs.map Prod.fst = hs.map Prod.fst)
      (hvalues : List.Forall₂ Alike (fs.map Prod.snd) (hs.map Prod.snd)) :
      Alike (.record ⟨name, fs⟩) (.record ⟨name, gs⟩)
  | records {rs ss : List Record} (h : List.Forall₂ Alike (rs.map .record) (ss.map .record)) :
      Alike (.records rs) (.records ss)

variable {a b c : Record}

theorem alike_record_iff :
    Alike (.record a) (.record b) ↔ a.name = b.name ∧ Fields.Rearranged Alike a.fields b.fields := by
  constructor
  · intro h
    cases h with
    | plain h => cases h
    | record hperm hnames hvalues => exact ⟨rfl, _, hperm, hnames, hvalues⟩
  · obtain ⟨name, fs⟩ := a
    obtain ⟨name', gs⟩ := b
    rintro ⟨rfl, hs, hperm, hnames, hvalues⟩
    exact .record hperm hnames hvalues

theorem alike_array_iff {as bs : List Value} : Alike (.array as) (.array bs) ↔ List.Forall₂ Alike as bs := by
  refine ⟨fun h => ?_, .array⟩
  cases h with
  | plain h => cases h
  | array h => exact h

theorem alike_records_iff {rs ss : List Record} :
    Alike (.records rs) (.records ss) ↔ List.Forall₂ (fun r s => Alike (.record r) (.record s)) rs ss := by
  constructor
  · intro h
    cases h with
    | plain h => cases h
    | records h => rwa [List.forall₂_map_left_iff, List.forall₂_map_right_iff] at h
  · intro h
    refine .records ?_
    rwa [List.forall₂_map_left_iff, List.forall₂_map_right_iff]

theorem NamesOnce.of_get? (h : NamesOnce (.record a)) {name : String} {v : Value} (hv : a.get? name = some v) :
    v.NamesOnce :=
  (namesOnce_record_iff.mp h).2 _ (Fields.mem_of_get? hv)

/-- Records are equal if they have the same name, and equal values, or none, under each name. -/
theorem eqvRecord_iff_rel (ha : NamesOnce (.record a)) (hb : NamesOnce (.record b)) :
    eqvRecord a b = true ↔
      a.name = b.name ∧ ∀ name, Option.Rel (fun v w => v.eqv w = true) (a.get? name) (b.get? name) := by
  rw [eqvRecord_iff_of_nodup (namesOnce_record_iff.mp ha).1 (namesOnce_record_iff.mp hb).1]
  refine and_congr_right fun _ => Iff.trans ?_ Fields.forall_rel_get?_iff.symm
  refine and_congr_right fun _ => forall₃_congr fun name v w => forall₂_congr fun hv hw => ?_
  rw [eqv_comm (ha.of_get? hv) (hb.of_get? hw)]

/-- Records are equal if one is the other one rearranged, up to equality of the values. -/
theorem eqvRecord_iff_rearranged (ha : NamesOnce (.record a)) (hb : NamesOnce (.record b)) :
    eqvRecord a b = true ↔
      a.name = b.name ∧ Fields.Rearranged (fun v w => v.eqv w = true) a.fields b.fields := by
  rw [eqvRecord_iff_rel ha hb,
    Fields.rearranged_iff (namesOnce_record_iff.mp ha).1 (namesOnce_record_iff.mp hb).1]
  rfl

/-- Plain values are equal if they are the same, unless they are doubles. -/
theorem eqv_iff_eq {v w : Value} (h : v.isPlain = true) (hfloat : ∀ x, v ≠ .float x) : v.eqv w = true ↔ v = w := by
  cases v with
  | array | record | records => cases h
  | float x => exact absurd rfl (hfloat x)
  | _ => cases w <;> simp [eqv]

theorem eqv_iff_alike_of_isPlain {v w : Value} (h : v.isPlain = true) : v.eqv w = true ↔ v.Alike w := by
  by_cases hfloat : ∃ x, v = .float x
  · obtain ⟨x, rfl⟩ := hfloat
    constructor
    · intro heq
      cases w with
      | float y =>
        rw [eqv] at heq
        exact .float heq
      | _ => simp [eqv] at heq
    · intro halike
      cases halike with
      | float heq => rwa [eqv]
      | plain _ hne => exact absurd rfl (hne x)
  · have hfloat : ∀ x, v ≠ .float x := fun x hx => hfloat ⟨x, hx⟩
    rw [eqv_iff_eq h hfloat]
    constructor
    · rintro rfl
      exact .plain h hfloat
    · intro halike
      cases halike with
      | float => exact absurd rfl (hfloat _)
      | plain => rfl
      | array | record | records => cases h

/-- Values are equal if they are the same up to the order of fields. -/
theorem eqv_iff_alike {v w : Value} (hv : v.NamesOnce) (hw : w.NamesOnce) : v.eqv w = true ↔ v.Alike w := by
  induction hv generalizing w with
  | plain h => exact eqv_iff_alike_of_isPlain h
  | @array as h ih =>
    cases w with
    | array bs =>
      rw [namesOnce_array_iff] at hw
      rw [eqv, eqvItems_iff, alike_array_iff]
      exact forall₂_congr_of_mem fun a ha b hb => ih a ha (hw b hb)
    | _ =>
      refine iff_of_false (by simp [eqv]) ?_
      intro halike
      cases halike
  | @record a hnames h ih =>
    cases w with
    | record b =>
      have hb : b.names.Nodup := (namesOnce_record_iff.mp hw).1
      rw [eqv, eqvRecord_iff_rearranged (.record hnames h) hw, alike_record_iff, Fields.rearranged_iff hnames hb,
        Fields.rearranged_iff hnames hb]
      simp only [Fields.forall_rel_get?_iff]
      refine and_congr_right fun _ => and_congr_right fun _ => ?_
      refine forall₃_congr fun name v w => forall₂_congr fun hv hw' => ?_
      exact ih (name, v) (Fields.mem_of_get? hv) (hw.of_get? hw')
    | _ =>
      refine iff_of_false (by simp [eqv]) ?_
      intro halike
      cases halike
  | @records rs h ih =>
    cases w with
    | records ss =>
      rw [namesOnce_records_iff] at hw
      rw [eqv, eqvRecords_iff, alike_records_iff]
      refine forall₂_congr_of_mem fun r hr s hs => ?_
      rw [← ih r hr (hw s hs), eqv]
    | _ =>
      refine iff_of_false (by simp [eqv]) ?_
      intro halike
      cases halike

/-! ## Equality as a relation -/

/-- Equality can be chained where no name is repeated. -/
theorem eqv_trans {u v w : Value} (hu : u.NamesOnce) (hv : v.NamesOnce) (hw : w.NamesOnce) (huv : u.eqv v = true)
    (hvw : v.eqv w = true) : u.eqv w = true := by
  induction hu generalizing v w with
  | plain h => exact eqv_trans_of_isPlain h huv hvw
  | @array as h ih =>
    cases v with
    | array bs =>
      cases w with
      | array cs =>
        rw [namesOnce_array_iff] at hv hw
        rw [eqv, eqvItems_iff] at huv hvw ⊢
        exact forall₂_trans_of_mem (fun a ha b hb c hc => ih a ha (hv b hb) (hw c hc)) huv hvw
      | _ => simp [eqv] at hvw
    | _ => simp [eqv] at huv
  | @record a hnames h ih =>
    cases v with
    | record b =>
      cases w with
      | record c =>
        have ha : NamesOnce (.record a) := .record hnames h
        rw [eqv] at huv hvw ⊢
        obtain ⟨hab, huv⟩ := (eqvRecord_iff_rel ha hv).mp huv
        obtain ⟨hbc, hvw⟩ := (eqvRecord_iff_rel hv hw).mp hvw
        refine (eqvRecord_iff_rel ha hw).mpr ⟨hab.trans hbc, fun name => optionRel_trans ?_ (huv name) (hvw name)⟩
        exact fun x hx y hy z hz => ih (name, x) (Fields.mem_of_get? hx) (hv.of_get? hy) (hw.of_get? hz)
      | _ => simp [eqv] at hvw
    | _ => simp [eqv] at huv
  | @records rs h ih =>
    cases v with
    | records ss =>
      cases w with
      | records ts =>
        rw [namesOnce_records_iff] at hv hw
        rw [eqv, eqvRecords_iff] at huv hvw ⊢
        refine forall₂_trans_of_mem (fun r hr s hs t ht hrs hst => ?_) huv hvw
        simpa [eqv] using ih r hr (hv s hs) (hw t ht) (by simpa [eqv] using hrs) (by simpa [eqv] using hst)
      | _ => simp [eqv] at hvw
    | _ => simp [eqv] at huv

/-- A double equals itself unless it is no number. -/
theorem beq_self_iff (x : Float) : x.beq x = true ↔ x.isNaN = false := by
  rw [Bool.eq_false_iff, Ne, isNaN_iff]
  refine (unpacked_beq_iff _ _).trans ?_
  simp

/-- A value equals itself exactly if the doubles inside are numbers. -/
theorem eqv_self_iff {v : Value} (h : v.NamesOnce) : v.eqv v = true ↔ ∀ x ∈ v.floats, x.isNaN = false := by
  induction h with
  | @plain v h =>
    cases v with
    | array | record | records => cases h
    | float x => rw [eqv, beq_self_iff]; simp [floats]
    | _ => simp [eqv, floats]
  | @array items h ih =>
    rw [eqv, eqvItems_iff, List.forall₂_same, floats]
    simp only [mem_itemsFloats]
    constructor
    · rintro hself x ⟨v, hv, hx⟩
      exact (ih v hv).mp (hself v hv) x hx
    · intro hfloats v hv
      exact (ih v hv).mpr fun x hx => hfloats x ⟨v, hv, hx⟩
  | @record r hnames h ih =>
    have hr : NamesOnce (.record r) := .record hnames h
    have hfields : recordFloats r = fieldsFloats r.fields := by
      cases r
      rw [recordFloats]
    rw [eqv, eqvRecord_iff_rel hr hr, floats, hfields]
    simp only [mem_fieldsFloats]
    constructor
    · rintro ⟨-, hself⟩ x ⟨f, hf, hx⟩
      have hrel := hself f.1
      rw [RecordOf.get?, Fields.get?_of_mem hnames hf] at hrel
      cases hrel with
      | some heq => exact (ih f hf).mp heq x hx
    · refine fun hfloats => ⟨trivial, fun name => ?_⟩
      cases hv : r.get? name with
      | none => exact .none
      | some v =>
        have hf := Fields.mem_of_get? hv
        exact .some ((ih _ hf).mpr fun x hx => hfloats x ⟨_, hf, hx⟩)
  | @records rs h ih =>
    rw [eqv, eqvRecords_iff, List.forall₂_same, floats]
    simp only [mem_recordsFloats]
    simp only [eqv, floats] at ih
    constructor
    · rintro hself x ⟨r, hr, hx⟩
      exact (ih r hr).mp (hself r hr) x hx
    · intro hfloats r hr
      exact (ih r hr).mpr fun x hx => hfloats x ⟨r, hr, hx⟩

/-! ## Equality after operations -/

section Operations

variable {v w : Value} {c d : Record}

theorem NamesOnce.add (ha : NamesOnce (.record a)) (hv : v.NamesOnce) (name : String) :
    NamesOnce (.record (a.add name v)) :=
  @NamesOnce.step a ha (.add name v) (List.forall_mem_singleton.mpr hv)

theorem NamesOnce.remove (ha : NamesOnce (.record a)) (name : String) : NamesOnce (.record (a.remove name)) :=
  @NamesOnce.step a ha (.remove name) (List.forall_mem_nil _)

theorem NamesOnce.splice (ha : NamesOnce (.record a)) (hc : NamesOnce (.record c)) :
    NamesOnce (.record (a.splice c)) :=
  @NamesOnce.step a ha (.splice c) (List.forall_mem_singleton.mpr hc)

theorem eqvRecord_add (ha : NamesOnce (.record a)) (hb : NamesOnce (.record b)) (hv : v.NamesOnce) (hw : w.NamesOnce)
    (h : eqvRecord a b = true) (hvw : v.eqv w = true) (name : String) :
    eqvRecord (a.add name v) (b.add name w) = true := by
  obtain ⟨hname, hrel⟩ := (eqvRecord_iff_rel ha hb).mp h
  refine (eqvRecord_iff_rel (ha.add hv name) (hb.add hw name)).mpr ⟨hname, fun key => ?_⟩
  rw [RecordOf.get?_add, RecordOf.get?_add]
  split
  · exact .some hvw
  · exact hrel key

theorem eqvRecord_remove (ha : NamesOnce (.record a)) (hb : NamesOnce (.record b)) (h : eqvRecord a b = true)
    (name : String) : eqvRecord (a.remove name) (b.remove name) = true := by
  obtain ⟨hname, hrel⟩ := (eqvRecord_iff_rel ha hb).mp h
  refine (eqvRecord_iff_rel (ha.remove name) (hb.remove name)).mpr ⟨hname, fun key => ?_⟩
  rw [RecordOf.get?_remove (namesOnce_record_iff.mp ha).1, RecordOf.get?_remove (namesOnce_record_iff.mp hb).1]
  split
  · exact .none
  · exact hrel key

theorem eqvRecord_splice (ha : NamesOnce (.record a)) (hb : NamesOnce (.record b)) (hc : NamesOnce (.record c))
    (hd : NamesOnce (.record d)) (h : eqvRecord a b = true) (h' : eqvRecord c d = true) :
    eqvRecord (a.splice c) (b.splice d) = true := by
  obtain ⟨hname, hrel⟩ := (eqvRecord_iff_rel ha hb).mp h
  obtain ⟨-, hrel'⟩ := (eqvRecord_iff_rel hc hd).mp h'
  refine (eqvRecord_iff_rel (ha.splice hc) (hb.splice hd)).mpr ⟨hname, fun key => ?_⟩
  have hget {r s : Record} (hs : NamesOnce (.record s)) : (r.splice s).get? key = (s.get? key).or (r.get? key) :=
    Fields.get?_addAll_of_nodup (namesOnce_record_iff.mp hs).1
  rw [hget hc, hget hd]
  exact optionRel_or (hrel' key) (hrel key)

end Operations

/-- Whether equality of the values with a property is equality up to the order of fields. -/
structure IsUpToOrder (p : Value → Prop) : Prop where
  /-- Records are equal if they have the same name, and the fields of the one can be put in the order of the other one's
  so that equal values stand under equal names. -/
  record_iff : ∀ a b : Record, p (.record a) → p (.record b) →
    (a.eqv b = true ↔ a.name = b.name ∧ Fields.Rearranged (fun v w => v.eqv w = true) a.fields b.fields)
  /-- The same holds of the records inside, at all depths. -/
  iff_alike : ∀ v w, p v → p w → (v.eqv w = true ↔ v.Alike w)
  symm : ∀ v w, p v → p w → v.eqv w = true → w.eqv v = true
  trans : ∀ u v w, p u → p v → p w → u.eqv v = true → v.eqv w = true → u.eqv w = true
  /-- Only what holds a number that is none differs from itself. -/
  refl_iff : ∀ v, p v → (v.eqv v = true ↔ ∀ x ∈ v.floats, x.isNaN = false)
  /-- What is done to equal records with equal things leaves equal records. -/
  add : ∀ (a b : Record) (name : String) (v w : Value), p (.record a) → p (.record b) → p v → p w →
    a.eqv b = true → v.eqv w = true → (a.add name v).eqv (b.add name w) = true
  remove : ∀ (a b : Record) (name : String), p (.record a) → p (.record b) →
    a.eqv b = true → (a.remove name).eqv (b.remove name) = true
  splice : ∀ a b c d : Record, p (.record a) → p (.record b) → p (.record c) → p (.record d) →
    a.eqv b = true → c.eqv d = true → (a.splice c).eqv (b.splice d) = true

/-- **Where no name is repeated, equality is equality up to the order of fields.** -/
theorem eqv_isUpToOrder : IsUpToOrder NamesOnce where
  record_iff _ _ ha hb := eqvRecord_iff_rearranged ha hb
  iff_alike _ _ hv hw := eqv_iff_alike hv hw
  symm _ _ hv hw h := (eqv_comm hv hw).symm.trans h
  trans _ _ _ hu hv hw := eqv_trans hu hv hw
  refl_iff _ hv := eqv_self_iff hv
  add _ _ name _ _ ha hb hv hw h hvw := eqvRecord_add ha hb hv hw h hvw name
  remove _ _ name ha hb h := eqvRecord_remove ha hb h name
  splice _ _ _ _ ha hb hc hd h h' := eqvRecord_splice ha hb hc hd h h'

/-- A person whose parcels have a weight. -/
def person (weight : Float) : Record :=
  ⟨"Person", [("name", .text "Ada"),
    ("parcels", .records [⟨"Parcel", [("to", .text "Bob"), ("weight", .float weight)]⟩])]⟩

/-- The same person with all fields in another order. -/
def turnedPerson (weight : Float) : Record :=
  ⟨"Person", [("parcels", .records [⟨"Parcel", [("weight", .float weight), ("to", .text "Bob")]⟩]),
    ("name", .text "Ada")]⟩

theorem namesOnce_person (weight : Float) :
    NamesOnce (.record (person weight)) ∧ NamesOnce (.record (turnedPerson weight)) := by
  have hbob : NamesOnce (.text "Bob") := .plain rfl
  have hweight : NamesOnce (.float weight) := .plain rfl
  constructor
  · refine .record (by simp [person, RecordOf.names]) (List.forall_mem_cons.mpr ⟨.plain rfl, ?_⟩)
    refine List.forall_mem_singleton.mpr (.records (List.forall_mem_singleton.mpr ?_))
    exact .record (by simp [RecordOf.names]) (by simpa using ⟨hbob, hweight⟩)
  · refine .record (by simp [turnedPerson, RecordOf.names]) (List.forall_mem_cons.mpr ⟨?_, ?_⟩)
    · refine .records (List.forall_mem_singleton.mpr ?_)
      exact .record (by simp [RecordOf.names]) (by simpa using ⟨hweight, hbob⟩)
    · exact List.forall_mem_singleton.mpr (.plain rfl)

/-- The two zeros are equal, so the persons are, from both sides. A person with a weight that is no number differs from
itself. -/
theorem eqv_isUpToOrder_person :
    (person 0).eqv (turnedPerson (-0)) = true ∧ (turnedPerson (-0)).eqv (person 0) = true ∧
      ((person 0).remove "name").eqv ((turnedPerson (-0)).remove "name") = true ∧
      eqv (.record (person (0 / 0))) (.record (person (0 / 0))) = false := by
  obtain ⟨hperson, -⟩ := namesOnce_person 0
  obtain ⟨-, hturned⟩ := namesOnce_person (-0)
  have hzero : Alike (.float 0) (.float (-0)) := .float (by decide)
  have hparcel : Alike (.record ⟨"Parcel", [("to", .text "Bob"), ("weight", .float 0)]⟩)
      (.record ⟨"Parcel", [("weight", .float (-0)), ("to", .text "Bob")]⟩) :=
    .record (.swap _ _ _) rfl (.cons (.plain rfl nofun) (.cons hzero .nil))
  have halike : Alike (.record (person 0)) (.record (turnedPerson (-0))) :=
    .record (.swap _ _ _) rfl (.cons (.plain rfl nofun) (.cons (.records (.cons hparcel .nil)) .nil))
  have heqv := (eqv_isUpToOrder.iff_alike _ _ hperson hturned).mpr halike
  have hback := eqv_isUpToOrder.symm _ _ hperson hturned heqv
  rw [eqv] at heqv hback
  refine ⟨heqv, hback, eqv_isUpToOrder.remove _ _ "name" hperson hturned heqv, ?_⟩
  rw [Bool.eq_false_iff, Ne, eqv_isUpToOrder.refl_iff _ (namesOnce_person (0 / 0)).1]
  intro hnumbers
  exact absurd (hnumbers (0 / 0) (by simp [person, floats, recordFloats, fieldsFloats, recordsFloats])) (by decide)

end Value
end EntityMapping
