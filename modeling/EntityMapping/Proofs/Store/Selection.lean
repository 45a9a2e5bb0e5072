import EntityMapping.Proofs.Store.Deletion
import EntityMapping.Proofs.Store.SortKeys

/-!
# What a selection shows

A selection takes the records of a name that meet its condition, puts them in the order of its sorts, and shows a part
of what it then has. Records that no sort tells apart stay in the order of their insertion, so the result is known if
all the values of each sort are of one kind.

* `Value.Below`, `Ahead` — the order of values and of records, by what is less
* `compareRecords_eq_lt_iff`, `compareRecords_eq_eq_iff` — the comparison of records decides it
* `insertionSort_stable`, `insertionSort_map` — a sort keeps the order of what is equal, and looks at nothing else
* `Arranged` — rows in the order of some sorts, and otherwise of their positions
* `Store.select_arranged` — what a selection shows
-/

namespace EntityMapping

/-! ## The order of values -/

theorem compareDoubles_eq_lt_iff {x y : Float} : compareDoubles x y = .lt ↔ x < y := by
  unfold compareDoubles
  split
  · next hless => exact iff_of_true rfl hless
  · next hless =>
    refine iff_of_false ?_ hless
    split <;> decide

namespace Value

/-- Whether a value is less than another one of its kind. Numbers of both kinds are doubles. -/
inductive Below : Value → Value → Prop
  | text {a b : String} (less : a < b) : Below (.text a) (.text b)
  | boolean : Below (.boolean false) (.boolean true)
  | timestamp {a b : Timestamp} (less : a.compare b = .lt) : Below (.timestamp a) (.timestamp b)
  | date {a b : Date} (less : a.compare b = .lt) : Below (.date a) (.date b)
  | uuid {a b : Uuid} (less : a.compare b = .lt) : Below (.uuid a) (.uuid b)
  | number {v w : Value} {x y : Float} (left : v.asDouble? = some x) (right : w.asDouble? = some y) (less : x < y) :
      Below v w

/-- The same for values that may be missing. What is missing is less than what is there. -/
inductive BelowMissing : Option Value → Option Value → Prop
  | missing (w : Value) : BelowMissing none (some w)
  | held {v w : Value} (less : v.Below w) : BelowMissing (some v) (some w)

theorem compare_eq_lt_iff {v w : Value} : v.compare w = .lt ↔ v.Below w := by
  constructor
  · intro h
    cases v <;> cases w
    case text.text => exact .text (compare_lt_iff_lt.mp h)
    case boolean.boolean a b =>
      cases a <;> cases b
      case false.true => exact .boolean
      all_goals simp [compare] at h
    case timestamp.timestamp => exact .timestamp h
    case date.date => exact .date h
    case uuid.uuid => exact .uuid h
    case integer.integer | integer.float | float.integer | float.float =>
      exact .number rfl rfl (compareDoubles_eq_lt_iff.mp h)
    -- all other pairs are equal
    all_goals cases h
  · rintro (hless | _ | hless | hless | hless | ⟨hv, hw, hless⟩)
    case text => exact compare_lt_iff_lt.mpr hless
    case boolean => rfl
    case number => rw [compare_of_asDouble? hv hw, compareDoubles_eq_lt_iff.mpr hless]
    all_goals exact hless

theorem compareMissing_eq_lt_iff {v w : Option Value} : compareMissing v w = .lt ↔ BelowMissing v w := by
  constructor
  · intro h
    match v, w with
    | none, none => cases h
    | none, some w => exact .missing w
    | some v, none => cases h
    | some v, some w => exact .held (compare_eq_lt_iff.mp h)
  · rintro (_ | hless)
    · rfl
    · exact compare_eq_lt_iff.mpr hless

end Value

/-! ## The order of records -/

/-- Whether something comes before something else in a direction, where both may be missing. -/
def Direction.Before : Direction → Option Value → Option Value → Prop
  | asc, v, w => Value.BelowMissing v w
  | desc, v, w => Value.BelowMissing w v

/-- Whether neither of two records is less than the other one in what it holds under a name. -/
def Tied (name : String) (a b : Record) : Prop :=
  ¬ Value.BelowMissing (a.get? name) (b.get? name) ∧ ¬ Value.BelowMissing (b.get? name) (a.get? name)

/-- Whether a record comes before another one by the first sort that tells them apart. -/
def Ahead (sorts : List SortKey) (a b : Record) : Prop :=
  ∃ pre k post, sorts = pre ++ k :: post ∧ (∀ l ∈ pre, Tied l.property a b) ∧
    k.direction.Before (a.get? k.property) (b.get? k.property)

theorem orient_compareUnder_eq_lt_iff {d : Direction} {name : String} {a b : Record} :
    d.orient (compareUnder name a b) = .lt ↔ d.Before (a.get? name) (b.get? name) := by
  cases d with
  | asc => exact Value.compareMissing_eq_lt_iff
  | desc =>
    rw [Direction.orient, compareUnder, ← Value.compareMissing_swap]
    exact Value.compareMissing_eq_lt_iff

theorem compareUnder_eq_eq_iff {name : String} {a b : Record} : compareUnder name a b = .eq ↔ Tied name a b := by
  have hleft := Value.compareMissing_eq_lt_iff (v := a.get? name) (w := b.get? name)
  have hright := Value.compareMissing_eq_lt_iff (v := b.get? name) (w := a.get? name)
  rw [Value.compareMissing_swap] at hright
  rw [Tied, ← hleft, ← hright, compareUnder]
  cases Value.compareMissing (a.get? name) (b.get? name) <;> decide

theorem orient_eq_eq_iff {d : Direction} {o : Ordering} : d.orient o = .eq ↔ o = .eq := by
  cases d <;> cases o <;> decide

theorem ahead_cons_iff {k : SortKey} {ks : List SortKey} {a b : Record} :
    Ahead (k :: ks) a b ↔
      k.direction.Before (a.get? k.property) (b.get? k.property) ∨ Tied k.property a b ∧ Ahead ks a b := by
  constructor
  · rintro ⟨pre, l, post, hsorts, htied, hbefore⟩
    cases pre with
    | nil =>
      obtain ⟨rfl, rfl⟩ := List.cons.inj hsorts
      exact .inl hbefore
    | cons first pre =>
      obtain ⟨rfl, rfl⟩ := List.cons.inj hsorts
      obtain ⟨hfirst, hpre⟩ := List.forall_mem_cons.mp htied
      exact .inr ⟨hfirst, pre, l, post, rfl, hpre, hbefore⟩
  · rintro (hbefore | ⟨hfirst, pre, l, post, rfl, hpre, hbefore⟩)
    · exact ⟨[], k, ks, rfl, List.forall_mem_nil _, hbefore⟩
    · exact ⟨k :: pre, l, post, rfl, List.forall_mem_cons.mpr ⟨hfirst, hpre⟩, hbefore⟩

theorem compareRecords_eq_lt_iff {sorts : List SortKey} {a b : Record} :
    compareRecords a b sorts = .lt ↔ Ahead sorts a b := by
  induction sorts with
  | nil =>
    refine iff_of_false nofun ?_
    rintro ⟨pre, k, post, hsorts, -⟩
    exact List.append_ne_nil_of_right_ne_nil pre (List.cons_ne_nil k post) hsorts.symm
  | cons k ks ih =>
    rw [compareRecords_cons, Ordering.then_eq_lt, ahead_cons_iff, orient_compareUnder_eq_lt_iff, orient_eq_eq_iff,
      compareUnder_eq_eq_iff, ih]

theorem compareRecords_eq_eq_iff {sorts : List SortKey} {a b : Record} :
    compareRecords a b sorts = .eq ↔ ∀ k ∈ sorts, Tied k.property a b := by
  induction sorts with
  | nil => exact iff_of_true rfl (List.forall_mem_nil _)
  | cons k ks ih =>
    rw [compareRecords_cons, Ordering.then_eq_eq, orient_eq_eq_iff, compareUnder_eq_eq_iff, ih, List.forall_mem_cons]

/-- Of two records at most one is ahead of the other one, and only if they are not tied. -/
theorem Ahead.not_ahead {sorts : List SortKey} {a b : Record} (h : Ahead sorts a b) :
    ¬ Ahead sorts b a ∧ ¬ ∀ k ∈ sorts, Tied k.property b a := by
  rw [← compareRecords_eq_lt_iff, ← compareRecords_eq_eq_iff, compareRecords_swap, compareRecords_eq_lt_iff.mpr h]
  decide

/-! ## Sorts that keep the order of what is equal -/

section Sorts

variable {α β : Type}

/-- What is inserted behind everything that is not greater stays behind what was there before. -/
theorem insertDescending_stable {cmp : α → α → Ordering} {earlier : α → α → Prop} {x : α} {ys : List α}
    (hx : ∀ y ∈ ys, earlier y x) (hys : ys.Pairwise fun a b => cmp b a = .eq → earlier b a) :
    (insertDescending (fun a b => cmp a b = .lt) x ys).Pairwise fun a b => cmp b a = .eq → earlier b a := by
  induction ys with
  | nil => exact List.pairwise_singleton _ _
  | cons y ys ih =>
    obtain ⟨hfirst, hrest⟩ := List.pairwise_cons.mp hys
    obtain ⟨-, hxrest⟩ := List.forall_mem_cons.mp hx
    unfold insertDescending
    split
    · next hless =>
      refine List.pairwise_cons.mpr ⟨fun z hz => ?_, ih hxrest hrest⟩
      rcases List.mem_cons.mp ((perm_insertDescending _ x ys).mem_iff.mp hz) with rfl | hz
      · intro heq
        rw [of_decide_eq_true hless] at heq
        cases heq
      · exact hfirst z hz
    · exact List.pairwise_cons.mpr ⟨fun z hz _ => hx z hz, hys⟩

/-- A sort keeps the order of what is equal. -/
theorem insertionSort_stable {cmp : α → α → Ordering} {earlier : α → α → Prop} {xs : List α}
    (hxs : xs.Pairwise earlier) :
    (insertionSort (fun a b => cmp a b = .lt) xs).Pairwise fun a b => cmp a b = .eq → earlier a b := by
  have hfold (done xs : List α) (hdone : ∀ y ∈ done, ∀ x ∈ xs, earlier y x) (hxs : xs.Pairwise earlier)
      (hsorted : done.Pairwise fun a b => cmp b a = .eq → earlier b a) :
      (xs.foldl (fun sorted x => insertDescending (fun a b => cmp a b = .lt) x sorted) done).Pairwise
        fun a b => cmp b a = .eq → earlier b a := by
    induction xs generalizing done with
    | nil => exact hsorted
    | cons x xs ih =>
      obtain ⟨hx, hxs⟩ := List.pairwise_cons.mp hxs
      refine ih _ (fun y hy z hz => ?_) hxs
        (insertDescending_stable (fun y hy => hdone y hy x List.mem_cons_self) hsorted)
      rcases List.mem_cons.mp ((perm_insertDescending _ x done).mem_iff.mp hy) with rfl | hy
      · exact hx z hz
      · exact hdone y hy z (List.mem_cons_of_mem _ hz)
  exact List.pairwise_reverse.mpr (hfold [] xs (by simp) hxs .nil)

theorem insertDescending_map (f : α → β) (less : β → β → Bool) (x : α) (ys : List α) :
    insertDescending less (f x) (ys.map f) = (insertDescending (fun a b => less (f a) (f b)) x ys).map f := by
  induction ys with
  | nil => rfl
  | cons y ys ih =>
    rw [List.map_cons, insertDescending, insertDescending, ih]
    split <;> rfl

/-- A sort by something that items stand for does not look at the items. -/
theorem insertionSort_map (f : α → β) (less : β → β → Bool) (xs : List α) :
    insertionSort less (xs.map f) = (insertionSort (fun a b => less (f a) (f b)) xs).map f := by
  have hfold (done xs : List α) :
      (xs.map f).foldl (fun sorted x => insertDescending less x sorted) (done.map f) =
        (xs.foldl (fun sorted x => insertDescending (fun a b => less (f a) (f b)) x sorted) done).map f := by
    induction xs generalizing done with
    | nil => rfl
    | cons x xs ih => rw [List.map_cons, List.foldl_cons, List.foldl_cons, insertDescending_map, ih]
  have hall := hfold [] xs
  rw [insertionSort, insertionSort, List.map_reverse, ← hall]
  rfl

end Sorts

/-! ## Rows -/

/-- Whether rows, which are records with their positions, are put in the order of some sorts, and those that no sort
tells apart in the order of their positions. -/
structure Arranged (sorts : List SortKey) (rows arranged : List (Record × Nat)) : Prop where
  perm : arranged.Perm rows
  sorted : arranged.Pairwise fun a b =>
    Ahead sorts a.1 b.1 ∨ (∀ k ∈ sorts, Tied k.property a.1 b.1) ∧ a.2 < b.2

namespace Arranged

variable {sorts : List SortKey} {rows arranged arranged' : List (Record × Nat)}

/-- There is one way only to arrange rows. -/
theorem eq (h : Arranged sorts rows arranged) (h' : Arranged sorts rows arranged') : arranged = arranged' := by
  refine List.Perm.eq_of_pairwise (fun a b _ _ hab hba => ?_) h.sorted h'.sorted (h.perm.trans h'.perm.symm)
  exfalso
  rcases hab with hab | ⟨hab, hless⟩
  · obtain ⟨hnot, hnottied⟩ := hab.not_ahead
    exact hba.elim hnot fun hba => hnottied hba.1
  · rcases hba with hba | ⟨-, hless'⟩
    · exact hba.not_ahead.2 hab
    · omega

/-- Rows in the order of their positions are arranged by no sorts. -/
theorem of_nil (hrows : rows.Pairwise fun a b => a.2 < b.2) : Arranged [] rows rows where
  perm := .refl rows
  sorted := hrows.imp fun {_ _} hless => .inr ⟨List.forall_mem_nil _, hless⟩

/-- Sorting records arranges their rows, if the sorts can deal with the records. -/
theorem exists_sortRecords (hrows : rows.Pairwise fun a b => a.2 < b.2)
    (h : IsTotalPreorderOn (fun a b => compareRecords a b sorts) (· ∈ rows.map Prod.fst)) :
    ∃ arranged, Arranged sorts rows arranged ∧ sortRecords sorts (rows.map Prod.fst) = arranged.map Prod.fst := by
  cases sorts with
  | nil => exact ⟨rows, of_nil hrows, rfl⟩
  | cons k ks =>
    let cmp (a b : Record × Nat) : Ordering := compareRecords a.1 b.1 (k :: ks)
    refine ⟨insertionSort (fun a b => cmp a b = .lt) rows, ⟨perm_insertionSort _ rows, ?_⟩, ?_⟩
    · have horder := (h.comap Prod.fst).pairwise_insertionSort fun row hrow => List.mem_map_of_mem hrow
      have hstable : (insertionSort (fun a b => cmp a b = .lt) rows).Pairwise fun a b => cmp a b = .eq → a.2 < b.2 :=
        insertionSort_stable hrows
      refine (horder.and hstable).imp ?_
      rintro a b ⟨hle, hless⟩
      rcases Ordering.isLE_iff_eq_lt_or_eq_eq.mp hle with hlt | heq
      · exact .inl (compareRecords_eq_lt_iff.mp hlt)
      · exact .inr ⟨compareRecords_eq_eq_iff.mp heq, hless heq⟩
    · exact insertionSort_map Prod.fst _ rows

/-- No row stands at two places. -/
theorem nodup (h : Arranged sorts rows arranged) (hrows : rows.Pairwise fun a b => a.2 < b.2) :
    (arranged.map Prod.snd).Nodup := by
  have hpositions : (rows.map Prod.snd).Pairwise (· < ·) := List.pairwise_map.mpr hrows
  exact (h.perm.map Prod.snd).nodup_iff.mpr hpositions.nodup

end Arranged

theorem DocumentQuery.window_map {α β : Type} (q : DocumentQuery) (f : α → β) (results : List α) :
    q.window (results.map f) = (q.window results).map f := by
  unfold window
  cases q.limit with
  | none => exact List.map_drop.symm
  | some limit =>
    simp only
    rw [← List.map_drop, ← List.map_take]

/-- The window of a query begins behind what is skipped, and is cut to the limit. -/
theorem DocumentQuery.window_eq_take_drop {α : Type} (q : DocumentQuery) (results : List α) :
    q.window results = (results.drop q.skip.toNat).take (q.limit.elim results.length UInt64.toNat) := by
  unfold window
  cases q.limit with
  | none => exact (List.take_of_length_le (by simp)).symm
  | some limit => rfl

namespace Store

/-- The records that meet the condition of a query, with their positions in the order of insertion. -/
def rows (s : Store) (q : DocumentQuery) : List (Record × Nat) :=
  (s.collection q.entity).zipIdx.filter fun row => q.accepts row.1

theorem map_fst_rows (s : Store) (q : DocumentQuery) : (s.rows q).map Prod.fst = s.matching q := by
  have hfilter := List.filter_map (f := Prod.fst) (p := q.accepts) (l := (s.collection q.entity).zipIdx)
  rw [List.zipIdx_map_fst] at hfilter
  exact hfilter.symm

theorem pairwise_rows (s : Store) (q : DocumentQuery) : (s.rows q).Pairwise fun a b => a.2 < b.2 := by
  have hpositions : ((s.collection q.entity).zipIdx.map Prod.snd).Pairwise (· < ·) := by
    rw [List.zipIdx_map_snd]
    exact List.pairwise_lt_range' 1
  exact (List.pairwise_map.mp hpositions).filter _

/-- **If the values of each sort are of one kind, a selection arranges the records that meet its condition, in the only
way there is, leaves out what is skipped, and cuts the rest to the limit.** -/
theorem select_arranged (s : Store) (q : DocumentQuery)
    (hkinds : ∀ key ∈ q.sorts, ∃ k : Value.SortKind, ∀ r ∈ s.matching q, ∀ v, r.get? key.property = some v →
      v.sortKind? = some k) :
    ∃ arranged shown, Arranged q.sorts (s.rows q) arranged ∧
      (∀ other, Arranged q.sorts (s.rows q) other → other = arranged) ∧
      shown = (arranged.drop q.skip.toNat).take (q.limit.elim arranged.length UInt64.toNat) ∧
      s.select q = .ok (shown.map Prod.fst) ∧ shown.Sublist arranged ∧ (shown.map Prod.snd).Nodup ∧
      (q.sorts = [] → arranged = s.rows q) := by
  have hcomparable : ∀ key ∈ q.sorts, Value.Comparable (HeldUnder (· ∈ s.matching q) key.property) := by
    intro key hkey
    obtain ⟨k, hk⟩ := hkinds key hkey
    exact .inl ⟨k, fun v ⟨r, hr, hv⟩ => hk r hr v hv⟩
  have hselect := select_eq_ok_iff.mpr ⟨.inr (isTotalPreorderOn_compareRecords hcomparable), rfl⟩
  have hpreorder := isTotalPreorderOn_compareRecords hcomparable
  rw [← s.map_fst_rows q] at hpreorder
  obtain ⟨arranged, harranged, hsorted⟩ := Arranged.exists_sortRecords (s.pairwise_rows q) hpreorder
  have hsublist := q.window_sublist arranged
  refine ⟨arranged, q.window arranged, harranged, fun other hother => hother.eq harranged,
    q.window_eq_take_drop arranged, ?_, hsublist, ?_, fun hnone => ?_⟩
  · calc s.select q
        = .ok (q.window (sortRecords q.sorts (s.matching q))) := hselect
      _ = .ok (q.window (arranged.map Prod.fst)) := by rw [← s.map_fst_rows q, hsorted]
      _ = .ok ((q.window arranged).map Prod.fst) := by rw [q.window_map Prod.fst arranged]
  · exact (harranged.nodup (s.pairwise_rows q)).sublist (hsublist.map Prod.snd)
  · rw [hnone] at harranged
    exact harranged.eq (.of_nil (s.pairwise_rows q))

/-- A runner of a club, who may have a time. -/
def runner (name : String) (time : Option Value) : Record :=
  ⟨"Runner", ("name", .text name) :: ("club", .text "North") :: time.toList.map fun v => ("time", v)⟩

/-- A store in which some runners have a time, one of them as an integer, and one has none. -/
def runners (cleo dan : Float) : Store :=
  (empty "_id" 1).run ([runner "Ada" (some (.integer 12)), runner "Bob" none, runner "Cleo" (some (.float cleo)),
    runner "Dan" (some (.float dan)), ⟨"Runner", [("club", .text "South"), ("time", .text "slow")]⟩].map .insert)

/-- The query for the runners of a club behind the slowest one, at most three of them. -/
def slowest : DocumentQuery :=
  { (DocumentQuery.select "Runner").whereEq "club" (.text "North") with
    skip := 1, limit := some 3, sorts := [⟨"time", .desc⟩] }

theorem rows_runners (cleo dan : Float) : (runners cleo dan).rows slowest =
    [((runner "Ada" (some (.integer 12))).add "_id" (.integer 1), 0),
      ((runner "Bob" none).add "_id" (.integer 2), 1),
      ((runner "Cleo" (some (.float cleo))).add "_id" (.integer 3), 2),
      ((runner "Dan" (some (.float dan))).add "_id" (.integer 4), 3)] := by
  cbv

theorem get?_time_runner (name : String) (time : Option Value) (id : Value) :
    ((runner name time).add "_id" id).get? "time" = time := by
  cases time <;> rfl

/-- The slowest runner is the first one of two with the same time, and the one without a time comes last. -/
theorem select_arranged_runners :
    (runners 12 9.5).select slowest =
      .ok [(runner "Cleo" (some (.float 12))).add "_id" (.integer 3),
        (runner "Dan" (some (.float 9.5))).add "_id" (.integer 4), (runner "Bob" none).add "_id" (.integer 2)] := by
  have hrows := rows_runners 12 9.5
  have hkinds : ∀ key ∈ slowest.sorts, ∃ k : Value.SortKind, ∀ r ∈ (runners 12 9.5).matching slowest, ∀ v,
      r.get? key.property = some v → v.sortKind? = some k := by
    refine List.forall_mem_singleton.mpr ⟨.number, ?_⟩
    rw [← map_fst_rows, hrows]
    simp only [List.map_cons, List.map_nil, List.forall_mem_cons, get?_time_runner]
    refine ⟨?_, nofun, ?_, ?_, nofun⟩
    all_goals
      rintro v ⟨⟩
      decide
  -- descending, a record is ahead of those with less
  have hahead {a b : String} {v w : Option Value} {i j : Value} (h : Value.BelowMissing w v) :
      Ahead slowest.sorts ((runner a v).add "_id" i) ((runner b w).add "_id" j) := by
    refine ⟨[], ⟨"time", .desc⟩, [], rfl, List.forall_mem_nil _, ?_⟩
    rw [get?_time_runner, get?_time_runner]
    exact h
  have hless {v : Value} (h : v.asDouble? = some 12) : Value.BelowMissing (some (.float 9.5)) (some v) :=
    .held (.number rfl h (by decide))
  have htwelve : (Value.integer 12).asDouble? = some 12 := by rfl
  have harranged : Arranged slowest.sorts ((runners 12 9.5).rows slowest)
      [((runner "Ada" (some (.integer 12))).add "_id" (.integer 1), 0),
        ((runner "Cleo" (some (.float 12))).add "_id" (.integer 3), 2),
        ((runner "Dan" (some (.float 9.5))).add "_id" (.integer 4), 3),
        ((runner "Bob" none).add "_id" (.integer 2), 1)] := by
    rw [hrows]
    refine ⟨.cons _ (@List.perm_append_comm _ [_, _] [_]), ?_⟩
    simp only [List.pairwise_cons, List.forall_mem_cons]
    refine ⟨⟨.inr ⟨?_, by decide⟩, .inl (hahead (hless htwelve)), .inl (hahead (.missing _)), nofun⟩,
      ⟨.inl (hahead (hless rfl)), .inl (hahead (.missing _)), nofun⟩, ⟨.inl (hahead (.missing _)), nofun⟩, nofun, .nil⟩
    refine List.forall_mem_singleton.mpr (compareUnder_eq_eq_iff.mp ?_)
    rw [compareUnder, get?_time_runner, get?_time_runner]
    decide
  obtain ⟨arranged, shown, -, honly, rfl, hselect, -⟩ := select_arranged (runners 12 9.5) slowest hkinds
  rw [hselect, ← honly _ harranged]
  rfl

end Store
end EntityMapping
