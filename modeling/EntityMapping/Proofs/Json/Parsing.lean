import EntityMapping.Json.Parser
import EntityMapping.Json.Printer
import EntityMapping.Proofs.Json.Numeral

/-!
# Reading written JSON

A written tree reads back as itself (`parse?_render`), as far as it has a text at all: its strings must have
one, and its numerals their digits.

The reader is followed from state to state. From a state that waits for a value, the characters of a tree lead to
the state in which that tree has been delivered, whatever stands behind it (`read?_toChars`).
-/

namespace EntityMapping
namespace Json

/-! ## Trees that have a text -/

mutual

/-- Every string in the tree has a text, and every numeral its digits. -/
def Writable : Json → Prop
  | .null => True
  | .bool _ => True
  | .number n => n.WellFormed
  | .string s => s.isSome
  | .array items => WritableItems items
  | .object members => WritableMembers members

def WritableItems : List Json → Prop
  | [] => True
  | j :: js => j.Writable ∧ WritableItems js

def WritableMembers : List (Option String × Json) → Prop
  | [] => True
  | (key, j) :: ms => key.isSome ∧ j.Writable ∧ WritableMembers ms

end

/-! ## Strings -/

/-- A control character below the surrogates joins as itself. -/
theorem join_unit_cons {n : Nat} (h : n < 0xD800) (es : List Element) :
    join (.unit n :: es) = (join es).map (Char.ofNat n :: ·) := by
  have hsurrogate : ¬ (0xD800 ≤ n ∧ n < 0xE000) := by omega
  cases es with
  | nil => simp [join, hsurrogate]
  | cons e es =>
    cases e with
    | char c => simp [join, hsurrogate, Function.comp_def]
    | unit m =>
      have hlow : ¬ (0xDC00 ≤ n ∧ n < 0xE000) := by omega
      have hhigh : ¬ (0xD800 ≤ n ∧ n < 0xDC00) := by omega
      simp [join, hlow, hhigh]

/-- The element that a written character is scanned as. -/
def writtenAs (c : Char) : Element :=
  if c.toNat < 32 ∧ c ∉ ['\x08', '\x0c', '\n', '\r', '\t'] then .unit c.toNat else .char c

theorem join_writtenAs_cons (c : Char) (es : List Element) :
    join (writtenAs c :: es) = (join es).map (c :: ·) := by
  unfold writtenAs
  split
  · next h => rw [join_unit_cons (by omega), Char.ofNat_toNat]
  · rw [join]

/-- A character is written as a backslash and a letter, as a code unit, or as itself. -/
theorem escapeChar_cases (c : Char) :
    (∃ d, escapeChar c = ['\\', d] ∧ d ≠ 'u' ∧ escaped? d = some c ∧ writtenAs c = .char c) ∨
      (escapeChar c = ['\\', 'u', '0', '0', hexChar (c.toNat / 16), hexChar (c.toNat % 16)] ∧ c.toNat < 32 ∧
        writtenAs c = .unit c.toNat) ∨
      (escapeChar c = [c] ∧ c ≠ '"' ∧ c ≠ '\\' ∧ ¬ c.toNat < 32 ∧ writtenAs c = .char c) := by
  by_cases hnamed : c ∈ ['"', '\\', '\x08', '\x0c', '\n', '\r', '\t']
  · left
    simp only [List.mem_cons, List.not_mem_nil, or_false] at hnamed
    rcases hnamed with rfl | rfl | rfl | rfl | rfl | rfl | rfl <;> exact ⟨_, rfl, by decide, rfl, rfl⟩
  · right
    simp only [List.mem_cons, List.not_mem_nil, or_false, not_or] at hnamed
    by_cases hcontrol : c.toNat < 32 <;> simp [escapeChar, writtenAs, hnamed, hcontrol]

theorem scanString_escapeChar (c : Char) (cs : List Char) :
    scanString .outside (escapeChar c ++ cs) = found (writtenAs c) (scanString .outside cs) := by
  obtain ⟨d, hc, hu, hd, has⟩ | ⟨hc, hlt, has⟩ | ⟨hc, hquote, hbackslash, hlt, has⟩ := escapeChar_cases c
  · simp [hc, has, scanString, hu, hd]
  · have hhigh := hexDigit?_hexChar (n := c.toNat / 16) (by omega)
    have hlow := hexDigit?_hexChar (Nat.mod_lt c.toNat (by decide : 0 < 16))
    have hzero : hexDigit? '0' = some 0 := by decide
    have hunit : 16 * (c.toNat / 16) + c.toNat % 16 = c.toNat := by omega
    simp [hc, has, scanString, hhigh, hlow, hzero, hunit]
  · simp [hc, has, scanString, hquote, hbackslash, hlt]

/-- A written string is scanned to elements that join to it. -/
theorem scanString_flatMap_escapeChar (s rest : List Char) :
    scanString .outside (s.flatMap escapeChar ++ '"' :: rest) = some (s.map writtenAs, rest) := by
  induction s with
  | nil => simp [scanString]
  | cons c s ih => rw [List.flatMap_cons, List.append_assoc, scanString_escapeChar, ih]; rfl

theorem join_map_writtenAs (s : List Char) : join (s.map writtenAs) = some s := by
  induction s with
  | nil => rfl
  | cons c s ih => rw [List.map_cons, join_writtenAs_cons, ih]; rfl

/-! ## Words -/

theorem isWordChar_toChar (d : Digit) : isWordChar d.toChar = true := by
  revert d
  decide

theorem isWordChar_toChars {ds : List Digit} {c : Char} (h : c ∈ Digits.toChars ds) : isWordChar c = true := by
  obtain ⟨d, -, rfl⟩ := List.mem_map.mp h
  exact isWordChar_toChar d

/-- What a numeral is written with can stand in a word. -/
theorem all_isWordChar_numeral (n : Numeral) : n.toChars.all isWordChar = true := by
  rw [Numeral.toChars_eq, List.all_eq_true]
  intro c hc
  simp only [List.mem_append] at hc
  rcases hc with hsign | hwhole | hfraction | hexponent
  · split at hsign
    · obtain rfl := List.mem_singleton.mp hsign
      decide
    · simp at hsign
  · exact isWordChar_toChars hwhole
  · split at hfraction
    · simp at hfraction
    · obtain rfl | hc := List.mem_cons.mp hfraction
      · decide
      · exact isWordChar_toChars hc
  · cases hn : n.exponent with
    | none => simp [hn, Numeral.exponentChars] at hexponent
    | some e =>
      simp only [hn, Numeral.exponentChars, List.mem_cons] at hexponent
      obtain rfl | rfl | hc := hexponent
      · decide
      · split <;> decide
      · exact isWordChar_toChars hc

theorem ne_of_isWordChar {c d : Char} (hc : isWordChar c = true) (hd : isWordChar d = false) : c ≠ d :=
  fun heq => by simp [heq, hd] at hc

/-- A word begins neither as a string nor as a sign or a blank. -/
theorem of_isWordChar {c : Char} (h : isWordChar c = true) :
    isJsonBlank c = false ∧ c ≠ '"' ∧ sign? c = none := by
  have hne (d : Char) (hd : isWordChar d = false) := ne_of_isWordChar h hd
  refine ⟨?_, hne '"' (by decide), ?_⟩
  · simp [isJsonBlank, hne ' ' (by decide), hne '\n' (by decide), hne '\t' (by decide), hne '\r' (by decide)]
  · simp [sign?, hne '[' (by decide), hne ']' (by decide), hne '\x7b' (by decide), hne '\x7d' (by decide),
      hne ',' (by decide), hne ':' (by decide)]

/-! ## The reader on characters -/

/-- The text does not go on with a character of a word. -/
def EndsWord (cs : List Char) : Prop := ∀ c ∈ cs.head?, isWordChar c = false

@[simp] theorem endsWord_nil : EndsWord [] := by simp [EndsWord]

@[simp] theorem endsWord_cons {c : Char} {cs : List Char} : EndsWord (c :: cs) ↔ isWordChar c = false := by
  simp [EndsWord]

theorem EndsWord.takeWhile {cs : List Char} (h : EndsWord cs) : cs.takeWhile isWordChar = [] := by
  cases cs with
  | nil => rfl
  | cons c cs => rw [List.takeWhile_cons, endsWord_cons.mp h]; rfl

theorem EndsWord.dropWhile {cs : List Char} (h : EndsWord cs) : cs.dropWhile isWordChar = cs := by
  cases cs with
  | nil => rfl
  | cons c cs => rw [List.dropWhile_cons, endsWord_cons.mp h]; rfl

/-- The state that the tokens of a text lead to. -/
def Reader.read? (r : Reader) (cs : List Char) : Option Reader := (tokens? cs).bind r.run

namespace Reader

variable {r : Reader} {cs : List Char}

theorem read?_nil : r.read? [] = some r := by
  rw [read?, tokens?]
  rfl

/-- A token in front of the others makes one step. -/
theorem read?_of_tokens {t : Token} (front : List Char)
    (h : tokens? (front ++ cs) = (tokens? cs).map (t :: ·)) :
    r.read? (front ++ cs) = (r.step t).bind fun r => r.read? cs := by
  unfold read?
  rw [h]
  cases tokens? cs with
  | none => cases r.step t <;> rfl
  | some ts => rfl

theorem read?_sign {c : Char} {t : Token} (h : sign? c = some t) :
    r.read? (c :: cs) = (r.step t).bind fun r => r.read? cs := by
  have hquote : c ≠ '"' := fun hc => by simp [hc, sign?] at h
  have hblank : isJsonBlank c = false := Bool.eq_false_iff.mpr fun hb => by
    simp only [isJsonBlank, Bool.or_eq_true, beq_iff_eq] at hb
    obtain ((rfl | rfl) | rfl) | rfl := hb <;> simp [sign?] at h
  refine read?_of_tokens [c] ?_
  rw [List.singleton_append, tokens?, hblank, if_neg (by decide), if_neg hquote, h]

theorem read?_quote (s : String) :
    r.read? (quote (some s) ++ cs) = (r.step (.string (some s))).bind fun r => r.read? cs := by
  refine read?_of_tokens _ ?_
  have hscan := scanString_flatMap_escapeChar s.toList cs
  rw [quote, List.cons_append, List.append_assoc, List.singleton_append, tokens?, if_neg (by decide), if_pos rfl]
  simp only [Option.getD_some]
  split
  · next hnone => simp [hscan] at hnone
  · next hsome =>
    rw [hscan] at hsome
    obtain ⟨rfl, rfl⟩ := Prod.mk.inj (Option.some.inj hsome)
    simp [join_map_writtenAs]

theorem read?_word {t : Token} {word : List Char} (hne : word ≠ []) (hword : word.all isWordChar = true)
    (ht : word? word = some t) (hcs : EndsWord cs) :
    r.read? (word ++ cs) = (r.step t).bind fun r => r.read? cs := by
  refine read?_of_tokens _ ?_
  cases word with
  | nil => exact absurd rfl hne
  | cons c word =>
    rw [List.all_cons, Bool.and_eq_true] at hword
    obtain ⟨hc, hword⟩ := hword
    obtain ⟨hblank, hquote, hsign⟩ := of_isWordChar hc
    have htake : (word ++ cs).takeWhile isWordChar = word := by
      rw [List.takeWhile_append_of_pos (List.all_eq_true.mp hword), hcs.takeWhile, List.append_nil]
    have hdrop : (word ++ cs).dropWhile isWordChar = cs := by
      rw [List.dropWhile_append_of_pos (List.all_eq_true.mp hword), hcs.dropWhile]
    rw [List.cons_append, tokens?, hblank, if_neg (by decide), if_neg hquote, hsign]
    simp only [hc, if_true, htake, hdrop, ht]

/-! ## Trees -/

/-- A state in which a value can stand next, and the frames that it will be delivered to. -/
inductive Awaits : Reader → List Frame → Prop where
  | value (frames : List Frame) : Awaits (.value frames) frames
  | firstItem (frames : List Frame) : Awaits (.firstItem frames) (.array [] :: frames)

theorem Awaits.step {frames : List Frame} (h : Awaits r frames) {t : Token} (ht : t ≠ .closeArray) :
    r.step t = beginValue frames t := by
  cases h with
  | value => rfl
  | firstItem frames => cases t <;> first | rfl | exact absurd rfl ht

/-- A written word is delivered as the value that it stands for. -/
theorem Awaits.read?_word {frames : List Frame} (h : Awaits r frames) {j : Json} {t : Token} {word : List Char}
    (hne : word ≠ []) (hword : word.all isWordChar = true) (ht : word? word = some t)
    (hvalue : beginValue frames t = some (deliver j frames)) (hcs : EndsWord cs) :
    r.read? (word ++ cs) = (deliver j frames).read? cs := by
  have hclose : t ≠ .closeArray := fun hc => by simp [hc, beginValue] at hvalue
  rw [Reader.read?_word hne hword ht hcs, h.step hclose, hvalue]
  rfl

end Reader

open Reader

/-- The token of a numeral. -/
theorem word?_numeral {n : Numeral} (h : n.WellFormed) : word? n.toChars = some (.number n) := by
  have hread := Numeral.read?_toChars h
  have hne (word : List Char) (hnone : Numeral.read? word = none) : n.toChars ≠ word := fun heq => by
    simp [heq, hnone] at hread
  unfold word?
  rw [if_neg (hne _ (by decide)), if_neg (hne _ (by decide)), if_neg (hne _ (by decide)), hread]
  rfl

theorem numeral_ne_nil {n : Numeral} (h : n.WellFormed) : n.toChars ≠ [] := fun hnil => by
  have hread := Numeral.read?_toChars h
  rw [hnil, show Numeral.read? [] = none by decide] at hread
  simp at hread

mutual

/-- The characters of a tree lead to the state in which the tree has been delivered. -/
theorem read?_toChars (j : Json) (hj : j.Writable) {r : Reader} {frames : List Frame} (hr : Awaits r frames)
    {cs : List Char} (hcs : EndsWord cs) : r.read? (j.toChars ++ cs) = (deliver j frames).read? cs := by
  match j, hj with
  | .null, _ =>
    rw [toChars]
    exact hr.read?_word (t := .null) (by simp) (by decide) rfl rfl hcs
  | .bool true, _ =>
    rw [toChars]
    exact hr.read?_word (t := .bool true) (by simp) (by decide) rfl rfl hcs
  | .bool false, _ =>
    rw [toChars]
    exact hr.read?_word (t := .bool false) (by simp) (by decide) rfl rfl hcs
  | .number n, hn =>
    rw [Writable] at hn
    exact hr.read?_word (numeral_ne_nil hn) (all_isWordChar_numeral n) (word?_numeral hn) rfl hcs
  | .string none, hs => simp [Writable] at hs
  | .string (some s), _ =>
    rw [toChars, read?_quote, hr.step (by simp)]
    rfl
  | .array [], _ =>
    rw [toChars, itemChars, List.nil_append, List.cons_append, List.singleton_append, read?_sign rfl,
      hr.step (by simp), beginValue, Option.bind_some, read?_sign rfl]
    rfl
  | .array (j :: js), hitems =>
    rw [Writable] at hitems
    rw [toChars, List.cons_append, List.append_assoc, List.singleton_append, read?_sign rfl, hr.step (by simp)]
    exact read?_items (j :: js) (List.cons_ne_nil j js) hitems (.firstItem frames) cs
  | .object [], _ =>
    rw [toChars, memberChars, List.nil_append, List.cons_append, List.singleton_append, read?_sign rfl,
      hr.step (by simp), beginValue, Option.bind_some, read?_sign rfl]
    rfl
  | .object (m :: ms), hmembers =>
    rw [Writable] at hmembers
    rw [toChars, List.cons_append, List.append_assoc, List.singleton_append, read?_sign rfl, hr.step (by simp)]
    have hr (name : Option String) :
        (Reader.firstMember frames).step (.string name) = some (.colon [] name frames) := rfl
    exact read?_members (m :: ms) (List.cons_ne_nil m ms) hmembers hr cs

/-- The characters of items, with the bracket behind them, deliver the array of what stood before and the
items. -/
theorem read?_items (items : List Json) (hne : items ≠ []) (hitems : WritableItems items) {r : Reader}
    {before : List Json} {frames : List Frame} (hr : Awaits r (.array before :: frames)) (cs : List Char) :
    r.read? (itemChars items ++ ']' :: cs) = (deliver (.array (before.reverse ++ items)) frames).read? cs := by
  match items, hitems with
  | [], _ => exact absurd rfl hne
  | [j], hitems =>
    rw [WritableItems] at hitems
    rw [itemChars, read?_toChars j hitems.1 hr (endsWord_cons.mpr (by decide)), read?_sign rfl]
    simp [deliver, Reader.step]
  | j :: k :: js, hitems =>
    rw [WritableItems] at hitems
    rw [itemChars, List.append_assoc, List.cons_append,
      read?_toChars j hitems.1 hr (endsWord_cons.mpr (by decide)), read?_sign rfl]
    have hrest := read?_items (k :: js) (List.cons_ne_nil k js) hitems.2
      (.value (.array (j :: before) :: frames)) cs
    simpa [deliver, Reader.step] using hrest

/-- The characters of members, with the brace behind them, deliver the object of what stood before and the
members. -/
theorem read?_members (members : List (Option String × Json)) (hne : members ≠ [])
    (hmembers : WritableMembers members) {r : Reader} {before : List (Option String × Json)} {frames : List Frame}
    (hr : ∀ name, r.step (.string name) = some (.colon before name frames)) (cs : List Char) :
    r.read? (memberChars members ++ '\x7d' :: cs) =
      (deliver (.object (before.reverse ++ members)) frames).read? cs := by
  match members, hmembers with
  | [], _ => exact absurd rfl hne
  | [(none, j)], hmembers => simp [WritableMembers] at hmembers
  | (none, j) :: m :: ms, hmembers => simp [WritableMembers] at hmembers
  | [(some name, j)], hmembers =>
    rw [WritableMembers] at hmembers
    rw [memberChars, List.append_assoc, List.cons_append, read?_quote, hr, Option.bind_some, read?_sign rfl,
      Reader.step, Option.bind_some,
      read?_toChars j hmembers.2.1 (.value _) (endsWord_cons.mpr (by decide)), read?_sign rfl]
    simp [deliver, Reader.step]
  | (some name, j) :: m :: ms, hmembers =>
    rw [WritableMembers] at hmembers
    rw [memberChars, List.append_assoc, List.cons_append, List.append_assoc, List.cons_append, read?_quote, hr,
      Option.bind_some, read?_sign rfl, Reader.step, Option.bind_some,
      read?_toChars j hmembers.2.1 (.value _) (endsWord_cons.mpr (by decide)), read?_sign rfl]
    have hrest := read?_members (m :: ms) (List.cons_ne_nil m ms) hmembers.2.2
      (r := .key ((some name, j) :: before) frames) (fun _ => rfl) cs
    simpa [deliver, Reader.step] using hrest

end

/-- A written tree reads back. -/
theorem parse?_render {j : Json} (h : j.Writable) : parse? j.render = some j := by
  have hread := read?_toChars j h (.value []) endsWord_nil
  rw [List.append_nil, deliver, read?_nil, Reader.read?] at hread
  obtain ⟨ts, htokens, hrun⟩ := Option.bind_eq_some_iff.mp hread
  rw [parse?, render, String.toList_ofList, htokens, Option.bind_some, hrun]
  rfl

end Json
end EntityMapping
