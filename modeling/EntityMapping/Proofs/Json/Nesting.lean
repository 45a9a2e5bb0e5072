import EntityMapping.Proofs.Json.Parsing

/-!
# How deep a text nests

The nesting of a JSON text is read off its characters: how many brackets and braces are open at once at most,
those in strings aside. For a written tree it is the depth of the tree (`nesting_render`).
-/

namespace EntityMapping
namespace Json

/-! ## Texts -/

/-- Where in a text a scan has come to. -/
inductive Place where
  /-- Outside of all strings. -/
  | outside
  /-- In a string. -/
  | inside
  /-- In a string, behind a backslash. -/
  | escaped

/-- What a scan knows of the text so far. -/
structure Scan where
  place : Place
  /-- How many brackets are open. -/
  level : Nat
  /-- How many brackets were open at once, at most. -/
  most : Nat

/-- Goes over one character. -/
def Scan.step (s : Scan) (c : Char) : Scan :=
  match s.place with
  | .outside =>
    if c = '"' then { s with place := .inside }
    else if c = '[' ∨ c = '\x7b' then { s with level := s.level + 1, most := max s.most (s.level + 1) }
    else if c = ']' ∨ c = '\x7d' then { s with level := s.level - 1 }
    else s
  | .inside =>
    if c = '"' then { s with place := .outside }
    else if c = '\\' then { s with place := .escaped }
    else s
  | .escaped => { s with place := .inside }

/-- How many brackets of a text are open at once, at most. -/
def nesting (text : String) : Nat := (text.toList.foldl Scan.step ⟨.outside, 0, 0⟩).most

/-! ## Trees -/

mutual

/-- How many arrays and objects of a tree lie in each other, at most. -/
def depth : Json → Nat
  | .null | .bool _ | .number _ | .string _ => 0
  | .array items => depthItems items + 1
  | .object members => depthMembers members + 1

def depthItems : List Json → Nat
  | [] => 0
  | j :: js => max j.depth (depthItems js)

def depthMembers : List (Option String × Json) → Nat
  | [] => 0
  | (_, j) :: ms => max j.depth (depthMembers ms)

end

/-! ## Written trees -/

namespace Scan

variable {level most : Nat}

/-- A hexadecimal digit neither ends a string nor begins an escape. -/
theorem step_hexChar {n : Nat} (h : n < 16) :
    step ⟨.inside, level, most⟩ (hexChar n) = ⟨.inside, level, most⟩ := by
  have hall : ∀ k ∈ List.range 16, hexChar k ≠ '"' ∧ hexChar k ≠ '\\' := by decide
  obtain ⟨hquote, hbackslash⟩ := hall n (List.mem_range.mpr h)
  simp [step, hquote, hbackslash]

theorem foldl_escapeChar (c : Char) :
    (escapeChar c).foldl step ⟨.inside, level, most⟩ = ⟨.inside, level, most⟩ := by
  obtain ⟨d, hc, -⟩ | ⟨hc, hlt, -⟩ | ⟨hc, hquote, hbackslash, -⟩ := escapeChar_cases c
  · rw [hc]
    rfl
  · rw [hc]
    have hstart : ['\\', 'u', '0', '0'].foldl step ⟨.inside, level, most⟩ = ⟨.inside, level, most⟩ := rfl
    rw [show ['\\', 'u', '0', '0', hexChar (c.toNat / 16), hexChar (c.toNat % 16)] =
      ['\\', 'u', '0', '0'] ++ [hexChar (c.toNat / 16), hexChar (c.toNat % 16)] from rfl, List.foldl_append,
      hstart, List.foldl_cons, step_hexChar (by omega), List.foldl_cons, step_hexChar (by omega), List.foldl_nil]
  · simp [hc, step, hquote, hbackslash]

theorem foldl_flatMap_escapeChar (s : List Char) :
    (s.flatMap escapeChar).foldl step ⟨.inside, level, most⟩ = ⟨.inside, level, most⟩ := by
  induction s with
  | nil => rfl
  | cons c s ih => rw [List.flatMap_cons, List.foldl_append, foldl_escapeChar, ih]

/-- A string leaves the scan where it was. -/
theorem foldl_quote (s : Option String) :
    (quote s).foldl step ⟨.outside, level, most⟩ = ⟨.outside, level, most⟩ := by
  have hopen : step ⟨.outside, level, most⟩ '"' = ⟨.inside, level, most⟩ := rfl
  rw [quote, List.foldl_cons, hopen, List.foldl_append, foldl_flatMap_escapeChar]
  rfl

/-- So does a word. -/
theorem foldl_word {word : List Char} (h : word.all isWordChar = true) :
    word.foldl step ⟨.outside, level, most⟩ = ⟨.outside, level, most⟩ := by
  induction word with
  | nil => rfl
  | cons c word ih =>
    rw [List.all_cons, Bool.and_eq_true] at h
    have hne (d : Char) (hd : isWordChar d = false) := ne_of_isWordChar h.1 hd
    have hstep : step ⟨.outside, level, most⟩ c = ⟨.outside, level, most⟩ := by
      simp [step, hne '"' (by decide), hne '[' (by decide), hne ']' (by decide), hne '\x7b' (by decide),
        hne '\x7d' (by decide)]
    rw [List.foldl_cons, hstep, ih h.2]

theorem step_comma : step ⟨.outside, level, most⟩ ',' = ⟨.outside, level, most⟩ := rfl

theorem step_colon : step ⟨.outside, level, most⟩ ':' = ⟨.outside, level, most⟩ := rfl

/-- A bracket opens one more level, and its partner closes it. -/
theorem foldl_bracketed {front back : Char} (hopen : front = '[' ∨ front = '\x7b')
    (hclose : back = ']' ∨ back = '\x7d') {inner : List Char} {d : Nat} (h : level ≤ most)
    (hinner : inner.foldl step ⟨.outside, level + 1, max most (level + 1)⟩ =
      ⟨.outside, level + 1, max (max most (level + 1)) (level + 1 + d)⟩) :
    (front :: (inner ++ [back])).foldl step ⟨.outside, level, most⟩ =
      ⟨.outside, level, max most (level + (d + 1))⟩ := by
  have hfront : step ⟨.outside, level, most⟩ front = ⟨.outside, level + 1, max most (level + 1)⟩ := by
    obtain rfl | rfl := hopen <;> rfl
  have hback (m : Nat) : step ⟨.outside, level + 1, m⟩ back = ⟨.outside, level, m⟩ := by
    obtain rfl | rfl := hclose <;> rfl
  rw [List.foldl_cons, hfront, List.foldl_append, hinner, List.foldl_cons, hback, List.foldl_nil]
  congr 1
  omega

mutual

/-- A tree raises what was open at most to the level with the depth of the tree on it. -/
theorem foldl_toChars (j : Json) {level most : Nat} (h : level ≤ most) :
    j.toChars.foldl step ⟨.outside, level, most⟩ = ⟨.outside, level, max most (level + j.depth)⟩ := by
  have hflat : max most (level + 0) = most := by omega
  match j with
  | .null => rw [toChars, foldl_word (by decide), depth, hflat]
  | .bool true => rw [toChars, foldl_word (by decide), depth, hflat]
  | .bool false => rw [toChars, foldl_word (by decide), depth, hflat]
  | .number n => rw [toChars, foldl_word (all_isWordChar_numeral n), depth, hflat]
  | .string s => rw [toChars, foldl_quote, depth, hflat]
  | .array items =>
    rw [toChars, depth]
    exact foldl_bracketed (.inl rfl) (.inl rfl) h (foldl_itemChars items (by omega))
  | .object members =>
    rw [toChars, depth]
    exact foldl_bracketed (.inr rfl) (.inr rfl) h (foldl_memberChars members (by omega))

theorem foldl_itemChars (items : List Json) {level most : Nat} (h : level ≤ most) :
    (itemChars items).foldl step ⟨.outside, level, most⟩ =
      ⟨.outside, level, max most (level + depthItems items)⟩ := by
  match items with
  | [] => simp [itemChars, depthItems, h]
  | [j] => rw [itemChars, foldl_toChars j h, depthItems, depthItems, Nat.max_zero]
  | j :: k :: js =>
    rw [itemChars, List.foldl_append, foldl_toChars j h, List.foldl_cons, step_comma,
      foldl_itemChars (k :: js) (by omega)]
    simp only [depthItems]
    congr 1
    omega

theorem foldl_memberChars (members : List (Option String × Json)) {level most : Nat} (h : level ≤ most) :
    (memberChars members).foldl step ⟨.outside, level, most⟩ =
      ⟨.outside, level, max most (level + depthMembers members)⟩ := by
  match members with
  | [] => simp [memberChars, depthMembers, h]
  | [(name, j)] =>
    rw [memberChars, List.foldl_append, foldl_quote, List.foldl_cons, step_colon, foldl_toChars j h, depthMembers,
      depthMembers, Nat.max_zero]
  | (name, j) :: m :: ms =>
    rw [memberChars, List.foldl_append, foldl_quote, List.foldl_cons, step_colon, List.foldl_append,
      foldl_toChars j h, List.foldl_cons, step_comma, foldl_memberChars (m :: ms) (by omega)]
    simp only [depthMembers]
    congr 1
    omega

end

end Scan

/-- A written tree nests as deep as it is. -/
theorem nesting_render (j : Json) : nesting j.render = j.depth := by
  rw [nesting, render, String.toList_ofList, Scan.foldl_toChars j (Nat.le_refl 0)]
  simp

end Json
end EntityMapping
