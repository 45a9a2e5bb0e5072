import EntityMapping.Json.Basic
import EntityMapping.Text.Hex

/-!
# JSON tokens

A JSON text is first cut into tokens: the six signs of structure, strings, numerals and the three words.
Blanks separate tokens and are dropped.

Strings are scanned character by character, with what has been seen of an escape as the state, into elements:
characters, and the code units that `\u` escapes name. Joining the elements pairs surrogates up.
-/

namespace EntityMapping
namespace Json

/-- A token of a JSON text. -/
inductive Token where
  | openArray
  | closeArray
  | openObject
  | closeObject
  | comma
  | colon
  | null
  | bool (b : Bool)
  | number (n : Numeral)
  | string (s : Option String)
  deriving DecidableEq, Repr

/-! ## Strings -/

/-- An element of a string: a character, or the code unit of an escape. -/
inductive Element where
  | char (c : Char)
  | unit (n : Nat)
  deriving DecidableEq, Repr

/-- How far an escape has been read. -/
inductive Escape where
  | outside
  | begun
  /-- Behind `\u`, with the number that `seen` digits have written so far. -/
  | digits (seen n : Nat)

/-- The character that the letter behind a backslash stands for. -/
def escaped? : Char → Option Char
  | '"' => some '"'
  | '\\' => some '\\'
  | '/' => some '/'
  | 'b' => some '\x08'
  | 'f' => some '\x0c'
  | 'n' => some '\n'
  | 'r' => some '\r'
  | 't' => some '\t'
  | _ => none

/-- Puts an element in front of what the scan of the rest found. -/
def found (e : Element) : Option (List Element × List Char) → Option (List Element × List Char) :=
  Option.map fun r => (e :: r.1, r.2)

/-- Scans a string behind its opening quote. Returns its elements and what stands behind the closing quote.
Control characters must be escaped. -/
def scanString : Escape → List Char → Option (List Element × List Char)
  | _, [] => none
  | .outside, c :: cs =>
    if c = '"' then some ([], cs)
    else if c = '\\' then scanString .begun cs
    else if c.toNat < 32 then none
    else found (.char c) (scanString .outside cs)
  | .begun, c :: cs =>
    if c = 'u' then scanString (.digits 0 0) cs
    else match escaped? c with
      | some d => found (.char d) (scanString .outside cs)
      | none => none
  | .digits seen n, c :: cs =>
    match hexDigit? c with
    | none => none
    | some d =>
      if seen = 3 then found (.unit (16 * n + d)) (scanString .outside cs)
      else scanString (.digits (seen + 1) (16 * n + d)) cs

/-- What stands behind a string is shorter than the string with what stands behind it. -/
theorem length_scanString {e : Escape} {cs rest : List Char} {es : List Element}
    (h : scanString e cs = some (es, rest)) : rest.length < cs.length := by
  induction cs generalizing e es with
  | nil => cases e <;> simp [scanString] at h
  | cons c cs ih =>
    have step {e : Escape} {x : Element} {es : List Element}
        (h : found x (scanString e cs) = some (es, rest)) : rest.length < (c :: cs).length := by
      cases hs : scanString e cs with
      | none => simp [found, hs] at h
      | some r =>
        simp only [found, hs, Option.map_some, Option.some.injEq, Prod.mk.injEq] at h
        have hr : scanString e cs = some (r.1, rest) := by rw [hs, ← h.2]
        exact Nat.lt_succ_of_lt (ih hr)
    cases e with
    | outside =>
      unfold scanString at h
      split at h
      · simp only [Option.some.injEq, Prod.mk.injEq] at h
        simp [h.2]
      · split at h
        · exact Nat.lt_succ_of_lt (ih h)
        · split at h
          · simp at h
          · exact step h
    | begun =>
      unfold scanString at h
      split at h
      · exact Nat.lt_succ_of_lt (ih h)
      · split at h
        · exact step h
        · simp at h
    | digits seen n =>
      unfold scanString at h
      split at h
      · simp at h
      · split at h
        · exact step h
        · exact Nat.lt_succ_of_lt (ih h)

/-- Joins the elements of a string; `none` if a surrogate stands alone. -/
def join : List Element → Option (List Char)
  | [] => some []
  | .char c :: es => (join es).map (c :: ·)
  | [.unit n] => if 0xD800 ≤ n ∧ n < 0xE000 then none else some [Char.ofNat n]
  | .unit n :: .char c :: es =>
    if 0xD800 ≤ n ∧ n < 0xE000 then none
    else (join es).map (Char.ofNat n :: c :: ·)
  | .unit n :: .unit m :: es =>
    if 0xD800 ≤ n ∧ n < 0xDC00 then
      if 0xDC00 ≤ m ∧ m < 0xE000 then
        (join es).map (Char.ofNat (0x10000 + (n - 0xD800) * 0x400 + (m - 0xDC00)) :: ·)
      else none
    else if 0xDC00 ≤ n ∧ n < 0xE000 then none
    else (join (.unit m :: es)).map (Char.ofNat n :: ·)

/-! ## Words and numerals -/

/-- Whether a character can stand in a word or numeral. -/
def isWordChar (c : Char) : Bool := c.isAlphanum || c == '+' || c == '-' || c == '.'

/-- The token of a run of such characters. -/
def word? (cs : List Char) : Option Token :=
  if cs = ['n', 'u', 'l', 'l'] then some .null
  else if cs = ['t', 'r', 'u', 'e'] then some (.bool true)
  else if cs = ['f', 'a', 'l', 's', 'e'] then some (.bool false)
  else (Numeral.read? cs).map .number

/-- The token of a sign of structure. -/
def sign? (c : Char) : Option Token :=
  if c = '[' then some .openArray
  else if c = ']' then some .closeArray
  else if c = '\x7b' then some .openObject
  else if c = '\x7d' then some .closeObject
  else if c = ',' then some .comma
  else if c = ':' then some .colon
  else none

/-- The four blanks of JSON. -/
def isJsonBlank (c : Char) : Bool := c == ' ' || c == '\n' || c == '\t' || c == '\r'

/-- Cuts a text into tokens. -/
def tokens? : List Char → Option (List Token)
  | [] => some []
  | c :: cs =>
    if isJsonBlank c then tokens? cs
    else if c = '"' then
      match _h : scanString .outside cs with
      | none => none
      | some (es, rest) => (tokens? rest).map (.string ((join es).map String.ofList) :: ·)
    else match sign? c with
      | some t => (tokens? cs).map (t :: ·)
      | none =>
        if isWordChar c then
          match word? (c :: cs.takeWhile isWordChar) with
          | none => none
          | some t => (tokens? (cs.dropWhile isWordChar)).map (t :: ·)
        else none
termination_by cs => cs.length
decreasing_by
  · simp
  · exact Nat.lt_succ_of_lt (length_scanString _h)
  · simp
  · exact Nat.lt_succ_of_le (List.dropWhile_sublist isWordChar).length_le

end Json
end EntityMapping
