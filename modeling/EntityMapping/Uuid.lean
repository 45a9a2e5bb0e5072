import EntityMapping.Text.Hex

/-!
# Universally unique identifiers

Identifiers of 128 bits. They are written as 32 lower-case hexadecimal digits in groups of 8, 4, 4, 4
and 12, and read in either case, with or without the hyphens; the hyphenated form may also stand in
braces or after `urn:uuid:`, again in either case.
-/

namespace EntityMapping

/-- A universally unique identifier. -/
structure Uuid where
  bits : BitVec 128
  deriving DecidableEq, Repr, Inhabited

namespace Uuid

/-- The text of an identifier. -/
def text (u : Uuid) : String :=
  let cs := hexText 32 u.bits.toNat
  let group (start count : Nat) := String.ofList ((cs.drop start).take count)
  group 0 8 ++ "-" ++ group 8 4 ++ "-" ++ group 12 4 ++ "-" ++ group 16 4 ++ "-" ++ group 20 12

/-- Reads 32 hexadecimal digits. -/
def readPlain? (cs : List Char) : Option Uuid :=
  if cs.length = 32 then (hexValue? cs).map fun n => ⟨BitVec.ofNat 128 n⟩ else none

/-- Reads 36 characters with hyphens behind the digits 8, 12, 16 and 20. -/
def readHyphenated? (cs : List Char) : Option Uuid :=
  let hyphens := [8, 13, 18, 23]
  if cs.length = 36 ∧ hyphens.all (fun i => cs[i]? == some '-') then
    readPlain? (cs.take 8 ++ (cs.drop 9).take 4 ++ (cs.drop 14).take 4 ++ (cs.drop 19).take 4 ++
      cs.drop 24)
  else none

/-- Reads any of the accepted forms. -/
def read? (text : String) : Option Uuid :=
  let cs := text.toList
  if cs.length = 32 then readPlain? cs
  else if cs.length = 38 then
    if cs.head? = some '\x7b' ∧ cs.getLast? = some '\x7d' then readHyphenated? (cs.tail.take 36)
    else none
  else if cs.length = 45 then
    if (cs.take 9).map Char.toLower = "urn:uuid:".toList then readHyphenated? (cs.drop 9) else none
  else readHyphenated? cs

/-- Identifiers are ordered by their bits, as numbers. -/
def compare (u v : Uuid) : Ordering := Ord.compare u.bits.toNat v.bits.toNat

end Uuid
end EntityMapping
