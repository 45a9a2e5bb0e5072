import EntityMapping.Uuid

/-!
# Reading written identifiers

An identifier reads back from its text.
-/

namespace EntityMapping
namespace Uuid

/-- Of the hyphenated form, the five groups are read. -/
theorem readHyphenated?_groups {a b c d e : List Char} (ha : a.length = 8) (hb : b.length = 4) (hc : c.length = 4)
    (hd : d.length = 4) (he : e.length = 12) :
    readHyphenated? (a ++ '-' :: (b ++ '-' :: (c ++ '-' :: (d ++ '-' :: e)))) =
      readPlain? (a ++ (b ++ (c ++ (d ++ e)))) := by
  simp only [readHyphenated?]
  rw [if_pos (by simp [ha, hb, hc, hd, he, List.getElem?_append])]
  simp (disch := omega) [ha, hb, hc, hd, List.drop_append, List.drop_of_length_le]

/-- The part of a list from a place on is a group and the part behind the group. -/
theorem group_append_drop (cs : List Char) (start count : Nat) :
    (cs.drop start).take count ++ cs.drop (start + count) = cs.drop start := by
  rw [← List.drop_drop, List.take_append_drop]

/-- Any 32 characters are their five groups. -/
theorem groups_append {cs : List Char} (h : cs.length = 32) :
    (cs.drop 0).take 8 ++ ((cs.drop 8).take 4 ++ ((cs.drop 12).take 4 ++ ((cs.drop 16).take 4 ++
      (cs.drop 20).take 12))) = cs := by
  have hlast : (cs.drop 20).take 12 = cs.drop 20 := List.take_of_length_le (by simp [h])
  rw [hlast, group_append_drop cs 16 4, group_append_drop cs 12 4, group_append_drop cs 8 4,
    group_append_drop cs 0 8, List.drop_zero]

theorem toList_text (u : Uuid) :
    u.text.toList =
      ((hexText 32 u.bits.toNat).drop 0).take 8 ++ '-' :: (((hexText 32 u.bits.toNat).drop 8).take 4 ++
        '-' :: (((hexText 32 u.bits.toNat).drop 12).take 4 ++ '-' :: (((hexText 32 u.bits.toNat).drop 16).take 4 ++
          '-' :: ((hexText 32 u.bits.toNat).drop 20).take 12))) := by
  simp [text, String.toList_append]

/-- An identifier reads back from its text. -/
theorem read?_text (u : Uuid) : read? u.text = some u := by
  have hlength : (hexText 32 u.bits.toNat).length = 32 := length_hexText _ _
  have hvalue : hexValue? (hexText 32 u.bits.toNat) = some u.bits.toNat := by
    rw [hexValue?_hexText, Nat.mod_eq_of_lt (Nat.lt_of_lt_of_le u.bits.isLt (by decide))]
  simp only [read?, toList_text]
  generalize hexText 32 u.bits.toNat = cs at hlength hvalue
  rw [if_neg (by simp [hlength]), if_neg (by simp [hlength]), if_neg (by simp [hlength]),
    readHyphenated?_groups (by simp [hlength]) (by simp [hlength]) (by simp [hlength]) (by simp [hlength])
      (by simp [hlength]), groups_append hlength, readPlain?, if_pos hlength, hvalue]
  simp

end Uuid
end EntityMapping
