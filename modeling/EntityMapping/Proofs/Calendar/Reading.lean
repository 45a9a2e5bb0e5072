import EntityMapping.Calendar.Reading
import EntityMapping.Proofs.Number.Digits

/-!
# Reading written dates and timestamps

What a date or a timestamp is written as on the wire reads back as itself: years of more than four digits with
their sign, fractions of a second at each of their lengths, and leap seconds.
-/

namespace EntityMapping

open Digits

theorem skipBlanks_of_not_isBlank {c : Char} (h : isBlank c = false) (cs : List Char) :
    skipBlanks (c :: cs) = c :: cs := by
  rw [skipBlanks, List.dropWhile_cons, h]
  rfl

theorem isBlank_toChar (d : Digit) : isBlank d.toChar = false := by
  revert d
  decide

/-- Digits are no blanks. -/
theorem skipBlanks_toChars {ds : List Digit} (h : ds ≠ []) (cs : List Char) :
    skipBlanks (toChars ds ++ cs) = toChars ds ++ cs := by
  cases ds with
  | nil => exact absurd rfl h
  | cons d ds => exact skipBlanks_of_not_isBlank (isBlank_toChar d) _

namespace CalendarReading

/-- Digits that fit the width are read, if the width ends the number or the text behind it does. -/
theorem number?_toChars {width : Nat} {ds : List Digit} {cs : List Char} (hne : ds ≠ [])
    (hle : ds.length ≤ width) (hend : ds.length = width ∨ StopsBefore cs) :
    number? width (toChars ds ++ cs) = some (value ds, cs) := by
  have htake : (toChars ds ++ cs).take width = toChars ds ++ cs.take (width - ds.length) := by
    rw [List.take_append, List.take_of_length_le (by simpa using hle), length_toChars]
  have hstop : StopsBefore (cs.take (width - ds.length)) := by
    obtain heq | hstop := hend
    · simp [heq]
    · cases cs with
      | nil => simp
      | cons c cs => cases width - ds.length <;> simp_all
  rw [number?, htake, split_toChars_append ds hstop]
  simp [hne]

/-- A number of two digits. -/
theorem number?_twoDigits {n : Nat} (h : n < 100) (cs : List Char) :
    number? 2 (toChars (padded 2 n) ++ cs) = some (n, cs) := by
  have hlength : (padded 2 n).length = 2 := length_padded (by decide) h
  rw [number?_toChars (padded_ne_nil 2 n) (Nat.le_of_eq hlength) (.inl hlength), value_padded]

theorem toList_twoDigits (n : Nat) : (Date.twoDigits n).toList = toChars (padded 2 n) := by
  rw [Date.twoDigits, Digits.text, String.toList_ofList]

/-! ## Dates -/

theorem year?_toChars {ds : List Digit} (h : ds ≠ []) (cs : List Char) :
    year? (toChars ds ++ cs) = (number? 4 (toChars ds ++ cs)).map fun (n, cs) => ((n : Int), cs) := by
  cases ds with
  | nil => exact absurd rfl h
  | cons d ds =>
    have hne {c : Char} (hc : Digit.ofChar? c = none) : d.toChar ≠ c := fun heq => by
      simp [← heq, Digit.ofChar?_toChar] at hc
    rw [toChars, List.map_cons, List.cons_append, year?]
    · exact fun cs' heq => hne (by decide : Digit.ofChar? '-' = none) (List.cons.inj heq).1
    · exact fun cs' heq => hne (by decide : Digit.ofChar? '+' = none) (List.cons.inj heq).1

/-- A year in four digits has no sign. -/
theorem toList_yearText_unsigned {year : Int} (h : 0 ≤ year ∧ year ≤ 9999) :
    (Date.yearText year).toList = toChars (padded 4 year.toNat) := by
  rw [Date.yearText, if_pos h, Digits.text, String.toList_ofList]

theorem toList_yearText_signed {year : Int} (h : ¬ (0 ≤ year ∧ year ≤ 9999)) :
    (Date.yearText year).toList = (if year < 0 then '-' else '+') :: toChars (padded 4 year.natAbs) := by
  rw [Date.yearText, if_neg h, String.toList_append, Digits.text, String.toList_ofList]
  split <;> rfl

/-- A year reads back, with or without a sign. -/
theorem year?_yearText (year : Int) {cs : List Char} (h : StopsBefore cs) :
    year? ((Date.yearText year).toList ++ cs) = some (year, cs) := by
  have hne (n : Nat) := padded_ne_nil 4 n
  by_cases hfour : 0 ≤ year ∧ year ≤ 9999
  · have hlength : (padded 4 year.toNat).length = 4 := length_padded (by decide) (by omega)
    rw [toList_yearText_unsigned hfour, year?_toChars (hne _),
      number?_toChars (hne _) (Nat.le_of_eq hlength) (.inl hlength), value_padded]
    simp only [Option.map_some, Int.toNat_of_nonneg hfour.1]
  · have hdigits : number? (toChars (padded 4 year.natAbs) ++ cs).length (toChars (padded 4 year.natAbs) ++ cs) =
        some (year.natAbs, cs) := by
      rw [number?_toChars (hne _) (by simp) (.inr h), value_padded]
    rw [toList_yearText_signed hfour, List.cons_append]
    by_cases hneg : year < 0
    · have habs : -(year.natAbs : Int) = year := by omega
      simp only [if_pos hneg, year?, hdigits, Option.map_some, habs]
    · have habs : (year.natAbs : Int) = year := by omega
      simp only [if_neg hneg, year?, hdigits, Option.map_some, habs]

theorem skipBlanks_yearText (year : Int) (cs : List Char) :
    skipBlanks ((Date.yearText year).toList ++ cs) = (Date.yearText year).toList ++ cs := by
  by_cases hfour : 0 ≤ year ∧ year ≤ 9999
  · rw [toList_yearText_unsigned hfour]
    exact skipBlanks_toChars (padded_ne_nil _ _) cs
  · rw [toList_yearText_signed hfour]
    split <;> exact skipBlanks_of_not_isBlank (by decide) _

theorem daysInMonth_le (year : Int) (month : Nat) : daysInMonth year month ≤ 31 := by
  unfold daysInMonth
  (repeat' split) <;> decide

/-- A date in front of anything reads back, whether or not blanks may stand in it. -/
theorem date?_text {gap : List Char → List Char} (hgap : ∀ cs, gap ('-' :: cs) = '-' :: cs) (d : Date)
    (cs : List Char) : date? gap (d.text.toList ++ cs) = some (d, cs) := by
  obtain ⟨year, month, day, hdate⟩ := d
  have ⟨_, _, _, hmonth, _, hday⟩ := hdate
  have hday' : day < 100 := by
    have := daysInMonth_le year month
    omega
  have hyear := year?_yearText year
    (stopsBefore_cons.mpr (by decide) : StopsBefore ('-' :: (toChars (padded 2 month) ++
      '-' :: (toChars (padded 2 day) ++ cs))))
  have htext : (Date.text ⟨year, month, day, hdate⟩).toList ++ cs = (Date.yearText year).toList ++
      '-' :: (toChars (padded 2 month) ++ '-' :: (toChars (padded 2 day) ++ cs)) := by
    simp [Date.text, String.toList_append, toList_twoDigits]
  rw [htext, date?, skipBlanks_yearText, hyear]
  simp [hgap, symbol?, skipBlanks_toChars (padded_ne_nil _ _), number?_twoDigits (show month < 100 by omega),
    number?_twoDigits hday', Date.of?, hdate]

/-! ## Timestamps -/

/-- A fraction that is written with some of nine digits. -/
theorem fraction?_padded {width n : Nat} (hpos : 0 < width) (hnine : width ≤ 9) (hlt : n < 10 ^ width) :
    fraction? (("." ++ Digits.text (padded width n)).toList ++ ['Z']) = some (n * 10 ^ (9 - width), ['Z']) := by
  have hlength : (padded width n).length = width := length_padded hpos hlt
  have hsplit := split_toChars_append (padded width n) (stopsBefore_cons.mpr (by decide) : StopsBefore ['Z'])
  have htext : ("." ++ Digits.text (padded width n)).toList ++ ['Z'] = '.' :: (toChars (padded width n) ++ ['Z']) := by
    simp [Digits.text]
  rw [htext]
  simp only [fraction?, hsplit]
  rw [if_neg (by simp [padded_ne_nil]), List.take_of_length_le (by omega), value_padded, hlength]

/-- A fraction of a second reads back at each of its lengths. -/
theorem fraction?_fractionText {nano : Nat} (h : nano < 1000000000) :
    fraction? ((Timestamp.fractionText nano).toList ++ ['Z']) = some (nano, ['Z']) := by
  unfold Timestamp.fractionText
  split
  · next hzero => rw [hzero]; rfl
  split
  · next hmilli =>
    have hback : nano / 1000000 * 10 ^ (9 - 3) = nano := by omega
    rw [fraction?_padded (by decide) (by decide) (by omega), hback]
  split
  · next hmicro =>
    have hback : nano / 1000 * 10 ^ (9 - 6) = nano := by omega
    rw [fraction?_padded (by decide) (by decide) (by omega), hback]
  · have hback : nano * 10 ^ (9 - 9) = nano := by omega
    rw [fraction?_padded (by decide) (by decide) (by omega), hback]

/-- Clocks of universal time show an instant itself. -/
theorem ofLocal?_zero (t : Timestamp) : Timestamp.ofLocal? t.date t.second t.nano 0 = some t := by
  obtain ⟨date, second, nano, hleap⟩ := t
  have hsecond := second.isLt
  have huniversal : Timestamp.secondOfDay (((second.val : Int) - 0) % 86400).toNat = second := by
    apply Fin.ext
    simp only [Timestamp.secondOfDay, Fin.val_ofNat]
    omega
  simp only [Timestamp.ofLocal?, huniversal]
  rw [if_neg (by omega), if_pos (by omega)]
  exact dif_pos hleap

/-- The parts that a clock shows of an instant name that instant, second 60 included. -/
theorem instant?_parts (t : Timestamp) :
    LocalTime.instant? ⟨t.date, t.second.val / 3600, t.second.val / 60 % 60,
      t.second.val % 60 + t.nano.val / 1000000000, t.nano.val % 1000000000⟩ 0 = some t := by
  have hsecond := t.second.isLt
  have hnano := t.nano.isLt
  have hleap := t.leap_at_end
  simp only [LocalTime.instant?]
  rw [if_pos (by omega)]
  by_cases hlast : t.second.val % 60 + t.nano.val / 1000000000 = 60
  · have hs : Timestamp.secondOfDay (t.second.val / 3600 * 3600 + t.second.val / 60 % 60 * 60 + 59) = t.second := by
      apply Fin.ext
      simp only [Timestamp.secondOfDay, Fin.val_ofNat]
      omega
    have hn : Timestamp.fraction (t.nano.val % 1000000000 + 1000000000) = t.nano := by
      apply Fin.ext
      simp only [Timestamp.fraction, Fin.val_ofNat]
      omega
    simp only [hlast, if_true, hs, hn, ofLocal?_zero]
  · have hs : Timestamp.secondOfDay (t.second.val / 3600 * 3600 + t.second.val / 60 % 60 * 60 +
        (t.second.val % 60 + t.nano.val / 1000000000)) = t.second := by
      apply Fin.ext
      simp only [Timestamp.secondOfDay, Fin.val_ofNat]
      omega
    have hn : Timestamp.fraction (t.nano.val % 1000000000 + 0) = t.nano := by
      apply Fin.ext
      simp only [Timestamp.fraction, Fin.val_ofNat]
      omega
    simp only [hlast, if_false, hs, hn, ofLocal?_zero]

theorem toList_wireText (t : Timestamp) :
    t.wireText.toList = t.date.text.toList ++ 'T' :: (toChars (padded 2 (t.second.val / 3600)) ++
      ':' :: (toChars (padded 2 (t.second.val / 60 % 60)) ++
        ':' :: (toChars (padded 2 (t.second.val % 60 + t.nano.val / 1000000000)) ++
          ((Timestamp.fractionText (t.nano.val % 1000000000)).toList ++ ['Z'])))) := by
  simp [Timestamp.wireText, Timestamp.localText, String.toList_append, toList_twoDigits]

theorem lenientTimestamp?_wireText (t : Timestamp) : lenientTimestamp? t.wireText.toList = some t := by
  have hsecond := t.second.isLt
  have hnano := t.nano.isLt
  have hgap (cs : List Char) : skipBlanks ('-' :: cs) = '-' :: cs := skipBlanks_of_not_isBlank (by decide) cs
  have hcolon (cs : List Char) : skipBlanks (':' :: cs) = ':' :: cs := skipBlanks_of_not_isBlank (by decide) cs
  have hzone : skipBlanks ['Z'] = ['Z'] := skipBlanks_of_not_isBlank (by decide) []
  have hend : skipBlanks [] = [] := rfl
  have hletter : universal? ['Z'] = none := by decide
  rw [toList_wireText, lenientTimestamp?, date?_text hgap]
  simp [separator?, skipBlanks_toChars (padded_ne_nil _ _), hcolon, symbol?,
    number?_twoDigits (show t.second.val / 3600 < 100 by omega),
    number?_twoDigits (show t.second.val / 60 % 60 < 100 by omega),
    number?_twoDigits (show t.second.val % 60 + t.nano.val / 1000000000 < 100 by omega),
    fraction?_fractionText (show t.nano.val % 1000000000 < 1000000000 by omega), hzone, hend, hletter, zone?,
    instant?_parts]

end CalendarReading

/-- A date reads back from the wire. -/
theorem Date.readWire?_text (d : Date) : Date.readWire? d.text = some d := by
  have hdate := CalendarReading.date?_text (skipBlanks_of_not_isBlank (by decide)) d []
  rw [List.append_nil] at hdate
  rw [Date.readWire?, hdate]
  rfl

/-- A timestamp reads back from the wire. -/
theorem Timestamp.readWire?_wireText (t : Timestamp) : Timestamp.readWire? t.wireText = some t :=
  CalendarReading.lenientTimestamp?_wireText t

end EntityMapping
