import EntityMapping.Calendar.Timestamp
import EntityMapping.Text.Blank

/-!
# Reading dates and timestamps

Two grammars are in use. Values are coerced from the *strict* grammars: `YYYY-MM-DDThh:mm:ss`, an
optional fraction and a zone for timestamps. The wire format takes the *lenient* ones, in which numbers may
have fewer digits, years may have a sign and more digits, and blanks may stand between the parts.

Each reader consumes the front of a text and returns what it found and the rest; a reading is complete when
nothing is left.
-/

namespace EntityMapping
namespace CalendarReading

/-- Reads between one and `width` digits. -/
def number? (width : Nat) (cs : List Char) : Option (Nat × List Char) :=
  let (ds, _) := Digits.split (cs.take width)
  if ds.isEmpty then none else some (Digits.value ds, cs.drop ds.length)

/-- Reads exactly `width` digits. -/
def fixed? (width : Nat) (cs : List Char) : Option (Nat × List Char) :=
  let (ds, _) := Digits.split (cs.take width)
  if ds.length = width then some (Digits.value ds, cs.drop width) else none

/-- Passes over one given character. -/
def symbol? (c : Char) : List Char → Option (List Char)
  | [] => none
  | d :: cs => if c = d then some cs else none

/-- Reads a year: up to four digits, or a sign and any number of them. -/
def year? (cs : List Char) : Option (Int × List Char) :=
  match cs with
  | '-' :: cs => (number? cs.length cs).map fun (n, cs) => (-(n : Int), cs)
  | '+' :: cs => (number? cs.length cs).map fun (n, cs) => ((n : Int), cs)
  | cs => (number? 4 cs).map fun (n, cs) => ((n : Int), cs)

/-- Reads a year, month and day with hyphens between, `gap` passing over what may stand before each. -/
def date? (gap : List Char → List Char) (cs : List Char) : Option (Date × List Char) := do
  let (year, cs) ← year? (skipBlanks cs)
  let cs ← symbol? '-' (gap cs)
  let (month, cs) ← number? 2 (skipBlanks cs)
  let cs ← symbol? '-' (gap cs)
  let (day, cs) ← number? 2 (skipBlanks cs)
  let date ← Date.of? year month day
  some (date, cs)

/-- Reads a fraction of a second: digits of which the first nine count. -/
def fraction? : List Char → Option (Nat × List Char)
  | '.' :: cs =>
    let (ds, rest) := Digits.split cs
    if ds.isEmpty then none
    else some (Digits.value (ds.take 9) * 10 ^ (9 - ds.length), rest)
  | cs => some (0, cs)

/-- Reads a zone as an offset in seconds: the letter for universal time, or a sign, two digits of hours and
two of minutes, `colon` passing over what stands between them. -/
def zone? (colon : List Char → Option (List Char)) : List Char → Option (Int × List Char)
  | [] => none
  | c :: cs =>
    if c = 'Z' ∨ c = 'z' then some (0, cs)
    else if c = '+' ∨ c = '-' ∨ c = '−' then do
      let (hours, cs) ← fixed? 2 cs
      let cs ← colon cs
      let (minutes, cs) ← fixed? 2 cs
      let seconds : Int := hours * 3600 + minutes * 60
      if minutes < 60 ∧ seconds < 86400 then some (if c = '+' then seconds else -seconds, cs) else none
    else none

/-- A date and the time of a day, before the zone is known. -/
structure LocalTime where
  date : Date
  hour : Nat
  minute : Nat
  second : Nat
  nano : Nat

/-- The instant that a local time and an offset name. Second 60 is a leap second. -/
def LocalTime.instant? (t : LocalTime) (offset : Int) : Option Timestamp :=
  let leap := t.second = 60
  let second := t.hour * 3600 + t.minute * 60 + (if leap then 59 else t.second)
  if t.hour < 24 ∧ t.minute < 60 ∧ t.second ≤ 60 then
    Timestamp.ofLocal? t.date (Timestamp.secondOfDay second)
      (Timestamp.fraction (t.nano + if leap then 1000000000 else 0)) offset
  else none

/-- Passes over the sign between date and time. -/
def separator? : List Char → Option (List Char)
  | c :: cs => if c = 'T' ∨ c = 't' ∨ c = ' ' then some cs else none
  | [] => none

/-- Reads a timestamp of the strict grammar. -/
def strictTimestamp? (cs : List Char) : Option Timestamp := do
  let (year, cs) ← fixed? 4 cs
  let cs ← symbol? '-' cs
  let (month, cs) ← fixed? 2 cs
  let cs ← symbol? '-' cs
  let (day, cs) ← fixed? 2 cs
  let cs ← separator? cs
  let (hour, cs) ← fixed? 2 cs
  let cs ← symbol? ':' cs
  let (minute, cs) ← fixed? 2 cs
  let cs ← symbol? ':' cs
  let (second, cs) ← fixed? 2 cs
  let (nano, cs) ← fraction? cs
  let (offset, cs) ← zone? (symbol? ':') cs
  let date ← Date.of? year month day
  if cs.isEmpty then LocalTime.instant? ⟨date, hour, minute, second, nano⟩ offset else none

/-- Passes over the three letters that name universal time, in any case. -/
def universal? (cs : List Char) : Option (List Char) :=
  if (cs.take 3).map Char.toLower = ['u', 't', 'c'] then some (cs.drop 3) else none

/-- Reads a timestamp of the lenient grammar. -/
def lenientTimestamp? (cs : List Char) : Option Timestamp := do
  let (date, cs) ← date? skipBlanks cs
  let cs ← separator? cs
  let (hour, cs) ← number? 2 (skipBlanks cs)
  let cs ← symbol? ':' (skipBlanks cs)
  let (minute, cs) ← number? 2 (skipBlanks cs)
  let cs ← symbol? ':' (skipBlanks cs)
  let (second, cs) ← number? 2 (skipBlanks cs)
  let (nano, cs) ← fraction? cs
  let cs := skipBlanks cs
  let (offset, cs) ← match universal? cs with
    | some cs => some (0, cs)
    | none => zone? (fun cs => some (cs.dropWhile fun c => c == ':' || isBlank c)) cs
  if (skipBlanks cs).isEmpty then LocalTime.instant? ⟨date, hour, minute, second, nano⟩ offset else none

end CalendarReading

/-- Reads a timestamp of the strict grammar. -/
def Timestamp.read? (text : String) : Option Timestamp :=
  CalendarReading.strictTimestamp? text.toList

/-- Reads a timestamp of the lenient grammar. -/
def Timestamp.readWire? (text : String) : Option Timestamp :=
  CalendarReading.lenientTimestamp? text.toList

/-- Reads a date of the strict grammar, which lets no blank stand before a hyphen or behind the day. -/
def Date.read? (text : String) : Option Date := do
  let (date, cs) ← CalendarReading.date? id text.toList
  if cs.isEmpty then some date else none

/-- Reads a date of the lenient grammar. -/
def Date.readWire? (text : String) : Option Date := do
  let (date, cs) ← CalendarReading.date? skipBlanks text.toList
  if (skipBlanks cs).isEmpty then some date else none

end EntityMapping
