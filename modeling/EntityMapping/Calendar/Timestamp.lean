import EntityMapping.Calendar.Date

/-!
# Timestamps

Instants of universal time in nanoseconds. A leap second is held as a fraction of more than one second
behind the last second of its minute, so that it sorts where it belongs, and is written as second 60.
-/

namespace EntityMapping

/-- An instant: a date, a second of the day, and a fraction in nanoseconds. -/
structure Timestamp where
  date : Date
  second : Fin 86400
  nano : Fin 2000000000
  leap_at_end : 1000000000 ≤ nano.val → second.val % 60 = 59
  deriving DecidableEq

namespace Timestamp

/-- Midnight of the first day of 1970. -/
def epoch : Timestamp := ⟨Date.epoch, 0, 0, by decide⟩

instance : Inhabited Timestamp := ⟨epoch⟩

/-- Timestamps are ordered by date, then second, then fraction. -/
def compare (a b : Timestamp) : Ordering :=
  (a.date.compare b.date).then ((Ord.compare a.second b.second).then (Ord.compare a.nano b.nano))

/-- The fraction of a second as three, six or nine digits, whichever is enough, or as nothing. -/
def fractionText (nano : Nat) : String :=
  if nano = 0 then ""
  else if nano % 1000000 = 0 then "." ++ Digits.text (Digits.padded 3 (nano / 1000000))
  else if nano % 1000 = 0 then "." ++ Digits.text (Digits.padded 6 (nano / 1000))
  else "." ++ Digits.text (Digits.padded 9 nano)

/-- The text of a timestamp without its zone. -/
def localText (t : Timestamp) : String :=
  let second := t.second.val % 60 + t.nano.val / 1000000000
  t.date.text ++ "T" ++ Date.twoDigits (t.second.val / 3600) ++ ":" ++
    Date.twoDigits (t.second.val / 60 % 60) ++ ":" ++ Date.twoDigits second ++
    fractionText (t.nano.val % 1000000000)

/-- The text of a timestamp for people, which shows the offset of universal time. -/
def text (t : Timestamp) : String := t.localText ++ "+00:00"

/-- The text of a timestamp on the wire. -/
def wireText (t : Timestamp) : String := t.localText ++ "Z"

/-- A second of the day. -/
def secondOfDay (n : Nat) : Fin 86400 := Fin.ofNat _ n

/-- A fraction of a second, or of the last second of a minute and the leap second behind it. -/
def fraction (n : Nat) : Fin 2000000000 := Fin.ofNat _ n

/-- The instant at which clocks that are `offset` seconds ahead of universal time show the given date,
second of the day and fraction; offsets are below one day. -/
def ofLocal? (date : Date) (second : Fin 86400) (nano : Fin 2000000000) (offset : Int) :
    Option Timestamp := do
  let shifted : Int := second.val - offset
  let day ← if shifted < 0 then date.previous? else if shifted < 86400 then some date else date.next?
  let universal := secondOfDay (shifted % 86400).toNat
  if h : 1000000000 ≤ nano.val → universal.val % 60 = 59 then some ⟨day, universal, nano, h⟩ else none

end Timestamp
end EntityMapping
