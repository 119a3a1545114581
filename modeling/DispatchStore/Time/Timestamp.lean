import DispatchStore.Decimal.Natural
import DispatchStore.Time.Date

/-!
# Instants

An instant of universal time to the nanosecond. A leap second is the last second of a minute gone
on for up to another second: its nanoseconds run from one to two thousand million. Instants are
compared by date, second and nanosecond, so a leap second lies between the second before it and the
next minute.

The canonical text has milliseconds, the full text as many of three, six or nine fraction digits as
the nanoseconds need.
-/

namespace DispatchStore

open Time (Date)

/-- An instant of universal time.
Source: `Timestamp`, specification §16 -/
structure Timestamp where
  /-- The day. -/
  date : Date
  /-- The second of the day. -/
  second : Nat
  /-- The nanosecond of the second, and from one thousand million on of the leap second after it. -/
  nano : Nat
  second_lt : second < 86400
  nano_lt : nano < 2000000000
  leap_ends_minute : 1000000000 ≤ nano → second % 60 = 59
deriving DecidableEq

namespace Timestamp

/-- The instant with the given parts, if there is one. -/
def of? (date : Date) (second nano : Nat) : Option Timestamp :=
  if h : second < 86400 ∧ nano < 2000000000 ∧ (1000000000 ≤ nano → second % 60 = 59) then
    some ⟨date, second, nano, h.1, h.2.1, h.2.2⟩
  else none

/-- The instant at which a clock `minutes` ahead of universal time shows the given parts. The offset
is less than a day, so the instant lies on that date or on one of its neighbours. -/
def ofLocal? (date : Date) (second nano : Nat) (minutes : Int) : Option Timestamp :=
  let s := (second : Int) - minutes * 60
  if s < 0 then date.prev?.bind fun d => of? d (s + 86400).toNat nano
  else if s < 86400 then of? date s.toNat nano
  else date.next?.bind fun d => of? d (s - 86400).toNat nano

/-- The instant `n` milliseconds after the beginning of 1970. -/
def ofEpochMillis? (n : Int) : Option Timestamp :=
  (Date.ofEpochDay? (n / 86400000)).bind fun d =>
    let ms := (n % 86400000).toNat
    of? d (ms / 1000) (ms % 1000 * 1000000)

/-! ## Order -/

/-- The parts in the order in which instants are compared. -/
def key (t : Timestamp) : List Int :=
  [t.date.year, t.date.month, t.date.day, t.second, t.nano]

/-- Whether `t` is earlier than `u`, the same or later. -/
def compare (t u : Timestamp) : Ordering := compareOfLessAndEq t.key u.key

instance : LE Timestamp := ⟨fun t u => t.compare u ≠ .gt⟩

instance (t u : Timestamp) : Decidable (t ≤ u) :=
  inferInstanceAs (Decidable (t.compare u ≠ .gt))

/-! ## Text -/

/-- A number with at least two digits. -/
def two (n : Nat) : String := Decimal.padded 2 n

/-- A year: four digits, and a sign before all others than 0 to 9999. -/
def yearText (year : Int) : String :=
  if 0 ≤ year && year ≤ 9999 then Decimal.padded 4 year.toNat
  else (if year < 0 then "-" else "+") ++ Decimal.padded 4 year.natAbs

/-- Date and time up to the second; a leap second is second 60. -/
def secondsText (t : Timestamp) : String :=
  let leap := if 1000000000 ≤ t.nano then 1 else 0
  yearText t.date.year ++ "-" ++ two t.date.month ++ "-" ++ two t.date.day ++ "T" ++
    two (t.second / 3600) ++ ":" ++ two (t.second / 60 % 60) ++ ":" ++ two (t.second % 60 + leap)

/-- The canonical text, with the milliseconds cut off below.
Source: `to_iso_string`, specification §16 -/
def iso (t : Timestamp) : String :=
  t.secondsText ++ "." ++ Decimal.padded 3 (t.nano % 1000000000 / 1000000) ++ "Z"

/-- The full text, with the fraction digits it needs. -/
def full (t : Timestamp) : String :=
  let n := t.nano % 1000000000
  let fraction :=
    if n = 0 then ""
    else if n % 1000000 = 0 then "." ++ Decimal.padded 3 (n / 1000000)
    else if n % 1000 = 0 then "." ++ Decimal.padded 6 (n / 1000)
    else "." ++ Decimal.padded 9 n
  t.secondsText ++ fraction ++ "Z"

end Timestamp

end DispatchStore
