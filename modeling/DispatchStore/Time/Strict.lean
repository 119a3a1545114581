import DispatchStore.Time.Scan

/-!
# The strict form of an instant

`YYYY-MM-DDThh:mm:ss`, an optional fraction and an offset, with every part in its full width. The
blank characters around it do not count. The date is checked as soon as it is read, the time after
the fraction, the size of the offset at the end.
-/

namespace DispatchStore.Time

/-- The date of the strict form. -/
def strictDate (cs : List Char) : Except Fault (Date × List Char) := do
  let (y₁, cs) ← twoDigits cs
  let (y₂, cs) ← twoDigits cs
  let (_, cs) ← exactly '-' cs
  let (month, cs) ← twoDigits cs
  let (_, cs) ← exactly '-' cs
  let (day, cs) ← twoDigits cs
  let date ← orFault .outOfRange (Date.of? (100 * y₁ + y₂ : Nat) month day)
  return (date, cs)

/-- The second and nanosecond of the strict form. -/
def strictClock (cs : List Char) : Except Fault ((Nat × Nat) × List Char) := do
  let (hour, cs) ← twoDigits cs
  let (_, cs) ← exactly ':' cs
  let (minute, cs) ← twoDigits cs
  let (_, cs) ← exactly ':' cs
  let (second, cs) ← twoDigits cs
  let (nano, cs) ← fraction cs
  let time ← orFault .outOfRange (clock? hour minute second nano)
  return (time, cs)

/-- Reads the strict form from a list of characters. -/
def readStrict (cs : List Char) : Except Fault Timestamp := do
  if Text.byteCount cs < 19 then throw .tooShort
  let (date, cs) ← strictDate cs
  let (_, cs) ← separator cs
  let ((second, nano), cs) ← strictClock cs
  let (minutes, cs) ← offset (fun cs => (exactly ':' cs).map Prod.snd) cs
  if !cs.isEmpty then throw .tooLong
  let minutes ← checkOffset minutes
  orFault .outOfRange (Timestamp.ofLocal? date second nano minutes)

end DispatchStore.Time

namespace DispatchStore.Timestamp

/-- Reads an instant in the strict form.
Source: `parse`, specification §16 -/
def parse (s : String) : Except Time.Fault Timestamp := Time.readStrict (Text.trim s).toList

end DispatchStore.Timestamp
