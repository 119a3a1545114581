import DispatchStore.Json.Decoder
import DispatchStore.Time.Scan

/-!
# The lenient form of an instant

The form that the JSON reader takes. Parts may be short of digits and have white space around them,
the year may have a sign and then any number of digits, the offset may be `UTC` and need no colon.
Month, day, hour, minute and second are checked as they are read, the date as a whole at the end.
-/

namespace DispatchStore.Time

open Text (trimStart isBlank)

/-- The longest run of at most `width` digits at the front. -/
def digitsUpTo : Nat → List Char → List Char × List Char
  | 0, cs => ([], cs)
  | _, [] => ([], [])
  | width + 1, c :: cs =>
    if c.isDigit then
      let (ds, rest) := digitsUpTo width cs
      (c :: ds, rest)
    else ([], c :: cs)

/-- A number of one to `width` digits. -/
def shortNumber (width : Nat) (cs : List Char) : Except Fault (Nat × List Char) :=
  match digitsUpTo width cs, cs with
  | ([], _), [] => .error .tooShort
  | ([], _), _ :: _ => .error .invalid
  | (ds, rest), _ =>
    let n := Decimal.ofDigits ds
    if n ≤ 9223372036854775807 then .ok (n, rest) else .error .outOfRange

/-- A number of one or two digits after white space, which has to lie in a range. -/
def part (low high : Nat) (cs : List Char) : Except Fault (Nat × List Char) := do
  let (n, cs) ← shortNumber 2 (trimStart cs)
  if low ≤ n && n ≤ high then return (n, cs) else throw .outOfRange

/-- The character `ch` after white space. -/
def mark (ch : Char) (cs : List Char) : Except Fault (List Char) :=
  match trimStart cs with
  | [] => .error .tooShort
  | c :: rest => if c = ch then .ok rest else .error .invalid

/-- A year of up to four digits, or a sign and digits. -/
def lenientYear (cs : List Char) : Except Fault (Int × List Char) := do
  let (year, rest) ← match trimStart cs with
    | '-' :: ds => do
      let (n, rest) ← shortNumber ds.length ds
      pure (-(n : Int), rest)
    | '+' :: ds => do
      let (n, rest) ← shortNumber ds.length ds
      pure ((n : Int), rest)
    | ds => do
      let (n, rest) ← shortNumber 4 ds
      pure ((n : Int), rest)
  if -2147483648 ≤ year && year ≤ 2147483647 then return (year, rest) else throw .outOfRange

/-- The offset after white space: `UTC` in any case, or hours and minutes with colons and white
space between them. -/
def lenientOffset (cs : List Char) : Except Fault (Int × List Char) :=
  let between := fun cs => Except.ok (cs.dropWhile fun c => c = ':' || isBlank c)
  match trimStart cs with
  | u :: t :: c :: rest =>
    if u.toUpper = 'U' && t.toUpper = 'T' && c.toUpper = 'C' then .ok (0, rest)
    else offset between (u :: t :: c :: rest)
  | cs => offset between cs

/-- Reads the lenient form from a list of characters. -/
def readLenient (cs : List Char) : Except Fault Timestamp := do
  let (year, cs) ← lenientYear cs
  let cs ← mark '-' cs
  let (month, cs) ← part 1 12 cs
  let cs ← mark '-' cs
  let (day, cs) ← part 1 31 cs
  let (_, cs) ← separator cs
  let (hour, cs) ← part 0 23 cs
  let cs ← mark ':' cs
  let (minute, cs) ← part 0 59 cs
  let cs ← mark ':' cs
  let (second, cs) ← part 0 60 cs
  let (nano, cs) ← fraction cs
  let (minutes, cs) ← lenientOffset cs
  if !(trimStart cs).isEmpty then throw .tooLong
  let date ← orFault .outOfRange (Date.of? year month day)
  let (second, nano) ← orFault .outOfRange (clock? hour minute second nano)
  let minutes ← checkOffset minutes
  orFault .impossible (Timestamp.ofLocal? date second nano minutes)

end DispatchStore.Time

namespace DispatchStore.Timestamp

/-- Reads an instant in the lenient form. -/
def parseLenient (s : String) : Except Time.Fault Timestamp := Time.readLenient s.toList

/-- The JSON form of an instant. -/
def toJson (t : Timestamp) : Json := .text t.full

/-- Reads an instant from its JSON form. -/
def decoder : Json.Decoder Timestamp :=
  Json.Decoder.checkedText "an RFC 3339 formatted date and time string" fun s =>
    (parseLenient s).mapError Time.Fault.message

end DispatchStore.Timestamp
