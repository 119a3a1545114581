import DispatchStore.Decimal.Natural
import DispatchStore.Text.Blank
import DispatchStore.Text.Bytes
import DispatchStore.Time.Timestamp

/-!
# Parts of a written instant

The pieces that both readers of instants share: digits, the fraction of a second and the offset from
universal time. Each reads from the front of a list of characters and returns the rest.
-/

namespace DispatchStore.Time

open Decimal (digitValue ofDigits)

/-- Why a text is no instant. -/
inductive Fault where
  | tooShort
  | invalid
  | outOfRange
  | tooLong
  /-- The local time has no instant within the range of dates. -/
  | impossible
deriving DecidableEq

/-- The text of a fault. -/
def Fault.message : Fault → String
  | tooShort => "premature end of input"
  | invalid => "input contains invalid characters"
  | outOfRange => "input is out of range"
  | tooLong => "trailing input"
  | impossible => "no possible date and time matching input"

/-- The value, or the given fault if there is none. -/
def orFault {α : Type} (fault : Fault) : Option α → Except Fault α
  | some a => .ok a
  | none => .error fault

/-- One digit. -/
def digit : List Char → Except Fault (Nat × List Char)
  | [] => .error .tooShort
  | c :: cs => if c.isDigit then .ok (digitValue c, cs) else .error .invalid

/-- Two digits. -/
def twoDigits (cs : List Char) : Except Fault (Nat × List Char) := do
  let (a, cs) ← digit cs
  let (b, cs) ← digit cs
  return (10 * a + b, cs)

/-- The character `ch`. -/
def exactly (ch : Char) : List Char → Except Fault (Unit × List Char)
  | [] => .error .tooShort
  | c :: cs => if c = ch then .ok ((), cs) else .error .invalid

/-- The character between date and time. -/
def separator : List Char → Except Fault (Unit × List Char)
  | [] => .error .tooShort
  | c :: cs => if c = 'T' || c = 't' || c = ' ' then .ok ((), cs) else .error .invalid

/-- The nanoseconds that the digits of a fraction say; digits after the ninth do not count. -/
def fractionDigits (cs : List Char) : Except Fault (Nat × List Char) :=
  let digits := cs.takeWhile Char.isDigit
  let rest := cs.dropWhile Char.isDigit
  match digits, rest with
  | [], [] => .error .tooShort
  | [], _ :: _ => .error .invalid
  | _ :: _, _ => .ok (ofDigits ((digits ++ List.replicate 9 '0').take 9), rest)

/-- The fraction of a second, if a point begins one. -/
def fraction : List Char → Except Fault (Nat × List Char)
  | '.' :: cs => fractionDigits cs
  | cs => .ok (0, cs)

/-- Two digits of an offset, which are missing if fewer than two bytes are left. -/
def offsetDigits (cs : List Char) : Except Fault (Nat × List Char) :=
  if Text.byteCount cs < 2 then .error .tooShort
  else match cs with
    | a :: b :: rest =>
      if a.isDigit && b.isDigit then .ok (10 * digitValue a + digitValue b, rest)
      else .error .invalid
    | _ => .error .invalid

/-- The offset from universal time in minutes: `Z`, or a sign, hours and minutes with `between` read
between them. The sign may be the minus of U+2212. -/
def offset (between : List Char → Except Fault (List Char)) :
    List Char → Except Fault (Int × List Char)
  | [] => .error .tooShort
  | c :: cs =>
    if c = 'Z' || c = 'z' then .ok (0, cs)
    else if c = '+' || c = '-' || c = '−' then do
      let (hours, cs) ← offsetDigits cs
      let cs ← between cs
      let (minutes, cs) ← offsetDigits cs
      if 60 ≤ minutes then .error .outOfRange
      else
        let total : Int := 60 * hours + minutes
        .ok (if c = '+' then total else -total, cs)
    else .error .invalid

/-- Minutes of an offset that is less than a day. -/
def checkOffset (minutes : Int) : Except Fault Int :=
  if minutes.natAbs < 1440 then .ok minutes else .error .outOfRange

/-- The second of the day and the nanosecond that a clock shows; second 60 is a leap second. -/
def clock? (hour minute second nano : Nat) : Option (Nat × Nat) :=
  if hour ≤ 23 && minute ≤ 59 && second ≤ 60 then
    if second = 60 then some (3600 * hour + 60 * minute + 59, 1000000000 + nano)
    else some (3600 * hour + 60 * minute + second, nano)
  else none

end DispatchStore.Time
