import DispatchStore.Text.Hexadecimal
import DispatchStore.Text.Utf8

/-!
# Percent encoding

A byte may be written as a percent sign and two hexadecimal digits. A percent sign without two
digits stands for itself. In the values of a form a plus sign stands for a space.
-/

namespace DispatchStore.Text

/-- The value of a byte that is a hexadecimal digit. -/
def hexByte? (b : UInt8) : Option UInt8 := (hexValue? (Char.ofNat b.toNat)).map UInt8.ofNat

/-- The bytes that percent-encoded bytes stand for. -/
def percentDecode : List UInt8 → List UInt8
  | [] => []
  | b :: h :: l :: rest =>
    if b = 0x25 then
      match hexByte? h, hexByte? l with
      | some x, some y => (x * 16 + y) :: percentDecode rest
      | _, _ => b :: percentDecode (h :: l :: rest)
    else b :: percentDecode (h :: l :: rest)
  | b :: rest => b :: percentDecode rest

/-- The parts of a list between the items that are `sep`. -/
def splitAll {α : Type} [DecidableEq α] (sep : α) : List α → List (List α)
  | [] => [[]]
  | a :: rest =>
    match splitAll sep rest with
    | [] => [[]]
    | part :: parts => if a = sep then [] :: part :: parts else (a :: part) :: parts

/-- The parts before and behind the first item that is `sep`. -/
def splitFirst {α : Type} [DecidableEq α] (sep : α) (l : List α) : List α × Option (List α) :=
  match l.dropWhile (· ≠ sep) with
  | [] => (l, none)
  | _ :: rest => (l.takeWhile (· ≠ sep), some rest)

/-- The text that the key or value of a form writes. -/
def formText (cs : List Char) : String :=
  ofUtf8Lossy (percentDecode (utf8 (String.ofList (cs.map fun c => if c = '+' then ' ' else c))))

/-- The pairs of key and value of a form, in order; what is empty between two ampersands is none. -/
def formPairs (s : String) : List (String × String) :=
  ((splitAll '&' s.toList).filter (!·.isEmpty)).map fun cs =>
    let (key, value) := splitFirst '=' cs
    (formText key, formText (value.getD []))

end DispatchStore.Text
