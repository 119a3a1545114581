/-!
# Bytes as text

UTF-8 read from a list of bytes. A character takes one to four bytes, and the first of them says
how many. Bytes that begin no character are bad from the first byte that does not fit: the strict
reading says where they are and how many, the lenient one puts a replacement character in their
place.
-/

namespace DispatchStore.Text

/-- The UTF-8 form of a text. -/
def utf8 (s : String) : List UInt8 := s.toList.flatMap String.utf8EncodeChar

/-- What a list of bytes begins with. -/
inductive Utf8Head where
  /-- A character of the given number of bytes. -/
  | char (c : Char) (length : Nat)
  /-- Bytes that begin no character. -/
  | bad (length : Nat)
  /-- The beginning of a character at the end of the list. -/
  | cut

/-- Whether `b` may come after the first byte of a character. -/
def isContinuation (b : UInt8) : Bool := 0x80 ≤ b && b ≤ 0xBF

/-- The lowest and the highest second byte after the first byte `b`. -/
def secondRange (b : UInt8) : UInt8 × UInt8 :=
  if b = 0xE0 then (0xA0, 0xBF)
  else if b = 0xED then (0x80, 0x9F)
  else if b = 0xF0 then (0x90, 0xBF)
  else if b = 0xF4 then (0x80, 0x8F)
  else (0x80, 0xBF)

/-- The number of bytes of a character that begins with `b`; zero if none does. -/
def sequenceLength (b : UInt8) : Nat :=
  if b < 0x80 then 1
  else if 0xC2 ≤ b && b ≤ 0xDF then 2
  else if 0xE0 ≤ b && b ≤ 0xEF then 3
  else if 0xF0 ≤ b && b ≤ 0xF4 then 4
  else 0

/-- The number of bytes that fit behind the first one, which is followed by `bs`, if there may be
`wanted` of them. -/
def fitting (first : UInt8) (wanted : Nat) (bs : List UInt8) : Nat :=
  match bs.take wanted with
  | [] => 0
  | second :: others =>
    if (secondRange first).1 ≤ second && second ≤ (secondRange first).2 then
      1 + (others.takeWhile isContinuation).length
    else 0

/-- The code point that a whole sequence of bytes writes. -/
def codePoint : List UInt8 → Nat
  | [a] => a.toNat
  | [a, b] => a.toNat % 0x20 * 0x40 + b.toNat % 0x40
  | [a, b, c] => (a.toNat % 0x10 * 0x40 + b.toNat % 0x40) * 0x40 + c.toNat % 0x40
  | [a, b, c, d] =>
    ((a.toNat % 0x08 * 0x40 + b.toNat % 0x40) * 0x40 + c.toNat % 0x40) * 0x40 + d.toNat % 0x40
  | _ => 0

/-- What a list of bytes that begins with `first` begins with. -/
def utf8Head (first : UInt8) (bs : List UInt8) : Utf8Head :=
  match sequenceLength first with
  | 0 => .bad 1
  | n + 1 =>
    let fit := fitting first n bs
    if fit = n then .char (Char.ofNat (codePoint (first :: bs.take n))) (n + 1)
    else if fit = bs.length then .cut
    else .bad (fit + 1)

/-- Where bytes are no text: the bytes before, and the number of bad bytes unless the list ends
within a character. -/
structure Utf8Error where
  index : Nat
  length : Option Nat
deriving DecidableEq

/-- Reads bytes strictly; `index` is the number of bytes before them, `skip` how many of them belong
to a character that was read. -/
def ofUtf8From : Nat → Nat → List UInt8 → Except Utf8Error (List Char)
  | _, _, [] => .ok []
  | index, skip + 1, _ :: bs => ofUtf8From (index + 1) skip bs
  | index, 0, b :: bs =>
    match utf8Head b bs with
    | .char c n => (ofUtf8From (index + 1) (n - 1) bs).map (c :: ·)
    | .bad n => .error ⟨index, some n⟩
    | .cut => .error ⟨index, none⟩

/-- The text that bytes write. -/
def ofUtf8 (bs : List UInt8) : Except Utf8Error String := (ofUtf8From 0 0 bs).map String.ofList

/-- The character in the place of bytes that are no text. -/
def replacement : Char := '\ufffd'

/-- Reads bytes leniently; `skip` is how many of them were read already. -/
def ofUtf8LossyFrom : Nat → List UInt8 → List Char
  | _, [] => []
  | skip + 1, _ :: bs => ofUtf8LossyFrom skip bs
  | 0, b :: bs =>
    match utf8Head b bs with
    | .char c n => c :: ofUtf8LossyFrom (n - 1) bs
    | .bad n => replacement :: ofUtf8LossyFrom (n - 1) bs
    | .cut => [replacement]

/-- The text that bytes write, with replacements for what is none. -/
def ofUtf8Lossy (bs : List UInt8) : String := String.ofList (ofUtf8LossyFrom 0 bs)

end DispatchStore.Text
