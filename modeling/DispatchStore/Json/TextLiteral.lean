import DispatchStore.Text.Bytes
import DispatchStore.Text.Hexadecimal
import DispatchStore.Json.Cursor

/-!
# Reading a text

From behind the opening quote to behind the closing one. A control character has to be escaped; an
escape of four hexadecimal digits names a UTF-16 unit, and two surrogates in a row one character.
A text whose value nobody needs is passed over with the same checks, except that surrogates need
not come in pairs.
-/

namespace DispatchStore.Json

open Text (hexValue?)

/-- Reads four hexadecimal digits. The four bytes count as read even if they are no digits. -/
def hexUnit (c : Cursor) : Step Nat :=
  if Text.byteCount c.rest < 4 then
    .failed ⟨.endInText, some (c.position.advance 4 c.rest)⟩ c
  else
    let bad : Step Nat := .failed ⟨.badEscape, some (c.position.advance 4 c.rest)⟩ c
    match c.rest with
    | h₁ :: h₂ :: h₃ :: h₄ :: _ =>
      match hexValue? h₁, hexValue? h₂, hexValue? h₃, hexValue? h₄ with
      | some v₁, some v₂, some v₃, some v₄ =>
        .done (((v₁ * 16 + v₂) * 16 + v₃) * 16 + v₄) c.skipOne.skipOne.skipOne.skipOne
      | _, _, _, _ => bad
    | _ => bad

/-- Reads the character `ch`, which has to follow a leading surrogate. -/
def afterSurrogate (ch : Char) (c : Cursor) : Step Unit :=
  match c.rest with
  | [] => c.failHere .endInText
  | d :: _ => if d = ch then .done () c.skipOne else c.failNext .halfEscape

/-- Reads what follows `\u`: one unit, or a leading surrogate and the escape of the other half. -/
def unicodeEscape (c : Cursor) : Step Char :=
  (hexUnit c).andThen fun n c₁ =>
    if 0xDC00 ≤ n && n ≤ 0xDFFF then c₁.failHere .loneSurrogate
    else if n < 0xD800 || 0xDBFF < n then .done (Char.ofNat n) c₁
    else
      (afterSurrogate '\\' c₁).andThen fun _ c₂ =>
      (afterSurrogate 'u' c₂).andThen fun _ c₃ =>
      (hexUnit c₃).andThen fun m c₄ =>
        if 0xDC00 ≤ m && m ≤ 0xDFFF then
          .done (Char.ofNat ((n - 0xD800) * 0x400 + (m - 0xDC00) + 0x10000)) c₄
        else c₄.failHere .loneSurrogate

/-- The character that a one-letter escape stands for. -/
def shortEscape? (c : Char) : Option Char :=
  match c with
  | '"' => some '"'
  | '\\' => some '\\'
  | '/' => some '/'
  | 'b' => some '\x08'
  | 'f' => some '\x0c'
  | 'n' => some '\n'
  | 'r' => some '\r'
  | 't' => some '\t'
  | _ => none

/-- Reads an escape from behind its backslash. -/
def escape (c : Cursor) : Step Char :=
  match c.rest with
  | [] => c.failHere .endInText
  | ch :: _ =>
    match shortEscape? ch with
    | some d => .done d c.skipOne
    | none => if ch = 'u' then unicodeEscape c.skipOne else c.failNext .badEscape

/-- Passes over an escape from behind its backslash. -/
def skipEscape (c : Cursor) : Step Unit :=
  match c.rest with
  | [] => c.failHere .endInText
  | ch :: _ =>
    if (shortEscape? ch).isSome then .done () c.skipOne
    else if ch = 'u' then (hexUnit c.skipOne).map fun _ => ()
    else c.failNext .badEscape

/-- Reads a text to its closing quote; `acc` holds the characters so far, the last one first, and
`fuel` is at least the number of characters left. -/
def textFrom : Nat → List Char → Cursor → Step String
  | 0, _, c => c.failHere .endInText
  | fuel + 1, acc, c =>
    match c.rest with
    | [] => c.failHere .endInText
    | ch :: _ =>
      if ch = '"' then .done (String.ofList acc.reverse) c.skipOne
      else if ch = '\\' then
        (escape c.skipOne).andThen fun d next => textFrom fuel (d :: acc) next
      else if ch.toNat < 0x20 then c.failNext .controlCharacter
      else textFrom fuel (ch :: acc) c.skipOne

/-- Passes over a text to its closing quote. -/
def skipTextFrom : Nat → Cursor → Step Unit
  | 0, c => c.failHere .endInText
  | fuel + 1, c =>
    match c.rest with
    | [] => c.failHere .endInText
    | ch :: _ =>
      if ch = '"' then .done () c.skipOne
      else if ch = '\\' then (skipEscape c.skipOne).andThen fun _ next => skipTextFrom fuel next
      else if ch.toNat < 0x20 then c.failHere .controlCharacter
      else skipTextFrom fuel c.skipOne

/-- Reads a text from its opening quote, which the cursor stands before. -/
def textLiteral (c : Cursor) : Step String := textFrom c.rest.length [] c.skipOne

/-- Passes over a text from its opening quote. -/
def skipText (c : Cursor) : Step Unit := skipTextFrom c.rest.length c.skipOne

end DispatchStore.Json
