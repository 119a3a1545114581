import DispatchStore.Text.Hexadecimal
import DispatchStore.Text.Invisible

/-!
# Quoted text

A text shown between double quotes inside a message. The quote, the backslash, the tab and the line
ends have a short escape, and a character without a glyph of its own is written by number, so that
what is shown can be told apart from every other text.
-/

namespace DispatchStore.Text

/-- One character as it stands between quotes. -/
def quotedChar (c : Char) : List Char :=
  if c = '\x00' then ['\\', '0']
  else if c = '\t' then ['\\', 't']
  else if c = '\r' then ['\\', 'r']
  else if c = '\n' then ['\\', 'n']
  else if c = '"' then ['\\', '"']
  else if c = '\\' then ['\\', '\\']
  else if isInvisible c then '\\' :: 'u' :: '\x7b' :: (hexadecimal c.toNat ++ ['\x7d'])
  else [c]

/-- A text between double quotes. -/
def quoted (s : String) : String := String.ofList ('"' :: (s.toList.flatMap quotedChar ++ ['"']))

end DispatchStore.Text
