/-!
# Bytes of a text

Positions in a text are counted in the bytes of its UTF-8 form.
-/

namespace DispatchStore.Text

/-- The number of bytes of a list of characters. -/
def byteCount : List Char → Nat
  | [] => 0
  | c :: cs => c.utf8Size + byteCount cs

end DispatchStore.Text
