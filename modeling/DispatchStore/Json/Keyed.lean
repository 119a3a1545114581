import DispatchStore.Json.Basic
import DispatchStore.Json.Error

/-!
# Objects from keyed values

A map from keys of any kind becomes an object only if its keys are texts.
-/

namespace DispatchStore.Json

/-- The key of a map. -/
inductive Key where
  | text (s : String)
  | pair (a b : Int)

/-- The members that a map becomes; a key that is no text is refused. -/
def keyedMembers : List (Key × Json) → Except Error (List (String × Json))
  | [] => .ok []
  | (.text s, v) :: rest => (keyedMembers rest).map fun ms => (s, v) :: ms
  | (.pair _ _, _) :: _ => .error ⟨.keyNotText, none⟩

/-- The object that a map becomes. -/
def ofKeyed (members : List (Key × Json)) : Except Error Json :=
  (keyedMembers members).map .object

end DispatchStore.Json
