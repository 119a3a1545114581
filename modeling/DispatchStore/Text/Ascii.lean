/-!
# Letter case within ASCII

Names of tables and columns, declared types and the words of a setting are compared without regard
to the case of the letters `A` to `Z`. No other character has a second spelling.
-/

namespace DispatchStore.Text

/-- A text with the letters `A` to `Z` in lower case. -/
def lower (s : String) : String := String.ofList (s.toList.map Char.toLower)

/-- A text with the letters `a` to `z` in upper case. -/
def upper (s : String) : String := String.ofList (s.toList.map Char.toUpper)

/-- Whether two texts differ at most in the case of ASCII letters. -/
def sameLetters (s t : String) : Bool := lower s == lower t

/-- A text has the same letters as itself. -/
@[simp] theorem sameLetters_refl (s : String) : sameLetters s s = true := by simp [sameLetters]

/-- It makes no difference which of two texts is compared with the other. -/
theorem sameLetters_comm (s t : String) : sameLetters s t = sameLetters t s := by
  simp [sameLetters, Bool.beq_comm]

/-- Texts have the same letters when they are the same text in lower case. -/
theorem sameLetters_iff {s t : String} : sameLetters s t = true ↔ lower s = lower t := by
  simp [sameLetters]

/-- Texts with the same letters are compared with others alike. -/
theorem sameLetters_congr {s t : String} (h : sameLetters s t = true) (u : String) :
    sameLetters s u = sameLetters t u := by
  rw [sameLetters_iff] at h
  simp [sameLetters, h]

end DispatchStore.Text
