import Mathlib.Data.List.DropRight
import DispatchStore.Text.Blank

/-!
# Texts without blanks around them

A text is trimmed if it neither begins nor ends with a blank character. Trimming leaves such a text
as it is and turns every other one into one (`trim_eq_self_iff`, `isTrimmed_trim`).
-/

namespace DispatchStore.Text

/-- The text neither begins nor ends with a blank character. -/
def IsTrimmed (s : String) : Prop :=
  (∀ c ∈ s.toList.head?, isBlank c = false) ∧ ∀ c ∈ s.toList.getLast?, isBlank c = false

/-- Trimming takes blank characters off both ends and no others. -/
theorem toList_trim (s : String) :
    (trim s).toList = (s.toList.dropWhile isBlank).rdropWhile isBlank := String.toList_ofList

/-- Nothing is taken off the front exactly if the first character, if any, is not blank. -/
theorem dropWhile_isBlank_eq_self_iff {cs : List Char} :
    cs.dropWhile isBlank = cs ↔ ∀ c ∈ cs.head?, isBlank c = false := by
  cases cs with
  | nil => simp
  | cons c cs => simp [List.dropWhile_eq_self_iff]

/-- Nothing is taken off the end exactly if the last character, if any, is not blank. -/
theorem rdropWhile_isBlank_eq_self_iff {cs : List Char} :
    cs.rdropWhile isBlank = cs ↔ ∀ c ∈ cs.getLast?, isBlank c = false := by
  cases cs with
  | nil => simp
  | cons c cs =>
    rw [List.rdropWhile_eq_self_iff, List.getLast?_eq_some_getLast (List.cons_ne_nil c cs)]
    simp

/-- What is trimmed neither begins nor ends with a blank character. -/
theorem isTrimmed_trim (s : String) : IsTrimmed (trim s) := by
  unfold IsTrimmed
  rw [toList_trim]
  constructor
  · intro c hc
    have hfirst :=
      dropWhile_isBlank_eq_self_iff.1 (List.dropWhile_idempotent (p := isBlank) s.toList)
    obtain ⟨ds, hds⟩ := List.rdropWhile_prefix isBlank (s.toList.dropWhile isBlank)
    apply hfirst
    rw [← hds, List.head?_append, Option.mem_def, Option.mem_def.1 hc]
    rfl
  · exact rdropWhile_isBlank_eq_self_iff.1 (List.rdropWhile_idempotent isBlank _)

/-- A text stays as it is exactly if neither end of it is blank. -/
theorem trim_eq_self_iff {s : String} : trim s = s ↔ IsTrimmed s := by
  constructor
  · intro h
    rw [← h]
    exact isTrimmed_trim s
  · rintro ⟨hfirst, hlast⟩
    rw [← String.toList_inj, toList_trim, dropWhile_isBlank_eq_self_iff.2 hfirst,
      rdropWhile_isBlank_eq_self_iff.2 hlast]

instance (s : String) : Decidable (IsTrimmed s) := decidable_of_iff (trim s = s) trim_eq_self_iff

/-- Nothing is left of a blank text, and something of every other one. -/
@[simp] theorem trim_eq_empty_iff {s : String} : trim s = "" ↔ isBlankText s = true := by
  unfold isBlankText
  rw [← String.toList_inj, toList_trim, String.toList_empty, List.rdropWhile_eq_nil_iff,
    List.all_eq_true]
  constructor
  · intro h
    have hfirst :=
      dropWhile_isBlank_eq_self_iff.1 (List.dropWhile_idempotent (p := isBlank) s.toList)
    cases hleft : s.toList.dropWhile isBlank with
    | nil => exact List.dropWhile_eq_nil_iff.1 hleft
    | cons c cs =>
      -- the first character that is left is not blank
      rw [hleft] at h hfirst
      have hblank := h c List.mem_cons_self
      rw [hfirst c rfl] at hblank
      cases hblank
  · intro h c hc
    exact h c ((List.dropWhile_suffix isBlank).subset hc)

end DispatchStore.Text
