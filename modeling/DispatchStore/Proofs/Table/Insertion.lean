import DispatchStore.Database.Statement
import DispatchStore.Proofs.Except
import Mathlib.Data.List.Nodup
import Mathlib.Data.List.Perm.Subperm

/-!
# Insertions into tables without a numbering column

Such a table numbers its rows itself. A new row gets a number that no other row has
(`hasNumber_nextRowNumber`): there are more candidates for a free number than rows that could have
taken one. So an insertion can only be refused for a null, or meet a row with the same key
(`insert_eq`). With a key of one column that is the first row with the same cell there
(`clash?_eq_findIdx?`).
-/

namespace DispatchStore

namespace Table

/-! ## Numbers of new rows -/

/-- There is always a free number among as many as there are rows and one more. -/
@[simp] theorem hasNumber_freeNumber (t : Table) : t.hasNumber t.freeNumber = false := by
  let candidates := (List.range (t.rows.length + 1)).map fun (n : Nat) => (n : Int) + 1
  have hfree : ∃ n ∈ candidates, t.hasNumber n = false := by
    by_contra hall
    have hsubset : candidates ⊆ t.rows.map Row.number := by
      intro n hn
      have htaken : t.hasNumber n = true := by
        by_contra hnot
        exact hall ⟨n, hn, by simpa using hnot⟩
      obtain ⟨row, hrow, hnumber⟩ := List.any_eq_true.1 htaken
      exact List.mem_map.2 ⟨row, hrow, by simpa using hnumber⟩
    have hnodup : candidates.Nodup := by
      refine List.Nodup.map (fun a b hab => ?_) List.nodup_range
      omega
    have hlength := (List.Nodup.subperm hnodup hsubset).length_le
    simp only [candidates, List.length_map, List.length_range] at hlength
    omega
  have hfreeNumber : t.freeNumber = (candidates.find? fun n => !t.hasNumber n).getD 1 := rfl
  rw [hfreeNumber]
  cases hfind : candidates.find? (fun n => !t.hasNumber n) with
  | none =>
    obtain ⟨n, hn, hnot⟩ := hfree
    have := List.find?_eq_none.1 hfind n hn
    simp [hnot] at this
  | some n =>
    have hn := List.find?_some hfind
    simpa using hn

/-- The number for a new row is free. -/
@[simp] theorem hasNumber_nextRowNumber (t : Table) : t.hasNumber t.nextRowNumber = false := by
  unfold nextRowNumber
  dsimp only
  split
  · exact hasNumber_freeNumber t
  · simp_all

/-! ## New rows -/

section Unnumbered

variable {t : Table} (h : t.rowNumberIndex? = none)
include h

/-- The row of values for columns that the table has. -/
theorem rowOf_eq {values : List (String × Value)}
    (hvalues : ∀ v ∈ values, (t.columnIndex? v.1).isSome = true) :
    t.rowOf values = .ok ⟨t.nextRowNumber, t.cellsOf values⟩ := by
  have hnone : (values.reverse.find? fun v => t.isRowNumber v.1) = none := by
    rw [List.find?_eq_none]
    intro v hv
    obtain ⟨i, hi⟩ := Option.isSome_iff_exists.1 (hvalues v (List.mem_reverse.1 hv))
    unfold isRowNumber
    rw [hi, h]
    simp
  unfold rowOf givenNumber?
  rw [hnone]
  simp only [Except.map, Option.getD_none, withNumber, h]

/-- An insertion adds a row unless that has a null where none may be, or there is a row with its
key. -/
theorem insert_eq {values : List (String × Value)}
    (hvalues : ∀ v ∈ values, (t.columnIndex? v.1).isSome = true) (c : OnConflict) :
    t.insert values c =
      let row : Row := ⟨t.nextRowNumber, t.cellsOf values⟩
      match t.nullViolation? row, t.clash? row, c with
      | some column, _, _ => .error (.nullViolation t.name column.name)
      | none, none, _ => .ok ({ t with rows := t.rows ++ [row] }, 1)
      | none, some _, .refuse => .error (.keyViolation t.name t.keyNames)
      | none, some _, .keep _ => .ok (t, 0)
      | none, some i, .overwrite _ columns =>
        .ok ({ t with rows := t.rows.modify i fun old => t.takeOver columns old row }, 1) := by
  have hnumber : t.numberViolation? ⟨t.nextRowNumber, t.cellsOf values⟩ = none := by
    simp [numberViolation?]
  unfold insert
  rw [rowOf_eq h hvalues]
  simp only [ok_bind, hnumber]
  cases t.nullViolation? ⟨t.nextRowNumber, t.cellsOf values⟩ with
  | some column => rfl
  | none =>
    cases t.clash? ⟨t.nextRowNumber, t.cellsOf values⟩ with
    | none => rfl
    | some i => cases c <;> rfl

end Unnumbered

end Table

/-! ## Keys of one column -/

namespace Value

/-- It makes no difference which of two values is compared with the other. -/
theorem same_comm (a b : Value) : a.same b = b.same a := by
  cases a <;> cases b <;> simp [same, Bool.beq_comm]

/-- No value besides null is taken for null. -/
theorem null_same {v : Value} (h : v ≠ .null) : Value.null.same v = false := by
  cases v <;> simp_all [same]

/-- Nothing else is taken for a text. -/
@[simp] theorem same_text (v : Value) (s : String) : v.same (.text s) = decide (v = .text s) := by
  cases v <;> simp [same]
  rw [Bool.eq_iff_iff]
  simp

end Value

namespace Table

section Key

variable {t : Table} {i : Nat} (h : t.keyIndices = [i])
include h

/-- The key of a row is its cell in the one column of the key, unless that is null. -/
theorem keyOf?_eq (row : Row) :
    t.keyOf? row = if row.cell i = .null then none else some [row.cell i] := by
  unfold keyOf?
  rw [h]
  by_cases hnull : row.cell i = .null
  · simp [hnull]
  · simp [hnull, Ne.symm hnull]

/-- A row with a key meets the first one that is not told apart from it there. -/
theorem clash?_eq_findIdx? {row : Row} (hkey : row.cell i ≠ .null) :
    t.clash? row = t.rows.findIdx? fun other => (other.cell i).same (row.cell i) := by
  unfold clash?
  rw [keyOf?_eq h, if_neg hkey]
  refine congrArg (fun p => t.rows.findIdx? p) (funext fun other => ?_)
  rw [keyOf?_eq h]
  by_cases hnull : other.cell i = .null
  · simp [hnull, Value.null_same hkey]
  · rw [if_neg hnull, Value.same_comm]
    simp [sameCells]

/-- A row whose key is not null clashes with none exactly if no other one has its key. -/
theorem clash?_eq_none_iff {row : Row} (hkey : row.cell i ≠ .null) :
    t.clash? row = none ↔ ∀ other ∈ t.rows, (other.cell i).same (row.cell i) = false := by
  rw [clash?_eq_findIdx? h hkey, List.findIdx?_eq_none_iff]

end Key

end Table

end DispatchStore
