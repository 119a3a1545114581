import DispatchStore.Database.Statement
import Mathlib.Data.List.Forall2

/-!
# Tables that are laid out alike

The letter case of a declared type makes no difference to a table. Two tables are `Table.Alike` if
their columns agree one by one: names and flags are the same and types differ at most in letter
case. Alike tables find their columns and keys alike, so that what is to be known about a table can
be worked out on any table like it.
-/

namespace DispatchStore

/-! ## Spellings of types -/

/-- The upper case of a letter does not depend on the case that it is written in. -/
theorem Text.toUpper_toLower (c : Char) : c.toLower.toUpper = c.toUpper := by
  by_cases h : 'A'.val ≤ c.val ∧ c.val ≤ 'Z'.val
  · have hlower : c.toLower.val = c.val + 32 := by
      unfold Char.toLower
      rw [dif_pos h]
      rfl
    have hletter : 'a'.val ≤ c.val + 32 ∧ c.val + 32 ≤ 'z'.val := by
      simp [UInt32.le_iff_toNat_le] at h ⊢
      omega
    have hupper : c.toUpper = c := by
      refine dif_neg fun hl => ?_
      simp [UInt32.le_iff_toNat_le] at h hl
      omega
    rw [hupper]
    unfold Char.toUpper
    rw [dif_pos (by rwa [hlower])]
    refine Char.ext ?_
    show c.toLower.val + ('A'.val - 'a'.val) = c.val
    rw [hlower]
    simp [UInt32.add_assoc]
  · have hlower : c.toLower = c := dif_neg h
    rw [hlower]

/-- Texts with the same letters are the same in upper case as well. -/
theorem Text.upper_congr {s t : String} (h : sameLetters s t = true) : upper s = upper t := by
  have hupper : ∀ u : String, upper (lower u) = upper u := by
    intro u
    unfold upper lower
    rw [String.toList_ofList, List.map_map]
    refine congrArg String.ofList (List.map_congr_left fun c _ => ?_)
    exact toUpper_toLower c
  rw [← hupper s, sameLetters_iff.1 h, hupper t]

namespace Column

/-- Columns agree if their names and flags are the same and their types have the same letters. -/
theorem agrees_iff {c c' : Column} :
    c.agrees c' = true ↔ c.name = c'.name ∧
      Text.sameLetters c.declaredType c'.declaredType = true ∧ c.notNull = c'.notNull ∧
      c.primaryKey = c'.primaryKey := by
  unfold agrees
  simp [and_assoc]

/-- The spelling of a type makes no difference to the affinity. -/
theorem affinity_of_agrees {c c' : Column} (h : c.agrees c' = true) : c'.affinity = c.affinity := by
  obtain ⟨-, htype, -, -⟩ := agrees_iff.1 h
  unfold affinity Affinity.ofType
  rw [Text.upper_congr htype]

end Column

/-! ## Alike tables -/

namespace Table

/-- The columns of two tables agree one by one. -/
def Alike (t t' : Table) : Prop :=
  List.Forall₂ (fun c c' => c.agrees c' = true) t.columns t'.columns

namespace Alike

variable {t t' : Table} (h : t.Alike t')
include h

/-- What does not depend on the spelling of types is the same for all columns. -/
theorem map_eq {β : Type} {f : Column → β}
    (hf : ∀ c c' : Column, c.agrees c' = true → f c' = f c) :
    t'.columns.map f = t.columns.map f := by
  have hlists : ∀ {cs cs' : List Column}, List.Forall₂ (fun c c' => c.agrees c' = true) cs cs' →
      cs'.map f = cs.map f := by
    intro cs cs' hcs
    induction hcs with
    | nil => rfl
    | cons hc _ ih => rw [List.map_cons, List.map_cons, hf _ _ hc, ih]
  exact hlists h

/-- A name stands for the same column in alike tables. -/
theorem columnIndex? (name : String) : t'.columnIndex? name = t.columnIndex? name := by
  have hnames : t'.columns.map Column.name = t.columns.map Column.name :=
    h.map_eq fun c c' hc => (Column.agrees_iff.1 hc).1.symm
  have hindex : ∀ u : Table, u.columnIndex? name =
      (u.columns.map Column.name).findIdx? fun n => Text.sameLetters n name := by
    intro u
    rw [List.findIdx?_map]
    rfl
  rw [hindex, hindex, hnames]

/-- The primary keys of alike tables have the same places. -/
theorem keyIndices : t'.keyIndices = t.keyIndices := by
  have hkeys : t'.columns.map Column.primaryKey = t.columns.map Column.primaryKey :=
    h.map_eq fun c c' hc => (Column.agrees_iff.1 hc).2.2.2.symm
  have hindices : ∀ u : Table, u.keyIndices =
      ((u.columns.map Column.primaryKey).zipIdx.filter fun c => c.1).map Prod.snd := by
    intro u
    rw [List.zipIdx_map, List.filter_map, List.map_map]
    rfl
  rw [hindices, hindices, hkeys]

/-- The columns of the primary key have the same names in alike tables. -/
theorem keyNames : t'.keyNames = t.keyNames := by
  have hpairs : t'.columns.map (fun c => (c.name, c.primaryKey)) =
      t.columns.map fun c => (c.name, c.primaryKey) := by
    refine h.map_eq fun c c' hc => ?_
    obtain ⟨hname, -, -, hkey⟩ := Column.agrees_iff.1 hc
    rw [hname, hkey]
  have hkeyNames : ∀ u : Table, u.keyNames =
      ((u.columns.map fun c => (c.name, c.primaryKey)).filter fun c => c.2).map Prod.fst := by
    intro u
    rw [List.filter_map, List.map_map]
    rfl
  rw [hkeyNames, hkeyNames, hpairs]

/-- A column is the primary key of both tables or of neither. -/
theorem hasKey (target : String) : t'.hasKey target = t.hasKey target := by
  unfold Table.hasKey
  rw [h.keyNames]

/-- What does not depend on the spelling of types is the same for the column at a place. -/
theorem getElem?_map {β : Type} {f : Column → β}
    (hf : ∀ c c' : Column, c.agrees c' = true → f c' = f c) (i : Nat) :
    t'.columns[i]?.map f = t.columns[i]?.map f := by
  rw [← List.getElem?_map, ← List.getElem?_map, h.map_eq hf]

/-- The same column numbers the rows of alike tables, since the letter case of its type does not
count. -/
theorem rowNumberIndex? : t'.rowNumberIndex? = t.rowNumberIndex? := by
  have hinteger : ∀ i : Nat,
      t'.columns[i]?.map (fun c => Text.sameLetters c.declaredType "INTEGER") =
        t.columns[i]?.map fun c => Text.sameLetters c.declaredType "INTEGER" := by
    refine h.getElem?_map fun c c' hc => ?_
    exact (Text.sameLetters_congr (Column.agrees_iff.1 hc).2.1 "INTEGER").symm
  unfold Table.rowNumberIndex?
  rw [h.keyIndices]
  rcases t.keyIndices with _ | ⟨i, _ | ⟨j, rest⟩⟩
  · rfl
  · dsimp only
    have hi := hinteger i
    cases hc : t.columns[i]? with
    | none =>
      rw [hc] at hi
      rw [Option.map_eq_none_iff.1 hi]
    | some c =>
      rw [hc] at hi
      obtain ⟨c', hc', htype⟩ := Option.map_eq_some_iff.1 hi
      rw [hc']
      dsimp only
      rw [htype]
  · rfl

/-- A name stands for the number of a row in both tables or in neither. -/
theorem isRowNumber (name : String) : t'.isRowNumber name = t.isRowNumber name := by
  unfold Table.isRowNumber
  rw [h.columnIndex?, h.rowNumberIndex?]

/-- Alike tables know the same names. -/
theorem hasName (name : String) : t'.hasName name = t.hasName name := by
  unfold Table.hasName
  rw [h.columnIndex?, h.isRowNumber]

end Alike

end Table

end DispatchStore
