import DispatchStore.Proofs.Database.Proper
import DispatchStore.Proofs.Table.Alike
import DispatchStore.Proofs.Table.Insertion

/-!
# Keys of one column, whatever its type

The primary key of a proper table may be a column of any type, also one that numbers the rows. What
is looked up in it is the value as the column would hold it (`IsKeyedBy.satisfies_eq`), and a new
row meets another one by the same comparison. So an insertion that keeps what is there finds a row
with the key that it is given, or adds one that can be found by it and is the only one
(`IsKeyedBy.insert_keep`).
-/

namespace DispatchStore

/-! ## Values -/

namespace Value

/-- A value is never told apart from itself. -/
@[simp] theorem same_self (a : Value) : a.same a = true := by
  cases a <;> simp [same]

end Value

/-- A text never becomes null. -/
theorem Affinity.coerce_text_ne_null (a : Affinity) (s : String) : a.coerce (.text s) ≠ .null := by
  have hsimplified : ∀ x, Value.simplified x ≠ .null := by
    intro x
    unfold Value.simplified
    split
    · split_ifs <;> simp
    · simp
  have hnumeral : ∀ v, Value.ofNumeral? s = some v → v ≠ .null := by
    intro v h
    unfold Value.ofNumeral? at h
    dsimp only at h
    split at h
    · split_ifs at h
      · unfold Value.ofWhole at h
        split_ifs at h <;> cases h <;> simp
      · unfold Value.ofWhole at h
        split_ifs at h <;> cases h <;> simp
    · split_ifs at h <;>
        obtain ⟨e, -, rfl⟩ := Option.map_eq_some_iff.1 h <;> exact hsimplified _
  have hnumber : numberOf (.text s) ≠ .null := by
    unfold numberOf
    dsimp only
    cases hv : Value.ofNumeral? s with
    | none => simp
    | some v => exact hnumeral v hv
  cases a with
  | text => simp [coerce]
  | numeric => exact hnumber
  | real =>
    rw [coerce]
    split
    · simp
    · exact hnumber
  | none => simp [coerce]

namespace Table

/-- The primary key is the one column `c` at the place `i`, and it is the column of that name. -/
structure IsKeyedBy (t : Table) (target : String) (i : Nat) (c : Column) : Prop where
  column : t.columns[i]? = some c
  index : t.columnIndex? target = some i
  keyIndices : t.keyIndices = [i]

/-- Where a key of one column is named, it is the column of the name. -/
theorem exists_isKeyedBy {t : Table} (h : t.IsProper) {target : String}
    (hkey : t.hasKey target = true) : ∃ i c, t.IsKeyedBy target i c := by
  -- the columns of the key, with their places
  let keys := t.columns.zipIdx.filter fun c => c.1.primaryKey
  have hnames : keys.map (fun c => c.1.name) = t.keyNames := by
    unfold keyNames
    conv => rhs; rw [← List.zipIdx_map_fst 0 t.columns, List.filter_map, List.map_map]
    rfl
  have hone : ∃ c i, keys = [(c, i)] ∧ Text.sameLetters c.name target = true := by
    unfold hasKey at hkey
    split at hkey
    · rename_i name hname
      rw [← hnames] at hname
      obtain ⟨⟨c, i⟩, hkeys, hc⟩ := List.map_eq_singleton_iff.1 hname
      exact ⟨c, i, hkeys, by rw [hc]; exact hkey⟩
    · cases hkey
  obtain ⟨c, i, hkeys, hname⟩ := hone
  have hmem : (c, i) ∈ t.columns.zipIdx := by
    have hfiltered : (c, i) ∈ keys := by
      rw [hkeys]
      exact List.mem_singleton_self _
    exact List.mem_of_mem_filter hfiltered
  have hcolumn : t.columns[i]? = some c := List.mk_mem_zipIdx_iff_getElem?.1 hmem
  obtain ⟨hi, hc⟩ := List.getElem?_eq_some_iff.1 hcolumn
  refine ⟨i, c, hcolumn, ?_, congrArg (List.map Prod.snd) hkeys⟩
  refine List.findIdx?_eq_some_iff_getElem.2 ⟨hi, by rw [hc]; exact hname, fun j hj hnamed => ?_⟩
  -- no column before it has the name
  have hsame : Text.lower (t.columns[j]).name = Text.lower (t.columns[i]).name := by
    rw [hc, Text.sameLetters_iff.1 hname]
    exact Text.sameLetters_iff.1 hnamed
  have hnodup := h.apart
  unfold AreApart at hnodup
  rw [List.map_map] at hnodup
  refine List.pairwise_iff_getElem.1 hnodup j i (by rw [List.length_map]; omega)
    (by rwa [List.length_map]) hj ?_
  rw [List.getElem_map, List.getElem_map]
  exact hsame

namespace IsKeyedBy

variable {t : Table} {target : String} {i : Nat} {c : Column} (h : t.IsKeyedBy target i c)
include h

/-- The column of the key goes by the name that was given for it. -/
theorem isNamed : c.isNamed target = true := by
  obtain ⟨hlt, hname, -⟩ := List.findIdx?_eq_some_iff_getElem.1 h.index
  have hc : t.columns[i] = c := by
    rw [← Option.some.injEq, ← List.getElem?_eq_getElem hlt, h.column]
  rwa [hc] at hname

/-- The key numbers the rows exactly if its type is `INTEGER`. -/
theorem rowNumberIndex?_eq :
    t.rowNumberIndex? = if Text.sameLetters c.declaredType "INTEGER" then some i else none := by
  unfold Table.rowNumberIndex?
  rw [h.keyIndices]
  dsimp only
  rw [h.column]

/-- A column that numbers the rows holds numbers. -/
theorem affinity_of_numbers (hnumbers : t.rowNumberIndex?.isSome = true) :
    c.affinity = .numeric := by
  rw [rowNumberIndex?_eq h] at hnumbers
  split_ifs at hnumbers with hinteger
  · unfold Column.affinity Affinity.ofType
    rw [Text.upper_congr hinteger]
    decide
  · cases hnumbers

/-- Other names do not stand for the number of a row, unless they always do. -/
theorem isRowNumber_of_ne {name : String} (hne : Text.sameLetters target name = false)
    (hother : rowNumberNames.any (Text.sameLetters name) = false) : t.isRowNumber name = false := by
  unfold isRowNumber
  cases hindex : t.columnIndex? name with
  | none => exact hother
  | some j =>
    dsimp only
    rw [rowNumberIndex?_eq h, ← Bool.not_eq_true]
    intro hnumbers
    have hji : j = i := by
      split_ifs at hnumbers with hinteger
      · rw [beq_iff_eq, Option.some.injEq] at hnumbers
        exact hnumbers.symm
      · simp at hnumbers
    obtain ⟨hlt, hname, -⟩ := List.findIdx?_eq_some_iff_getElem.1 hindex
    subst hji
    have hc : t.columns[j] = c := by
      rw [← Option.some.injEq, ← List.getElem?_eq_getElem hlt, h.column]
    rw [hc] at hname
    have hboth : Text.sameLetters target name = true := by
      rw [← Text.sameLetters_congr (isNamed h)]
      exact hname
    rw [hne] at hboth
    cases hboth

/-- What is looked up is the value as the column holds it. -/
theorem satisfies_eq (s : String) (row : Row) :
    t.satisfies [(target, .text s)] row = (row.cell i).same (c.affinity.coerce (.text s)) := by
  have hvalue : (if (t.lookedUp [target]).contains i then lookupValue c (.text s)
      else c.affinity.comparand (.text s)) = c.affinity.coerce (.text s) := by
    cases hnumbers : t.rowNumberIndex?.isSome with
    | true =>
      -- there is no index to look into
      rw [affinity_of_numbers h hnumbers]
      unfold lookedUp indexed
      rw [if_pos hnumbers]
      rfl
    | false =>
      have hlookedUp : t.lookedUp [target] = [i] := by
        unfold lookedUp indexed
        rw [hnumbers, h.keyIndices]
        simp [h.index]
      rw [hlookedUp]
      simp [lookupValue]
  unfold satisfies
  simp only [List.all_cons, List.all_nil, Bool.and_true, h.index, h.column, List.map_cons,
    List.map_nil, hvalue]

section Insertion

variable {s : String} {more : List (String × Value)}

/-- A new row has, in the column of the key, the text as that column holds it. -/
theorem cellsOf_getElem? :
    (t.cellsOf ((target, .text s) :: more))[i]? = some (c.affinity.coerce (.text s)) := by
  unfold cellsOf
  rw [List.getElem?_map, h.column, Option.map_some, List.find?_cons, h.isNamed]

variable (hmore : ∀ v ∈ more, t.isRowNumber v.1 = false)
include hmore

/-- Where the key numbers the rows, a new row has the number that is given for the key. -/
theorem exists_givenNumber (hnumbers : t.rowNumberIndex? = some i) {number : Option Int}
    (hgiven : t.givenNumber? ((target, .text s) :: more) = .ok number) :
    ∃ n, number = some n ∧ c.affinity.coerce (.text s) = .int n := by
  have hfirst : (((target, Value.text s) :: more).reverse.find? fun v => t.isRowNumber v.1) =
      some (target, .text s) := by
    have hnone : (more.reverse.find? fun v => t.isRowNumber v.1) = none := by
      rw [List.find?_eq_none]
      intro v hv
      rw [hmore v (List.mem_reverse.1 hv)]
      exact Bool.false_ne_true
    have hnumbered : t.isRowNumber target = true := by
      unfold isRowNumber
      rw [h.index, hnumbers]
      simp
    rw [List.reverse_cons, List.find?_append, hnone, List.find?_singleton, hnumbered]
    rfl
  unfold givenNumber? at hgiven
  rw [hfirst] at hgiven
  dsimp only at hgiven
  rw [affinity_of_numbers h (by rw [hnumbers]; rfl)]
  split at hgiven
  · rename_i hnull
    exact absurd hnull (Affinity.coerce_text_ne_null _ _)
  · rename_i n hint
    cases hgiven
    exact ⟨n, rfl, hint⟩
  · cases hgiven

/-- The cells of a new row are the values as the columns hold them. -/
theorem rowOf_cells {row : Row} (hrow : t.rowOf ((target, .text s) :: more) = .ok row) :
    ∃ number, row = ⟨number, t.cellsOf ((target, .text s) :: more)⟩ := by
  unfold rowOf at hrow
  cases hgiven : t.givenNumber? ((target, .text s) :: more) with
  | error e =>
    rw [hgiven] at hrow
    cases hrow
  | ok number =>
    rw [hgiven] at hrow
    have hrow : t.withNumber (number.getD t.nextRowNumber)
        ⟨0, t.cellsOf ((target, .text s) :: more)⟩ = row := Except.ok.inj hrow
    unfold withNumber at hrow
    cases hnumbers : t.rowNumberIndex? with
    | none =>
      rw [hnumbers] at hrow
      exact ⟨_, hrow.symm⟩
    | some j =>
      have hj : j = i := by
        rw [rowNumberIndex?_eq h] at hnumbers
        split_ifs at hnumbers
        exact (Option.some.inj hnumbers).symm
      subst hj
      -- the cell of the key is set to the number that it is already
      obtain ⟨n, rfl, hint⟩ := exists_givenNumber h hmore hnumbers hgiven
      have hcell : (t.cellsOf ((target, .text s) :: more))[j]? = some (.int n) :=
        (cellsOf_getElem? h).trans (congrArg some hint)
      obtain ⟨hlt, hget⟩ := List.getElem?_eq_some_iff.1 hcell
      rw [hnumbers] at hrow
      refine ⟨n, hrow.symm.trans ?_⟩
      unfold Row.set
      dsimp only [Option.getD_some]
      rw [← hget, List.set_getElem_self]

/-- An insertion that keeps what is there finds a row with the key, or adds one with it. -/
theorem insert_keep {t' : Table} {n : Nat}
    (hinsert : t.insert ((target, .text s) :: more) (.keep target) = .ok (t', n)) :
    (t' = t ∧ n = 0 ∧ ∃ row ∈ t.rows, t.satisfies [(target, .text s)] row = true) ∨
    ∃ number,
      t' = { t with rows := t.rows ++ [⟨number, t.cellsOf ((target, .text s) :: more)⟩] } ∧
        n = 1 ∧ (∀ row ∈ t.rows, t.satisfies [(target, .text s)] row = false) ∧
        t.satisfies [(target, .text s)] ⟨number, t.cellsOf ((target, .text s) :: more)⟩ = true := by
  unfold insert at hinsert
  obtain ⟨row, hrow, hinsert⟩ := bind_eq_ok_iff.1 hinsert
  obtain ⟨number, rfl⟩ := rowOf_cells h hmore hrow
  have hcell : (⟨number, t.cellsOf ((target, .text s) :: more)⟩ : Row).cell i =
      c.affinity.coerce (.text s) := by
    unfold Row.cell
    rw [cellsOf_getElem? h, Option.getD_some]
  have hclash : t.clash? ⟨number, t.cellsOf ((target, .text s) :: more)⟩ = none ↔
      ∀ row ∈ t.rows, t.satisfies [(target, .text s)] row = false := by
    rw [clash?_eq_none_iff h.keyIndices (by rw [hcell]; exact Affinity.coerce_text_ne_null _ _)]
    simp only [hcell, satisfies_eq h]
  have hfound : t.satisfies [(target, .text s)] ⟨number, t.cellsOf ((target, .text s) :: more)⟩ =
      true := by
    rw [satisfies_eq h, hcell, Value.same_self]
  split at hinsert
  · cases hinsert
  · cases hinsert
  · split at hinsert
    · rename_i hnone
      cases hinsert
      exact .inr ⟨number, rfl, rfl, hclash.1 hnone, hfound⟩
    · cases hinsert
    · rename_i hsome _
      cases hinsert
      refine .inl ⟨rfl, rfl, ?_⟩
      by_contra hnot
      have hnone := hclash.2 fun row hrow => by
        rw [← Bool.not_eq_true]
        exact fun hsat => hnot ⟨row, hrow, hsat⟩
      rw [hsome] at hnone
      cases hnone
    · rename_i hkeep
      cases hkeep

end Insertion

end IsKeyedBy

end Table

end DispatchStore
