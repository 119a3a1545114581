import DispatchStore.Proofs.Database.Rows
import DispatchStore.Proofs.Table.Content
import Mathlib.Data.List.Lex
import Mathlib.Data.String.Basic
import Mathlib.Order.WithBot

/-!
# Sorted listings

A query that sorts its rows by columns of texts or nulls, all in one direction, selects them in the
order of their ranks (`Query.sorted_selected`): the texts in those columns, null before all texts,
compared column by column. If the key is among the columns no two rows have the same ranks, and then
the order leaves no choice (`Query.enumerates_selected`, `Enumerates.unique`).
-/

namespace DispatchStore

/-! ## Enumerations -/

/-- A list of all that has a property, each before those that come after it. -/
structure Enumerates {α : Type} (P : α → Prop) (before : α → α → Prop) (l : List α) : Prop where
  mem : ∀ a, a ∈ l ↔ P a
  ordered : l.Pairwise before

namespace Enumerates

variable {α : Type} {P : α → Prop} {before : α → α → Prop} {l l' : List α}

/-- If nothing comes before itself, an enumeration has nothing twice. -/
theorem nodup (h : Enumerates P before l) (hirrefl : ∀ a, ¬ before a a) : l.Nodup := by
  refine h.ordered.imp fun hbefore heq => ?_
  rw [heq] at hbefore
  exact hirrefl _ hbefore

/-- There is one enumeration at most. -/
theorem unique (h : Enumerates P before l) (h' : Enumerates P before l')
    (hasymm : ∀ a b, before a b → ¬ before b a) : l = l' := by
  have hirrefl : ∀ a, ¬ before a a := fun a ha => hasymm a a ha ha
  have hperm : l.Perm l' := by
    rw [List.perm_ext_iff_of_nodup (h.nodup hirrefl) (h'.nodup hirrefl)]
    intro a
    rw [h.mem, h'.mem]
  refine hperm.eq_of_pairwise ?_ h.ordered h'.ordered
  intro a b _ _ hab hba
  exact absurd hba (hasymm a b hab)

end Enumerates

/-! ## Ranks -/

/-- The text of a value, if it is one; it ranks behind everything else. -/
def Value.rank : Value → WithBot String
  | .text s => (s : WithBot String)
  | _ => ⊥

/-- The rank of a text is the text. -/
@[simp] theorem Value.rank_text (s : String) : (Value.text s).rank = (s : WithBot String) := rfl

/-- Textual values are told apart by their ranks. -/
theorem Value.same_eq_rank {x y : Value} (hx : x.isTextual = true) (hy : y.isTextual = true) :
    x.same y = decide (x.rank = y.rank) := by
  cases x <;> cases hx <;> cases y <;> cases hy <;> simp [same, rank]
  rw [Bool.eq_iff_iff]
  simp

/-- Textual values are ordered by their ranks, null before all texts. -/
theorem Value.le_eq_rank {x y : Value} (hx : x.isTextual = true) (hy : y.isTextual = true) :
    x.le y = decide (x.rank ≤ y.rank) := by
  cases x <;> cases hx <;> cases y <;> cases hy <;> simp [le, rank]

/-- Of two things in a direction the first one does not come behind the second. -/
def Direction.Orders {α : Type} [LinearOrder α] : Direction → α → α → Prop
  | .ascending, a, b => a ≤ b
  | .descending, a, b => b ≤ a

/-- Of two things in a direction the first one comes first. -/
def Direction.Separates {α : Type} [LinearOrder α] : Direction → α → α → Prop
  | .ascending, a, b => a < b
  | .descending, a, b => b < a

namespace Direction

variable {α : Type} [LinearOrder α] (d : Direction) {a b c : α}

instance : Decidable (d.Orders a b) := by
  cases d
  · exact inferInstanceAs (Decidable (a ≤ b))
  · exact inferInstanceAs (Decidable (b ≤ a))

/-- Of two values one comes before the other, or they are equal. -/
theorem orders_total (a b : α) : d.Orders a b ∨ d.Orders b a := by
  cases d
  · exact le_total a b
  · exact le_total b a

/-- The order of a direction is transitive. -/
theorem Orders.trans {d : Direction} (hab : d.Orders a b) (hbc : d.Orders b c) : d.Orders a c := by
  cases d
  · exact le_trans hab hbc
  · exact le_trans hbc hab

/-- Different values in order are told apart by it. -/
theorem Orders.separates {d : Direction} (h : d.Orders a b) (hne : a ≠ b) : d.Separates a b := by
  cases d
  · exact lt_of_le_of_ne h hne
  · exact lt_of_le_of_ne h hne.symm

/-- A value is in order with itself. -/
theorem orders_self (a : α) : d.Orders a a := by
  cases d <;> exact le_refl a

/-- Lists are compared at the first place where they differ. -/
theorem orders_cons {as bs : List α} :
    d.Orders (a :: as) (b :: bs) ↔ if a = b then d.Orders as bs else d.Orders a b := by
  have hle : ∀ {a b : α} {as bs : List α}, a :: as ≤ b :: bs ↔ a < b ∨ a = b ∧ as ≤ bs := by
    intro a b as bs
    rw [← not_lt, List.cons_lt_cons_iff, ← not_lt]
    rcases lt_trichotomy a b with h | rfl | h
    · simp [h, h.ne', h.not_gt]
    · simp
    · simp [h, h.ne', h.not_gt]
  split_ifs with heq
  · subst heq
    cases d <;> simp [Orders, hle]
  · cases d
    · simp [Orders, hle, heq, le_iff_lt_or_eq]
    · simp [Orders, hle, Ne.symm heq, le_iff_lt_or_eq]

end Direction

namespace Table

/-- The places of columns; a name without a column has none. -/
def places (t : Table) (names : List String) : List Nat := names.filterMap t.columnIndex?

/-- Names stand for the same places in alike tables. -/
theorem Alike.places {t t' : Table} (h : t.Alike t') (names : List String) :
    t'.places names = t.places names := by
  unfold Table.places
  rw [show t'.columnIndex? = t.columnIndex? from funext h.columnIndex?]

end Table

/-- The ranks of the cells at places. -/
def Row.ranks (row : Row) (places : List Nat) : List (WithBot String) :=
  places.map fun i => (row.cell i).rank

/-- Rows with the same ranks have the same text wherever one has a text. -/
theorem Row.cell_eq_of_ranks {a b : Row} {places : List Nat} (h : a.ranks places = b.ranks places)
    {i : Nat} (hi : i ∈ places) {s s' : String} (ha : a.cell i = .text s)
    (hb : b.cell i = .text s') :
    a.cell i = b.cell i := by
  have hrank : (a.cell i).rank = (b.cell i).rank := List.map_inj_left.1 h i hi
  rw [ha, hb] at hrank ⊢
  rw [WithBot.coe_inj.1 hrank]

/-- Sorting by columns of texts or nulls goes by ranks. -/
theorem Table.precedes_eq_ranks {t : Table} {a b : Row} (ha : ∀ v ∈ a.cells, v.isTextual = true)
    (hb : ∀ v ∈ b.cells, v.isTextual = true) (d : Direction) (names : List String) :
    t.precedes (names.map fun name => (name, d)) a b =
      decide (d.Orders (a.ranks (t.places names)) (b.ranks (t.places names))) := by
  induction names with
  | nil =>
    have hsame : d.Orders (a.ranks (t.places [])) (b.ranks (t.places [])) := d.orders_self []
    exact (decide_eq_true hsame).symm
  | cons name rest ih =>
    rw [List.map_cons, Table.precedes]
    cases hi : t.columnIndex? name with
    | none =>
      have hplaces : t.places (name :: rest) = t.places rest := List.filterMap_cons_none hi
      rw [hplaces]
      exact ih
    | some i =>
      have hplaces : t.places (name :: rest) = i :: t.places rest := List.filterMap_cons_some hi
      have hai := Row.isTextual_cell ha i
      have hbi := Row.isTextual_cell hb i
      have hranks : ∀ row : Row,
          row.ranks (i :: t.places rest) = (row.cell i).rank :: row.ranks (t.places rest) :=
        fun _ => rfl
      rw [hplaces, hranks, hranks]
      dsimp only
      rw [Value.same_eq_rank hai hbi, Value.le_eq_rank hai hbi, Value.le_eq_rank hbi hai, ih]
      simp only [d.orders_cons]
      by_cases heq : (a.cell i).rank = (b.cell i).rank
      · simp only [heq, decide_true, if_true]
      · simp only [heq, decide_false, if_false]
        cases d <;> rfl

/-! ## Selected rows -/

namespace Query

variable {q : Query} {t : Table}

/-- The rows that satisfy the criteria, sorted and not yet cut off. -/
def selected (q : Query) (t : Table) : List Row :=
  ((q.passage t).filter (t.satisfies q.criteria)).mergeSort (t.precedes q.order)

/-- Without a limit a query gives all the rows that it selects. -/
theorem rows_eq_selected (hlimit : q.limit = none) : q.rows t = q.selected t := by
  unfold rows
  rw [hlimit]
  rfl

/-- With a limit a query gives the first ones of the rows that it selects. -/
theorem rows_eq_take {n : Nat} (hlimit : q.limit = some n) : q.rows t = (q.selected t).take n := by
  unfold rows
  rw [hlimit]
  rfl

/-- Passing over the rows by number leaves none out. -/
theorem perm_scan (t : Table) : t.scan.Perm t.rows := List.mergeSort_perm _ _

/-- Passing over the rows by an index leaves none out. -/
theorem perm_byIndex (t : Table) : t.byIndex.Perm t.rows :=
  (List.mergeSort_perm _ _).trans (perm_scan t)

/-- However a query passes over the rows of its table, it leaves none out. -/
theorem perm_passage (q : Query) (t : Table) : (q.passage t).Perm t.rows := by
  unfold passage
  split
  · exact perm_scan t
  · dsimp only
    split
    · exact perm_byIndex t
    · split
      · split
        · split
          · exact perm_byIndex t
          · exact (List.reverse_perm _).trans (perm_byIndex t)
        · split
          · exact perm_byIndex t
          · exact perm_scan t
      · split
        · exact perm_byIndex t
        · exact perm_scan t

/-- Each row that satisfies the criteria is selected once. -/
theorem perm_selected (q : Query) (t : Table) :
    (q.selected t).Perm (t.rows.filter (t.satisfies q.criteria)) :=
  (List.mergeSort_perm _ _).trans ((perm_passage q t).filter _)

/-- A query selects the rows that satisfy its criteria. -/
@[simp] theorem mem_selected_iff {row : Row} :
    row ∈ q.selected t ↔ row ∈ t.rows ∧ t.satisfies q.criteria row = true := mem_selected

/-- A query by the key reads the row of the key. -/
theorem head?_rows_of_key (hk : t.IsKeyed) (hlimit : q.limit ≠ some 0) {key : String}
    (hcriteria : ∀ row, t.satisfies q.criteria row = row.hasKey key) :
    (q.rows t).head? = t.row? key := by
  cases hrows : q.rows t with
  | nil =>
    have hnone := (rows_eq_nil_iff hlimit).1 hrows
    simp only [hcriteria] at hnone
    exact (Table.row?_eq_none_iff.2 hnone).symm
  | cons row rest =>
    have hmem : row ∈ q.rows t := by
      rw [hrows]
      exact List.mem_cons_self
    obtain ⟨hrow, hsatisfies⟩ := mem_rows hmem
    rw [hcriteria] at hsatisfies
    exact ((Table.row?_eq_some_iff hk).2 ⟨hrow, hsatisfies⟩).symm

section Sorted

variable (htextual : ∀ row ∈ t.rows, ∀ v ∈ row.cells, v.isTextual = true) {d : Direction}
  {names : List String} (horder : q.order = names.map fun name => (name, d))
include htextual horder

/-- The selected rows come in the order of their ranks. -/
theorem sorted_selected :
    (q.selected t).Pairwise fun a b =>
      d.Orders (a.ranks (t.places names)) (b.ranks (t.places names)) := by
  -- on the rows that are there the comparison is that of a linear order
  let orders : Row → Row → Bool := fun a b =>
    decide (d.Orders (a.ranks (t.places names)) (b.ranks (t.places names)))
  have hsame : q.selected t = ((q.passage t).filter (t.satisfies q.criteria)).mergeSort orders := by
    have hmap := List.map_mergeSort (f := id) (r := t.precedes q.order) (s := orders)
      (l := (q.passage t).filter (t.satisfies q.criteria)) fun a ha b hb => by
        have hrowA := mem_passage.1 (List.mem_filter.1 ha).1
        have hrowB := mem_passage.1 (List.mem_filter.1 hb).1
        rw [horder]
        exact Table.precedes_eq_ranks (htextual a hrowA) (htextual b hrowB) d names
    rwa [List.map_id, List.map_id] at hmap
  rw [hsame]
  refine (List.pairwise_mergeSort ?_ ?_ _).imp fun h => of_decide_eq_true h
  · intro a b c hab hbc
    exact decide_eq_true ((of_decide_eq_true hab).trans (of_decide_eq_true hbc))
  · intro a b
    rw [Bool.or_eq_true, decide_eq_true_eq, decide_eq_true_eq]
    exact d.orders_total _ _

/-- Sorted by columns with the key among them, the selected rows leave no choice of order. -/
theorem separated_selected (hk : t.IsKeyed) (hkey : 0 ∈ t.places names) :
    (q.selected t).Pairwise fun a b =>
      d.Separates (a.ranks (t.places names)) (b.ranks (t.places names)) := by
  have hdistinct : (q.selected t).Pairwise fun a b => a.cell 0 ≠ b.cell 0 := by
    refine ((perm_selected q t).pairwise_iff fun hne => hne.symm).2 ?_
    exact hk.distinct.filter _
  refine ((sorted_selected htextual horder).and hdistinct).imp_of_mem ?_
  rintro a b ha hb ⟨horders, hne⟩
  refine horders.separates fun hranks => hne ?_
  obtain ⟨key, hkeyA⟩ := hk.keyed a (mem_selected_iff.1 ha).1
  obtain ⟨key', hkeyB⟩ := hk.keyed b (mem_selected_iff.1 hb).1
  exact Row.cell_eq_of_ranks hranks hkey hkeyA hkeyB

/-- What the rows of a table with a key stand for is enumerated by a query that sorts by the key. -/
theorem enumerates_selected (hk : t.IsKeyed) (hkey : 0 ∈ t.places names) {β : Type} {of : Row → β}
    {P : β → Prop} {before : β → β → Prop}
    (hmem : ∀ b, P b ↔ ∃ row ∈ t.rows, t.satisfies q.criteria row = true ∧ of row = b)
    (hbefore : ∀ a ∈ t.rows, ∀ b ∈ t.rows,
      d.Separates (a.ranks (t.places names)) (b.ranks (t.places names)) → before (of a) (of b)) :
    Enumerates P before ((q.selected t).map of) := by
  constructor
  · intro b
    rw [hmem, List.mem_map]
    refine exists_congr fun row => ?_
    rw [mem_selected_iff, and_assoc]
  · rw [List.pairwise_map]
    refine (separated_selected htextual horder hk hkey).imp_of_mem fun ha hb hseparates => ?_
    exact hbefore _ (mem_selected_iff.1 ha).1 _ (mem_selected_iff.1 hb).1 hseparates

end Sorted

end Query

end DispatchStore
