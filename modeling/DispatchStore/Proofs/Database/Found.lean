import DispatchStore.Database.Statement
import DispatchStore.Proofs.Database.Rows
import DispatchStore.Proofs.Except

/-!
# Statements over a table that is there

Over a table that is there, with the columns that a statement names, nothing is left to a statement
but what the table makes of its rows (`insert_exec`, `update_exec`, `delete_exec`), and nothing to a
query but to read them (`Query.records_eq`).
-/

namespace DispatchStore

/-- Nobody holds off what is looked up and changes something. -/
theorem Statement.exec_free {s : Statement} {db : Database} (hcheck : s.check db = .ok true) :
    s.exec .free db = s.apply db := by
  unfold exec
  rw [hcheck]
  cases s.apply db with
  | error e => rfl
  | ok r =>
    simp only [ok_bind, if_true, WriteLock.atBegin, WriteLock.atChange, WriteLock.atEnd]
    split <;> rfl

/-- Names that all stand for columns are resolved. -/
theorem resolveAll_eq {t : Table} {columns : List String}
    (hcolumns : ∀ column ∈ columns, (t.columnIndex? column).isSome = true) :
    t.resolveAll columns = .ok () := by
  unfold Table.resolveAll
  induction columns with
  | nil => rfl
  | cons column rest ih =>
    obtain ⟨i, hi⟩ := Option.isSome_iff_exists.1 (hcolumns column List.mem_cons_self)
    have hresolve : (t.resolve column).map (fun _ => ()) = .ok () := by
      unfold Table.resolve
      rw [hi]
      rfl
    change ((t.resolve column).map (fun _ => ()) >>= fun _ =>
      rest.forM fun c => (t.resolve c).map fun _ => ()) = .ok ()
    rw [hresolve]
    exact ih fun c hc => hcolumns c (List.mem_cons_of_mem _ hc)

variable {db : Database} {name : String} {t : Table} (ht : db.find? name = some t)
include ht

/-- A table that is there can be written to. -/
theorem target_eq (participle : String) : Statement.target db name participle = .ok t := by
  unfold Statement.target Database.engineTable? Database.table
  rw [ht]
  rfl

/-- A table that is there is found. -/
theorem table_eq : db.table name = .ok t := by
  unfold Database.table
  rw [ht]

/-! ## Insertions -/

section Insert

variable {values : List (String × Value)} {c : OnConflict}
  (hvalues : ∀ v ∈ values, t.hasName v.1 = true)
  (hc : ∀ target, c = .keep target ∨ (∃ columns, c = .overwrite target columns) →
    t.hasKey target = true)
include hvalues hc

/-- An insertion is looked up if its names stand for something in the table, and if the table has
the key that the conflict clause needs. -/
theorem insert_check : (Statement.insert name values c).check db = .ok true := by
  have hfound : (values.find? fun v => !t.hasName v.1) = none := by
    rw [List.find?_eq_none]
    intro v hv
    simp [hvalues v hv]
  simp only [Statement.check, target_eq ht, ok_bind, hfound]
  cases c with
  | refuse => rfl
  | keep target => simp only [hc target (.inl rfl)]; rfl
  | overwrite target columns => simp only [hc target (.inr ⟨columns, rfl⟩)]; rfl

/-- An insertion makes of the table what the table makes of its rows. -/
theorem insert_exec :
    (Statement.insert name values c).exec .free db =
      (t.insert values c).map fun r => (db.modify name fun _ => r.1, r.2) := by
  rw [Statement.exec_free (insert_check ht hvalues hc)]
  simp only [Statement.apply, table_eq ht, ok_bind]
  cases t.insert values c <;> rfl

end Insert

/-! ## Updates and deletions -/

/-- An update of columns that are there makes of the table what the table makes of its rows. -/
theorem update_exec {column : String} {criteria : List (String × Value)}
    (hcolumns : ∀ c ∈ column :: criteria.map Prod.fst, (t.columnIndex? c).isSome = true)
    (value : String) :
    (Statement.update name column value criteria).exec .free db =
      (t.update column value criteria).map fun r => (db.modify name fun _ => r.1, r.2) := by
  have hcheck : (Statement.update name column value criteria).check db = .ok true := by
    simp only [Statement.check, target_eq ht, ok_bind, resolveAll_eq hcolumns]
    rfl
  rw [Statement.exec_free hcheck]
  simp only [Statement.apply, table_eq ht, ok_bind]
  cases t.update column value criteria <;> rfl

/-- A deletion by columns that are there makes of the table what the table makes of its rows. -/
theorem delete_exec {criteria : List (String × Value)}
    (hcolumns : ∀ c ∈ criteria.map Prod.fst, (t.columnIndex? c).isSome = true) :
    (Statement.delete name criteria .bare).exec .free db =
      .ok (db.modify name fun _ => (t.delete criteria).1, (t.delete criteria).2) := by
  have hcheck : (Statement.delete name criteria .bare).check db = .ok true := by
    simp only [Statement.check, target_eq ht, ok_bind, resolveAll_eq hcolumns, if_true]
    rfl
  rw [Statement.exec_free hcheck]
  simp only [Statement.apply, table_eq ht, ok_bind]
  rfl

/-! ## Queries -/

section Query

variable {q : Query} (hq : q.table = name)
  (hnames : ∀ c ∈ q.names, (t.columnIndex? c).isSome = true)
include hq hnames

/-- A query finds the table, if it names columns of it alone. -/
theorem Query.source_eq : q.source db = .ok t := by
  have hfound : (q.names.find? fun c => (t.columnIndex? c).isNone) = none := by
    rw [List.find?_eq_none]
    intro c hc
    have hindex := hnames c hc
    simp [Option.isSome_iff_ne_none.1 hindex]
  unfold Query.source
  rw [hq, table_eq ht]
  simp only [ok_bind, hfound]
  rfl

/-- A query over a table with the columns that it names reads its rows. -/
theorem Query.records_eq :
    q.records db =
      .ok ((q.rows t).map fun row => (t.spelled q.columns).zip (t.cells q.columns row)) := by
  unfold Query.records
  rw [Query.source_eq ht hq hnames]
  rfl

end Query

end DispatchStore
