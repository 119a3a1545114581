import DispatchStore.Proofs.Database.Frame
import DispatchStore.Schema.Shape

/-!
# The table of a shape

A table is created as its shape declares it, if the engine takes the columns as they are
(`TableShape.IsCreatable`). The statement that does so, unless a table of its name is there, gets
through in every database (`TableShape.creation_exec`). It leaves the tables that are there as they
are and adds at most the empty table of the shape behind them (`Database.having`).
-/

namespace DispatchStore

namespace TableShape

/-- The empty table of a shape. -/
def asTable (shape : TableShape) : Table := ⟨shape.table, shape.columns, []⟩

/-- The statement that creates the table of a shape, unless one of its name is there. -/
def creation (shape : TableShape) : Statement := .create shape.table shape.columns true .bare

/-- The engine creates the table of the shape as it is declared. -/
structure IsCreatable (shape : TableShape) : Prop where
  unreserved : Statement.isReserved shape.table = false
  nonempty : shape.columns ≠ []
  distinct : Statement.repeatedColumn? shape.columns = none
  kept : shape.columns.map Column.kept = shape.columns

instance (shape : TableShape) : Decidable shape.IsCreatable :=
  decidable_of_iff (Statement.isReserved shape.table = false ∧ shape.columns ≠ [] ∧
      Statement.repeatedColumn? shape.columns = none ∧
      shape.columns.map Column.kept = shape.columns)
    ⟨fun h => ⟨h.1, h.2.1, h.2.2.1, h.2.2.2⟩,
      fun h => ⟨h.unreserved, h.nonempty, h.distinct, h.kept⟩⟩

end TableShape

namespace Database

/-- The database with the empty table of a shape behind its tables, unless one goes by its name. -/
def having (db : Database) (shape : TableShape) : Database :=
  if (db.find? shape.table).isSome then db else ⟨db.tables ++ [shape.asTable]⟩

variable {db : Database} {shape : TableShape}

/-- Where a table goes by the name, the database stays as it is. -/
theorem having_of_isSome (h : (db.find? shape.table).isSome = true) : db.having shape = db :=
  if_pos h

/-- Where no table goes by the name, the empty table of the shape comes behind the others. -/
theorem having_of_eq_none (h : db.find? shape.table = none) :
    db.having shape = ⟨db.tables ++ [shape.asTable]⟩ := by
  unfold having
  rw [h]
  rfl

/-- What a name does not find behind the creation of another shape. -/
theorem find?_having_eq_none_iff (db : Database) (shape : TableShape) (name : String) :
    (db.having shape).find? name = none ↔
      db.find? name = none ∧ Text.sameLetters shape.table name = false := by
  cases hfind : db.find? shape.table with
  | some t =>
    rw [having_of_isSome (by rw [hfind]; rfl)]
    refine ⟨fun h => ⟨h, ?_⟩, fun h => h.1⟩
    by_contra hsame
    rw [Bool.not_eq_false] at hsame
    rw [← db.find?_congr hsame, hfind] at h
    cases h
  | none =>
    rw [having_of_eq_none hfind]
    unfold find?
    rw [List.find?_append, Option.or_eq_none_iff]
    refine and_congr_right fun _ => ?_
    rw [List.find?_singleton]
    unfold Table.isNamed TableShape.asTable
    cases Text.sameLetters shape.table name <;> simp

/-- Creating a table does not show in what there is under other names. -/
theorem remove_having {name : String} (h : Text.sameLetters shape.table name = false) :
    (db.having shape).remove name = (db.remove name).having shape := by
  have hfind : (db.remove name).find? shape.table = db.find? shape.table := by
    rw [remove_eq_recast]
    exact find?_recast db (fun _ _ _ hu => by cases hu) h
  cases hshape : db.find? shape.table with
  | some t =>
    have hsome : (db.find? shape.table).isSome = true := by rw [hshape]; rfl
    rw [having_of_isSome hsome, having_of_isSome (by rw [hfind]; exact hsome)]
  | none =>
    rw [having_of_eq_none hshape, having_of_eq_none (hfind.trans hshape)]
    have hname : shape.asTable.isNamed name = false := h
    simp [remove, hname]

end Database

namespace TableShape

variable {shape : TableShape} (h : shape.IsCreatable)
include h

/-- The creation finds nothing to object to, and has something to write where no table goes by the
name. -/
theorem creation_check (db : Database) :
    shape.creation.check db = .ok (db.find? shape.table).isNone := by
  have hcolumns : shape.columns.isEmpty = false := by
    simpa using h.nonempty
  simp only [creation, Statement.check, h.unreserved, hcolumns, h.distinct, Bool.false_eq_true,
    if_false, if_true]
  cases db.find? shape.table <;> rfl

/-- The creation gets through in every database. -/
theorem creation_exec (db : Database) :
    shape.creation.exec .free db = .ok (db.having shape, 0) := by
  unfold Statement.exec
  rw [creation_check h]
  cases hfind : db.find? shape.table with
  | some t =>
    rw [Database.having_of_isSome (by rw [hfind]; rfl)]
    rfl
  | none =>
    rw [Database.having_of_eq_none hfind, asTable, ← h.kept]
    rfl

end TableShape

end DispatchStore
