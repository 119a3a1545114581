import DispatchStore.Proofs.Database.Listing
import DispatchStore.Proofs.Store.Health

/-!
# What the three tables hold

A store in service is told by the cells of its rows, table by table and key by key
(`Database.cells?`), or by what those rows stand for (`Database.view`). An operation changes them at
its target and nowhere else (`Store.IsInService.cells?_run`), and what it answers, if it is no look,
depends on them alone (`Store.IsInService.answer_write`, `Store.IsInService.answer_repeat`).
-/

namespace DispatchStore

/-- No two of the built-in tables go by one name. -/
theorem builtIn_tables : ∀ m ∈ Registry.builtIn, ∀ u ∈ Registry.builtIn,
    m ≠ u → Text.sameLetters m.shape.table u.shape.table = false := by decide

/-- With a table that differs in the row of one key, that key has other cells. -/
theorem Database.cells?_replaced {db : Database} {table key : String} {t t' : Table}
    (ht : db.find? table = some t) (hc : t.ChangesRow key t') :
    (db.modify table fun _ => t').cells? table =
      Function.update (db.cells? table) key (t'.cells? key) := by
  funext other
  rw [cells?_eq (find?_replaced ht hc.layout)]
  by_cases hother : other = key
  · subst hother
    rw [Function.update_self]
  · rw [Function.update_of_ne hother, hc.cells?_of_ne hother, cells?_eq ht]

/-! ## Views -/

namespace Database

/-- What the row with the given key in the table of a migration stands for. -/
def view {α : Type} (db : Database) (m : Migration) (of : Row → α) (key : String) : Option α :=
  (db.cells? m.shape.table key).map fun cells => of ⟨0, cells⟩

variable {α : Type} {db : Database} {m : Migration} {of : Row → α}

/-- A view shows a row where the key has cells. -/
@[simp] theorem isSome_view (db : Database) (m : Migration) (of : Row → α) (key : String) :
    (db.view m of key).isSome = (db.cells? m.shape.table key).isSome := Option.isSome_map

section Found

variable {t : Table} (ht : db.find? m.shape.table = some t)
  (hof : ∀ row : Row, of ⟨0, row.cells⟩ = of row)
include ht hof

/-- The view of a table shows the row of each key. -/
theorem view_eq (key : String) : db.view m of key = (t.row? key).map of := by
  unfold view
  rw [cells?_eq ht, Table.cells?, Option.map_map]
  exact congrFun (congrArg Option.map (funext hof)) _

/-- A view that shows the keys shows all rows. -/
theorem view_eq_some_iff (hk : t.IsKeyed) {key : α → String}
    (hkey : ∀ row, key (of row) = row.text 0) {a : α} :
    db.view m of (key a) = some a ↔ ∃ row ∈ t.rows, of row = a := by
  rw [view_eq ht hof, Option.map_eq_some_iff]
  constructor
  · rintro ⟨row, hrow, ha⟩
    exact ⟨row, (Table.mem_of_row? hrow).1, ha⟩
  · rintro ⟨row, hrow, rfl⟩
    obtain ⟨k, hcell⟩ := hk.keyed row hrow
    have htext : key (of row) = k := by
      rw [hkey]
      simp [Row.text, hcell, Value.text?]
    refine ⟨row, (Table.row?_eq_some_iff hk).2 ⟨hrow, ?_⟩, rfl⟩
    rw [Row.hasKey_iff, htext]
    exact hcell

end Found

end Database

/-! ## Operations on cells -/

namespace Operation

/-- What an operation does to the cells of the rows of one of the tables. -/
def onCells (op : Operation) (m : Migration) (cells : String → Option (List Value)) :
    String → Option (List Value) :=
  match op.target? with
  | some (target, key) =>
    if target = m then Function.update cells key (op.cellsAfter (cells key)) else cells
  | none => cells

/-- An operation makes new cells for its key. -/
theorem onCells_of_target {op : Operation} {m : Migration} {key : String}
    (h : op.target? = some (m, key)) (cells : String → Option (List Value)) :
    op.onCells m cells = Function.update cells key (op.cellsAfter (cells key)) := by
  unfold onCells
  rw [h]
  exact if_pos rfl

/-- An operation that does not write to a table leaves its cells. -/
theorem onCells_of_ne {op : Operation} {m : Migration}
    (h : ∀ key, op.target? ≠ some (m, key)) (cells : String → Option (List Value)) :
    op.onCells m cells = cells := by
  unfold onCells
  split
  · rename_i target key htarget
    refine if_neg fun heq => h key ?_
    rw [htarget, heq]
  · rfl

/-- An operation leaves the tables alone that are not its own. -/
theorem onCells_of_other {op : Operation} {u m : Migration} {key : String}
    (h : op.target? = some (u, key)) (hne : u ≠ m) (cells : String → Option (List Value)) :
    op.onCells m cells = cells := by
  apply onCells_of_ne
  intro other heq
  rw [h] at heq
  exact hne (congrArg Prod.fst (Option.some.inj heq))

/-- A decision is inserted again exactly if its id has cells. -/
theorem repeats_insertDecision {db : Database} {d : Decision} :
    (insertDecision d).Repeats db ↔ (db.cells? Store.decisionsTable d.id).isSome = true := by
  unfold Repeats Database.cells?
  constructor
  · rintro ⟨_, heq, t, ht, hthere⟩
    cases heq
    rw [ht, Option.bind_some, Table.isSome_cells?]
    exact Table.isSome_row?_iff.2 hthere
  · intro h
    cases ht : db.find? Store.decisionsTable with
    | none =>
      rw [ht] at h
      cases h
    | some t =>
      rw [ht, Option.bind_some, Table.isSome_cells?] at h
      exact ⟨d, rfl, t, rfl, Table.isSome_row?_iff.1 h⟩

/-- An operation that repeats a decision would not change its row. -/
theorem cellsAfter_of_repeats {db : Database} {op : Operation} {m : Migration} {key : String}
    (h : op.Repeats db) (htarget : op.target? = some (m, key)) :
    op.cellsAfter (db.cells? m.shape.table key) = db.cells? m.shape.table key := by
  obtain ⟨d, rfl, -⟩ := id h
  cases htarget
  obtain ⟨cells, hcells⟩ := Option.isSome_iff_exists.1 (repeats_insertDecision.1 h)
  have hthere : db.cells? Migration.decisions.shape.table d.id = some cells := hcells
  rw [hthere]
  rfl

end Operation

namespace Store.IsInService

variable {s : Store} (h : s.IsInService)
include h

/-- Each of the three tables is there, and its rows are in order. -/
theorem exists_table {m : Migration} (hm : m ∈ Registry.builtIn) :
    ∃ t, s.database.find? m.shape.table = some t ∧ m.shape.asTable.Alike t ∧ t.IsKeyed :=
  h.healthy.isServed h.sound m hm

/-- An operation changes the row of its key and leaves all others. -/
theorem cells?_run (op : Operation) {m : Migration} (hm : m ∈ Registry.builtIn) :
    (op.run s).database.cells? m.shape.table =
      op.onCells m (s.database.cells? m.shape.table) := by
  cases htarget : op.target? with
  | none =>
    have hne : ∀ key, op.target? ≠ some (m, key) := by simp [htarget]
    rw [Operation.onCells_of_ne hne,
      (Operation.run_of_none (Operation.statement?_of_target? htarget) s).database]
  | some target =>
    obtain ⟨u, key⟩ := target
    by_cases hrepeats : op.Repeats s.database
    · -- the operation is refused, and would not have changed the row
      rw [(Operation.answer_repeats h.access h.attuned h.healthy h.sound hrepeats).2]
      by_cases hum : u = m
      · subst hum
        rw [Operation.onCells_of_target htarget, Operation.cellsAfter_of_repeats hrepeats htarget,
          Function.update_eq_self]
      · rw [Operation.onCells_of_other htarget hum]
    · obtain ⟨-, t, t', ht, hdatabase, hc, hcells⟩ := Operation.run_changes h.access h.attuned
        h.healthy h.sound hrepeats htarget
      rw [hdatabase]
      by_cases hum : u = m
      · subst hum
        rw [Operation.onCells_of_target htarget, Database.cells?_replaced ht hc, hcells,
          Database.cells?_eq ht]
      · have hdistinct := builtIn_tables m hm u (Operation.target_mem htarget) (Ne.symm hum)
        have hn := Database.isNamed_replaced ht hc.layout
        rw [Operation.onCells_of_other htarget hum]
        unfold Database.cells?
        rw [Database.find?_modify_of_ne hn hdistinct]

/-- An operation changes what the row of its key stands for. -/
theorem view_run {α : Type} (of : Row → α) {op : Operation} {m : Migration} {key : String}
    (htarget : op.target? = some (m, key)) :
    (op.run s).database.view m of = Function.update (s.database.view m of) key
      ((op.cellsAfter (s.database.cells? m.shape.table key)).map fun cells => of ⟨0, cells⟩) := by
  unfold Database.view
  rw [h.cells?_run op (Operation.target_mem htarget), Operation.onCells_of_target htarget]
  exact Function.comp_update (Option.map fun cells => of ⟨0, cells⟩) _ key _

/-- A view of a table that an operation does not write to stays as it is. -/
theorem view_run_of_ne {α : Type} (of : Row → α) {op : Operation} {m : Migration}
    (hm : m ∈ Registry.builtIn) (hne : ∀ key, op.target? ≠ some (m, key)) :
    (op.run s).database.view m of = s.database.view m of := by
  unfold Database.view
  rw [h.cells?_run op hm, Operation.onCells_of_ne hne]

/-- An operation that is no look and repeats nothing tells how many rows it wrote. -/
theorem answer_write (op : Operation) (hrepeats : ¬ op.Repeats s.database) {m : Migration}
    {key : String} (htarget : op.target? = some (m, key)) :
    op.answer s = .ok (op.tell (op.written (s.database.cells? m.shape.table key))) :=
  (Operation.run_changes h.access h.attuned h.healthy h.sound hrepeats htarget).1

/-- An insertion of a decision that is there is refused as a violation of the key. -/
theorem answer_repeat {op : Operation} (hrepeats : op.Repeats s.database) :
    ∃ table, op.answer s = .error (.engine (.keyViolation table ["decision_id"])) := by
  have hrefused := (Operation.answer_repeats h.access h.attuned h.healthy h.sound hrepeats).1
  obtain ⟨d, rfl, t, ht, -⟩ := hrepeats
  exact ⟨t.name, hrefused t ht⟩

/-- No run of operations puts a store out of service. -/
theorem runs (ops : List Operation) : (runs Operation.run ops s).IsInService :=
  (trail_invariant Operation.run (I := IsInService) (P := fun _ => True)
    (fun op _ _ h => h.run op) (fun _ _ => trivial) h).1

end Store.IsInService

/-- A store is in service when its tables are new. -/
theorem Store.isInService_builtIn :
    (opened ⟨Registry.builtIn.map fun m => m.shape.asTable⟩).IsInService :=
  ⟨rfl, isAttuned_opened _, by decide +kernel, by decide +kernel⟩

/-- The connection did something while one of the tables had its key under another spelling. Since
then the table was replaced by the declared one. -/
def Store.replaced (m : Migration) (before : Operation) : Store :=
  let respelled := m.shape.columns.map fun c =>
    if c.primaryKey then { c with name := Text.upper c.name } else c
  let old := ((opened .empty).script [.create m.shape.table respelled false .bare]).1
  let dropped := ((before.run old).script [.drop m.shape.table]).1
  (dropped.applyEach Registry.builtIn).1

end DispatchStore
