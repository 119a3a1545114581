import DispatchStore.Proofs.Ledger.Writing
import DispatchStore.Store.Migrations

/-!
# Stores that nobody else uses

A store is opened without a lock when nothing keeps its connection from writing. What the connection
remembers can still hold a statement up, if the statement cannot be compiled for the schema that it
remembers (`obstacle?_eq_none`). The creation of the ledger can be compiled for every schema, so
what begins with it always gets through to the database (`withLedger_opened`). Other statements do
if the connection knows the schema as it is (`Store.write_of_exec`), as it does once it looked at
the rows.
-/

namespace DispatchStore

/-- In the schema a name finds its table without the rows. -/
@[simp] theorem find?_schema (db : Database) (name : String) :
    db.schema.find? name = (db.find? name).map fun t => { t with rows := [] } := by
  unfold Database.schema Database.find?
  rw [List.find?_map]
  rfl

namespace Connection

/-- A statement is not held up if it can be compiled for the schema that is remembered. -/
theorem obstacle?_eq_none {c : Connection} {template : Template} {s : Statement}
    (h : ∀ known, c.known = some known → ∃ writes, s.check known = .ok writes) :
    c.obstacle? (.opened .free) template s = none := by
  unfold obstacle?
  rw [if_neg (by simp)]
  cases c.prepared.lookup template with
  | some p => rfl
  | none =>
    cases hk : c.known with
    | none => rfl
    | some known =>
      obtain ⟨writes, hw⟩ := h known hk
      simp only [hw]
      rfl

/-! ## What a connection remembers of the schema -/

/-- A connection that looks at the schema knows it as it is. -/
@[simp]
theorem informed_known (c : Connection) (db : Database) :
    (c.informed db).known = some db.schema := by
  unfold informed
  split <;> rfl

/-- Compiling a statement teaches the connection nothing of the schema. -/
@[simp]
theorem compiled_known (c : Connection) (template : Template) (s : Statement) (db : Database) :
    (c.compiled template s db).known = c.known := by
  unfold compiled
  cases s.check db <;> rfl

/-- A statement that is stopped teaches the connection nothing of the schema. -/
@[simp] theorem stopped_known (c : Connection) (template : Template) (s : Statement) :
    (c.stopped template s).known = c.known := by
  unfold stopped
  split
  · exact compiled_known _ _ _ _
  · rfl

/-- A connection that looked at the rows knows the schema. -/
theorem read_known (c : Connection) (q : Query) (db : Database) :
    (c.read (.opened .free) q db).1.known = some db.schema := by
  unfold read
  rw [if_neg (by simp)]
  cases c.header (.opened .free) q db with
  | error fault => exact informed_known _ _
  | ok names => exact informed_known _ _

/-- A connection that knows the schema knows it after a statement as well. -/
theorem exec_known (c : Connection) (template : Template) (s : Statement) (db : Database)
    (h : c.known = some db.schema) :
    (c.exec (.opened .free) template s db).2.1.known =
      some (c.exec (.opened .free) template s db).1.schema := by
  unfold exec
  cases c.obstacle? (.opened .free) template s with
  | some fault => exact (stopped_known _ _ _).trans h
  | none =>
    dsimp only
    cases s.exec (Access.opened .free).lock db with
    | error e => exact (compiled_known _ _ _ _).trans (informed_known _ _)
    | ok r => rfl

end Connection

namespace Store

/-- The connection knows the schema as it is. -/
def Current (s : Store) : Prop := s.connection.known = some s.database.schema

section Current

variable {s : Store} (h : s.access = .opened .free)
include h

/-- After a query the connection knows the schema as it is. -/
theorem current_readAs {α : Type} (q : Query) (f : List Record → Except Fault α) :
    Current (s.readAs q f).1 := by
  have hknown := s.connection.read_known q s.database
  rw [← h] at hknown
  exact hknown

/-- A connection that knows the schema still does after a write. -/
theorem current_write (hc : Current s) (st : Statement) : Current (s.write st).1 := by
  have hknown := s.connection.exec_known (.ofStatement st) st s.database hc
  rw [← h] at hknown
  exact hknown

/-- With a connection that knows the schema a statement gets through if it can be compiled and
carried out. -/
theorem write_of_exec (hc : Current s) {st : Statement} {writes : Bool} {db : Database} {n : Nat}
    (hcheck : st.check s.database.schema = .ok writes)
    (hexec : st.exec .free s.database = .ok (db, n)) :
    (s.write st).1.database = db ∧ (s.write st).2 = .ok n := by
  have hobstacle : s.connection.obstacle? (.opened .free) (.ofStatement st) st = none := by
    refine Connection.obstacle?_eq_none fun known hknown => ⟨writes, ?_⟩
    rw [hc] at hknown
    rw [← Option.some.inj hknown]
    exact hcheck
  unfold write Connection.exec
  rw [h, hobstacle]
  dsimp only [Access.lock]
  rw [hexec]
  exact ⟨rfl, rfl⟩

end Current

/-- What begins with the creation of the ledger gets through to the database. -/
theorem withLedger_opened {ε α : Type} {s : Store} (h : s.access = .opened .free)
    (ofFault : Fault → ε) (f : WriteLock → Database → Database × Except ε α)
    (compilations : WriteLock → Database → List Compilation) :
    (s.withLedger ofFault f compilations).1.database = (f .free s.database).1 ∧
      (s.withLedger ofFault f compilations).1.access = .opened .free ∧
      (s.withLedger ofFault f compilations).2 = (f .free s.database).2 := by
  have hobstacle : s.connection.obstacle? s.access (Ledger.compilation s.database).template
      (Ledger.compilation s.database).statement = none := by
    rw [h]
    exact Connection.obstacle?_eq_none fun known _ => ⟨_, Ledger.creation_check known⟩
  have hlock : s.access.lock = .free := by
    rw [h]
    rfl
  unfold withLedger
  dsimp only
  rw [hobstacle, hlock]
  exact ⟨rfl, h, rfl⟩

section Reads

variable {s : Store} (h : s.access = .opened .free) (hk : Ledger.IsKept s.database)
include h hk

/-- Reading the versions of a store that nobody else uses. -/
theorem appliedVersions_opened :
    s.appliedVersions.1.database = Ledger.ensured s.database ∧
      s.appliedVersions.1.access = .opened .free ∧
      s.appliedVersions.2 = .ok (Ledger.sorted (Ledger.onRecord s.database)) := by
  obtain ⟨hdatabase, haccess, hresult⟩ :=
    withLedger_opened h id Ledger.appliedVersions fun _ _ => []
  rw [Ledger.appliedVersions_eq hk] at hdatabase hresult
  exact ⟨hdatabase, haccess, hresult⟩

/-- Reading the highest version of a store that nobody else uses. -/
theorem currentVersion_opened :
    s.currentVersion.1.database = Ledger.ensured s.database ∧
      s.currentVersion.1.access = .opened .free ∧
      s.currentVersion.2 = .ok (Ledger.highestOnRecord (Ledger.onRecord s.database)) := by
  obtain ⟨hdatabase, haccess, hresult⟩ :=
    withLedger_opened h id Ledger.currentVersion fun _ _ => []
  rw [Ledger.currentVersion_eq hk] at hdatabase hresult
  exact ⟨hdatabase, haccess, hresult⟩

end Reads

end Store

end DispatchStore
