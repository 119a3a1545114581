import DispatchStore.Proofs.Schema.BuiltIn
import DispatchStore.Proofs.Store.Effects
import DispatchStore.Proofs.Store.Records

/-!
# Healthy stores

A database is healthy if its three tables pass the comparison with their shapes and no row has a
null as its key (`Database.IsHealthy`); the engine sees to the rest (`Database.IsSound`). Over a
healthy database and a connection that remembers nothing else, every operation does what it is for
(`Operation.Serves`):

* **It answers**, except that an insertion of a decision whose id is there is refused as a violation
  of the key. No cell is found missing, or to be anything but a text.
* **It changes at most one row**, that of its key in its own table, and a look changes nothing.

Both healths are kept, so that this holds for runs of any length (`Store.serves_run`). A connection
that compiled its queries for columns of another spelling is a different matter: it does not find
the cells of a healthy table (`Store.unreadable_outdated`).
-/

namespace DispatchStore

/-! ## Healthy databases -/

namespace Database

/-- The three tables pass the comparison with their shapes, and no key is null. -/
structure IsHealthy (db : Database) : Prop where
  shapes : ∀ m ∈ Registry.builtIn, m.shape.refusal? db = none
  keys : ∀ m ∈ Registry.builtIn, ∀ t, db.find? m.shape.table = some t →
    ∀ row ∈ t.rows, row.cell 0 ≠ .null

/-- What the engine sees to in the three tables. -/
def IsSound (db : Database) : Prop :=
  ∀ m ∈ Registry.builtIn, ∀ t, db.find? m.shape.table = some t → t.IsSound

instance (db : Database) : Decidable db.IsHealthy :=
  have : Decidable (∀ m ∈ Registry.builtIn, ∀ t, db.find? m.shape.table = some t →
      ∀ row ∈ t.rows, row.cell 0 ≠ .null) :=
    inferInstanceAs (Decidable (∀ m ∈ Registry.builtIn, ∀ t ∈ db.find? m.shape.table,
      ∀ row ∈ t.rows, row.cell 0 ≠ .null))
  decidable_of_iff ((∀ m ∈ Registry.builtIn, m.shape.refusal? db = none) ∧
    ∀ m ∈ Registry.builtIn, ∀ t, db.find? m.shape.table = some t →
      ∀ row ∈ t.rows, row.cell 0 ≠ .null) ⟨fun h => ⟨h.1, h.2⟩, fun h => ⟨h.shapes, h.keys⟩⟩

instance (db : Database) : Decidable db.IsSound :=
  inferInstanceAs (Decidable (∀ m ∈ Registry.builtIn, ∀ t ∈ db.find? m.shape.table, t.IsSound))

end Database

/-- The table of the shape is there with columns like the declared ones, and its rows are in
order. -/
def TableShape.IsServed (shape : TableShape) (db : Database) : Prop :=
  ∃ t, db.find? shape.table = some t ∧ shape.asTable.Alike t ∧ t.IsKeyed

namespace Database

variable {db db' : Database}

/-- The tables of a healthy database are there, and their rows are in order. -/
theorem IsHealthy.isServed (h : db.IsHealthy) (hs : db.IsSound) :
    ∀ m ∈ Registry.builtIn, m.shape.IsServed db := by
  intro m hm
  obtain ⟨t, ht, hl⟩ := TableShape.exists_alike (Registry.builtIn_notEngine m hm) (h.shapes m hm)
  exact ⟨t, ht, hl, Table.isKeyed_iff.2 ⟨hs m hm t ht, h.keys m hm t ht⟩⟩

/-- The comparison with a shape depends on columns alone. -/
theorem refusal?_congr (h : ∀ name, db.FindsAlike db' name) (shape : TableShape) :
    shape.refusal? db' = shape.refusal? db := by
  have hsome : ∀ name, (db'.find? name).isSome = (db.find? name).isSome := by
    intro name
    rcases h name with ⟨hnone, hnone'⟩ | ⟨hsome, hsome', -⟩
    · rw [hnone, hnone']
    · rw [hsome, hsome']
      rfl
  have hcolumns : ∀ name, db'.columns name = db.columns name := by
    intro name
    unfold columns
    rcases h name with ⟨hnone, hnone'⟩ | ⟨hsome, hsome', hl⟩
    · rw [hnone, hnone']
    · rw [hsome, hsome']
      exact hl.columns
  unfold TableShape.refusal? describe
  simp only [hsome, hcolumns]

/-- A database keeps its health when its tables keep their columns and the rows of the three stay in
order. -/
theorem IsHealthy.of_isServed (h : db.IsHealthy) (hlayouts : ∀ name, db.FindsAlike db' name)
    (hserved : ∀ m ∈ Registry.builtIn, m.shape.IsServed db') : db'.IsHealthy ∧ db'.IsSound := by
  have hkeyed : ∀ m ∈ Registry.builtIn, ∀ t, db'.find? m.shape.table = some t → t.IsKeyed := by
    intro m hm t ht
    obtain ⟨u, hu, -, hk⟩ := hserved m hm
    rw [ht] at hu
    rwa [Option.some.inj hu]
  constructor
  · constructor
    · intro m hm
      rw [refusal?_congr hlayouts]
      exact h.shapes m hm
    · intro m hm t ht
      exact (Table.isKeyed_iff.1 (hkeyed m hm t ht)).2
  · intro m hm t ht
    exact (Table.isKeyed_iff.1 (hkeyed m hm t ht)).1

/-- A change of one row in one of the tables keeps the others as they are. -/
theorem isServed_modify {m : Migration} (hm : m ∈ Registry.builtIn)
    (h : ∀ m ∈ Registry.builtIn, m.shape.IsServed db) {t t' : Table}
    (ht : db.find? m.shape.table = some t) {key : String} (hc : t.ChangesRow key t') :
    ∀ u ∈ Registry.builtIn, u.shape.IsServed (db.modify m.shape.table fun _ => t') := by
  intro u hu
  obtain ⟨v, hv, hl, hk⟩ := h u hu
  cases hsame : Text.sameLetters u.shape.table m.shape.table with
  | true =>
    -- it is the same table, with the row changed
    have hshape := Registry.builtIn_distinct u.shape (List.mem_map_of_mem hu) m.shape
      (List.mem_map_of_mem hm) hsame
    rw [hshape] at hv hl ⊢
    rw [ht] at hv
    cases hv
    refine ⟨t', find?_replaced ht hc.layout, ?_, hc.keyed⟩
    unfold Table.Alike
    rw [hc.layout.columns]
    exact hl
  | false =>
    refine ⟨v, ?_, hl, hk⟩
    rw [find?_modify_of_ne (isNamed_replaced ht hc.layout) hsame]
    exact hv

/-- From `db` to `db'` at most the row of one key in one table changes. -/
structure OnlyRow (table key : String) (db db' : Database) : Prop where
  others : db'.remove table = db.remove table
  row : ∃ t t', db.find? table = some t ∧ db'.find? table = some t' ∧ t.ChangesRow key t'

/-- A change of one row in a table is a change of one row in the database. -/
theorem onlyRow_modify {table key : String} {t t' : Table} (ht : db.find? table = some t)
    (hc : t.ChangesRow key t') : OnlyRow table key db (db.modify table fun _ => t') :=
  ⟨remove_modify fun _ _ => isNamed_replaced ht hc.layout, t, t', ht,
    find?_replaced ht hc.layout, hc⟩

end Database

/-! ## What operations are for -/

namespace Operation

/-- An operation does what it is for. -/
structure Serves (op : Operation) (s : Store) : Prop where
  answers : ¬ op.Repeats s.database → ∃ reply, op.answer s = .ok reply
  /-- An insertion of a decision that is there is refused, and changes nothing. -/
  refuses : op.Repeats s.database →
    (∀ t, s.database.find? Store.decisionsTable = some t →
      op.answer s = .error (.engine (.keyViolation t.name ["decision_id"]))) ∧
      (op.run s).database = s.database
  looks : op.target? = none → (op.run s).database = s.database
  writes : ∀ m key, op.target? = some (m, key) →
    s.database.OnlyRow m.shape.table key (op.run s).database

/-! ## Serving -/

section Serving

variable {s : Store} (hopen : s.access = .opened .free) (ha : s.IsAttuned)
  (hh : s.database.IsHealthy) (hs : s.database.IsSound)
include hopen ha hh hs

/-- An insertion of a decision that is there is refused. -/
theorem answer_repeats {op : Operation} (h : op.Repeats s.database) :
    (∀ t, s.database.find? Store.decisionsTable = some t →
      op.answer s = .error (.engine (.keyViolation t.name ["decision_id"]))) ∧
      (op.run s).database = s.database := by
  obtain ⟨d, rfl, t, ht, hthere⟩ := h
  obtain ⟨u, hu, hl, -⟩ := hh.isServed hs .decisions (by decide)
  have htu : t = u := Option.some.inj (ht.symm.trans hu)
  subst htu
  have htarget : (insertDecision d).target? = some (.decisions, d.id) := rfl
  obtain ⟨st, hst⟩ := exists_statement htarget
  have htakes := decisions_takes d
  have hkeyNames : t.keyNames = ["decision_id"] := hl.keyNames.trans (by decide +kernel)
  have hexec : st.exec .free s.database = .error (.keyViolation t.name ["decision_id"]) := by
    rw [insertDecision_statement hst, ← hkeyNames]
    exact TableShape.insertion_refused hu hl (builtIn_textKeyed .decisions (by decide)) htakes rfl
      hthere
  obtain ⟨hdatabase, hresult⟩ := Store.write_eq hopen ha st
  constructor
  · intro v hv
    have htv : t = v := Option.some.inj (hu.symm.trans hv)
    rw [answer_of_statement hst, hresult, hexec, htv]
    rfl
  · rw [run_of_statement hst, hdatabase]
    unfold Statement.outcome
    rw [hexec]

/-- A look at the tables is answered. -/
theorem answer_look {op : Operation} (h : op.target? = none) :
    ∃ reply, op.answer s = .ok reply := by
  obtain ⟨overrides, hoverrides, hlo, hko⟩ := hh.isServed hs .overrides (by decide)
  obtain ⟨events, hevents, hle, hke⟩ := hh.isServed hs .events (by decide)
  obtain ⟨decisions, hdecisions, hld, hkd⟩ := hh.isServed hs .decisions (by decide)
  cases op with
  | getOverride key =>
    have hread := Store.getOverride_eq hopen ha hoverrides hlo hko.textual key
    exact ⟨_, congrArg (Except.map Reply.override) hread⟩
  | listOverrides =>
    have hread := Store.listOverrides_eq hopen ha hoverrides hlo hko.textual
    exact ⟨_, congrArg (Except.map Reply.overrides) hread⟩
  | isProcessed id =>
    have hread := Store.isProcessed_eq hopen ha hevents hle id
    exact ⟨_, congrArg (Except.map Reply.flag) hread⟩
  | recentEvents limit =>
    have hread := Store.recentEvents_eq hopen ha hevents hle hke.textual limit
    exact ⟨_, congrArg (Except.map Reply.events) hread⟩
  | getDecision id =>
    have hread := Store.getDecision_eq hopen ha hdecisions hld hkd.textual id
    exact ⟨_, congrArg (Except.map Reply.decision) hread⟩
  | decisionsWithStatus status limit =>
    have hread := Store.decisionsWithStatus_eq hopen ha hdecisions hld hkd.textual status limit
    exact ⟨_, congrArg (Except.map Reply.decisions) hread⟩
  | setOverride _ _ _ | clearOverride _ | markEvent _ _ _ | insertDecision _ | updateStatus _ _ =>
    cases h

/-- An operation that is no look and repeats nothing tells what it wrote, and writes the row of its
key. -/
theorem run_changes {op : Operation} (hrepeats : ¬ op.Repeats s.database) {m : Migration}
    {key : String} (htarget : op.target? = some (m, key)) :
    op.answer s = .ok (op.tell (op.written (s.database.cells? m.shape.table key))) ∧
      ∃ t t', s.database.find? m.shape.table = some t ∧
        (op.run s).database = s.database.modify m.shape.table (fun _ => t') ∧
        t.ChangesRow key t' ∧ t'.cells? key = op.cellsAfter (t.cells? key) := by
  obtain ⟨st, hst⟩ := exists_statement htarget
  obtain ⟨t, ht, hl, hk⟩ := hh.isServed hs m (target_mem htarget)
  obtain ⟨t', hexec, hc, hcells⟩ := exec_effect hst htarget hrepeats ht hl hk
  obtain ⟨hdatabase, hresult⟩ := Store.write_eq hopen ha st
  constructor
  · rw [answer_of_statement hst, hresult, hexec, Database.cells?_eq ht]
    rfl
  · refine ⟨t, t', ht, ?_, hc, hcells⟩
    rw [run_of_statement hst, hdatabase]
    unfold Statement.outcome
    rw [hexec]

/-- An operation that repeats a decision changes no row, that of the decision included. -/
theorem onlyRow_repeats {op : Operation} (h : op.Repeats s.database) {m : Migration} {key : String}
    (htarget : op.target? = some (m, key)) :
    s.database.OnlyRow m.shape.table key (op.run s).database := by
  obtain ⟨t, ht, hl, hk⟩ := hh.isServed hs m (target_mem htarget)
  rw [(answer_repeats hopen ha hh hs h).2]
  exact ⟨rfl, t, t, ht, ht, Table.changesRow_refl hk key⟩

/-- Every operation does what it is for in a store in service. -/
theorem serves (op : Operation) : op.Serves s where
  answers := by
    intro hrepeats
    cases htarget : op.target? with
    | none => exact answer_look hopen ha hh hs htarget
    | some target => exact ⟨_, (run_changes hopen ha hh hs hrepeats htarget).1⟩
  refuses := answer_repeats hopen ha hh hs
  looks := fun h => (run_of_none (statement?_of_target? h) s).database
  writes := by
    intro m key htarget
    by_cases hrepeats : op.Repeats s.database
    · exact onlyRow_repeats hopen ha hh hs hrepeats htarget
    · obtain ⟨-, t, t', ht, hdatabase, hc, -⟩ := run_changes hopen ha hh hs hrepeats htarget
      rw [hdatabase]
      exact Database.onlyRow_modify ht hc

/-- The three tables stay in order. -/
theorem isServed_run (op : Operation) :
    ∀ m ∈ Registry.builtIn, m.shape.IsServed (op.run s).database := by
  have hserved := hh.isServed hs
  cases htarget : op.target? with
  | none =>
    rw [(run_of_none (statement?_of_target? htarget) s).database]
    exact hserved
  | some target =>
    by_cases hrepeats : op.Repeats s.database
    · rw [(answer_repeats hopen ha hh hs hrepeats).2]
      exact hserved
    · obtain ⟨-, t, t', ht, hdatabase, hc, -⟩ := run_changes hopen ha hh hs hrepeats htarget
      rw [hdatabase]
      exact Database.isServed_modify (target_mem htarget) hserved ht hc

/-- The database stays healthy. -/
theorem isHealthy_run (op : Operation) :
    (op.run s).database.IsHealthy ∧ (op.run s).database.IsSound := by
  refine hh.of_isServed (fun name => ?_) (isServed_run hopen ha hh hs op)
  cases hst : op.statement? with
  | none =>
    rw [(run_of_none hst s).database]
    exact .of_eq rfl
  | some st =>
    rw [run_of_statement hst, (Store.write_eq hopen ha st).1]
    exact Statement.findsAlike_outcome (writesRows_of_statement hst) s.database name

end Serving

end Operation

/-! ## Runs -/

namespace Store

/-- A store of which the three tables are healthy and that can be used like one opened right now. -/
structure IsInService (s : Store) : Prop where
  access : s.access = .opened .free
  attuned : s.IsAttuned
  healthy : s.database.IsHealthy
  sound : s.database.IsSound

/-- No operation puts a store out of service. -/
theorem IsInService.run {s : Store} (h : s.IsInService) (op : Operation) :
    (op.run s).IsInService := by
  obtain ⟨hhealthy, hsound⟩ := Operation.isHealthy_run h.access h.attuned h.healthy h.sound op
  exact ⟨(Operation.run_database op s).1.trans h.access,
    Operation.attuned_run h.access h.attuned op, hhealthy, hsound⟩

/-- Every operation of a run does what it is for, and the store stays in service. -/
theorem serves_run {s : Store} (h : s.IsInService) (ops : List Operation) :
    (runs Operation.run ops s).IsInService ∧
      ∀ p ∈ trail Operation.run s ops, p.2.IsInService ∧ p.1.Serves p.2 := by
  obtain ⟨hend, htrail⟩ := trail_invariant Operation.run (I := IsInService) (P := fun _ => True)
    (fun op s _ h => h.run op) (fun _ _ => trivial) h
  refine ⟨hend, fun p hp => ?_⟩
  obtain ⟨-, hservice⟩ := htrail p hp
  exact ⟨hservice, Operation.serves hservice.access hservice.attuned hservice.healthy
    hservice.sound p.1⟩

/-- A decision is inserted twice, its status changed, and the decisions are listed, on new
tables. -/
theorem serves_run_repeating :
    (opened ⟨Registry.builtIn.map fun m => m.shape.asTable⟩).IsInService ∧
      ∀ p ∈ trail Operation.run (opened ⟨Registry.builtIn.map fun m => m.shape.asTable⟩)
          [.insertDecision ⟨"d", "", "", "", .pending⟩, .insertDecision ⟨"d", "", "", "", .pending⟩,
            .updateStatus "d" ⟨"done"⟩, .decisionsWithStatus .pending 0],
        p.2.IsInService ∧ p.1.Serves p.2 := by
  have hservice : (opened ⟨Registry.builtIn.map fun m => m.shape.asTable⟩).IsInService :=
    ⟨rfl, isAttuned_opened _, by decide +kernel, by decide +kernel⟩
  exact ⟨hservice, (serves_run hservice _).2⟩

/-- The connection asked for an override when its table had the key under another spelling. Since
then the table was replaced by the declared one, and the override set. -/
def outdated : Store :=
  let old := Migration.overridesShape.table
  let s := ((opened .empty).script
    [.create old [.key "KEY", .optional "value", .optional "updated_at"] false .bare,
      .insert old [("KEY", .text "a")] .refuse]).1
  let s := ((s.getOverride "a").1.script [.drop old]).1
  ((s.applyEach Registry.builtIn).1.setOverride (still 0) "a" (some "b")).1

/-- The tables are healthy and nobody keeps the store from writing, and yet the override cannot be
read. -/
theorem unreadable_outdated :
    outdated.access = .opened .free ∧ outdated.database.IsHealthy ∧ outdated.database.IsSound ∧
      (outdated.getOverride "a").2 = .error (.unreadable "key") := by
  decide +kernel

end Store

end DispatchStore
