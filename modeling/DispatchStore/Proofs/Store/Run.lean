import DispatchStore.Dispatch
import DispatchStore.Proofs.Database.Frame
import DispatchStore.Store.Overrides

/-!
# Runs over a store

An `Operation` is what a program may do to the tables of a store, besides bringing its schema up to
date: operations write rows of the three built-in tables and never change columns. Whatever the
connection remembers, an operation leaves the database alone or carries out its one statement
(`Operation.run_database`). What is read through it, if anything, are the rows of the query
(`Store.exists_of_read`).

Runs of any kind of step are told by their `trail`: every step with the store that it found. What
each step preserves holds all along the trail (`trail_invariant`).
-/

namespace DispatchStore

/-! ## Reading -/

/-- A query that was carried out found its table, and read the cells of the rows that it selects. -/
theorem Query.exists_of_run {q : Query} {db : Database} {cells : List (List Value)}
    (h : q.run db = .ok cells) :
    ∃ t, db.find? q.table = some t ∧ cells = (q.rows t).map (t.cells q.columns) := by
  unfold run at h
  cases hsource : q.source db with
  | error e =>
    rw [hsource] at h
    cases h
  | ok t =>
    rw [hsource] at h
    obtain ⟨u, hu, hnames⟩ := bind_eq_ok_iff.1 hsource
    have htu : u = t := by
      split at hnames
      · cases hnames
      · exact Except.ok.inj hnames
    subst htu
    exact ⟨u, Statement.find?_of_table hu, (Except.ok.inj h).symm⟩

/-- What is read are the rows of the query, however the connection names their cells. -/
theorem Store.exists_of_read {s : Store} {q : Query} {records : List Record}
    (h : (s.read q).2 = .ok records) :
    ∃ t names, s.database.find? q.table = some t ∧
      s.connection.header s.access q s.database = .ok names ∧
      records = ((q.rows t).map (t.cells q.columns)).map (List.zip names) := by
  unfold read Connection.read at h
  split_ifs at h
  cases hheader : s.connection.header s.access q s.database with
  | error fault =>
    rw [hheader] at h
    cases h
  | ok names =>
    rw [hheader] at h
    unfold Connection.inspect at h
    cases hfault : s.access.fault? false with
    | some fault =>
      rw [hfault] at h
      cases h
    | none =>
      rw [hfault] at h
      cases hrun : q.run s.database with
      | error e =>
        rw [hrun] at h
        cases h
      | ok cells =>
        rw [hrun] at h
        obtain ⟨t, ht, rfl⟩ := Query.exists_of_run hrun
        exact ⟨t, names, ht, rfl, (Except.ok.inj h).symm⟩

/-! ## Operations -/

/-- An operation on the tables of a store. -/
inductive Operation where
  | setOverride (now : Timestamp) (key : String) (value : Option String)
  | getOverride (key : String)
  | listOverrides
  | clearOverride (key : String)
  | markEvent (now : Timestamp) (id : String) (eventType : Option String)
  | isProcessed (id : String)
  | recentEvents (limit : Int)
  | insertDecision (d : Decision)
  | getDecision (id : String)
  | updateStatus (id : String) (status : Status)
  | decisionsWithStatus (status : Status) (limit : Int)

namespace Operation

/-- The store after an operation. -/
def run : Operation → Store → Store
  | setOverride now key value, s => (s.setOverride now key value).1
  | getOverride key, s => (s.getOverride key).1
  | listOverrides, s => s.listOverrides.1
  | clearOverride key, s => (s.clearOverride key).1
  | markEvent now id eventType, s => (s.markEvent now id eventType).1
  | isProcessed id, s => (s.isProcessed id).1
  | recentEvents limit, s => (s.recentEvents limit).1
  | insertDecision d, s => (s.insertDecision d).1
  | getDecision id, s => (s.getDecision id).1
  | updateStatus id status, s => (s.updateStatus id status).1
  | decisionsWithStatus status limit, s => (s.decisionsWithStatus status limit).1

/-- The statement that an operation writes with, if it is not only a look. -/
def statement? : Operation → Option Statement
  | setOverride now key value =>
    some (.insert Store.overridesTable
      [("key", .text key), ("value", value.elim .null .text), ("updated_at", .text now.iso)]
      (.overwrite "key" ["value", "updated_at"]))
  | clearOverride key => some (.delete Store.overridesTable [("key", .text key)] .bare)
  | markEvent now id eventType =>
    some (.insert Store.eventsTable
      [("event_id", .text id), ("event_type", eventType.elim .null .text),
        ("processed_at", .text now.iso)] (.keep "event_id"))
  | insertDecision d =>
    some (.insert Store.decisionsTable
      [("decision_id", .text d.id), ("created_at", .text d.createdAt), ("kind", .text d.kind),
        ("payload_json", .text d.payload), ("status", .text d.status.text)] .refuse)
  | updateStatus id status =>
    some (.update Store.decisionsTable "status" status.text [("decision_id", .text id)])
  | _ => none

end Operation

/-! ## What a statement and a look do to a store -/

namespace Store

/-- A store with another connection. -/
structure SameContent (s s' : Store) : Prop where
  database : s'.database = s.database
  access : s'.access = s.access

/-- Looking at the rows changes at most what the connection remembers. -/
theorem readAs_sameContent {α : Type} (s : Store) (q : Query)
    (f : List Record → Except Fault α) : s.SameContent (s.readAs q f).1 := ⟨rfl, rfl⟩

/-- A statement fails and leaves the store as it is, or is carried out. -/
theorem write_cases (s : Store) (st : Statement) :
    (∃ fault, (s.write st).2 = .error fault ∧ s.SameContent (s.write st).1) ∨
      ∃ n, (s.write st).2 = .ok n ∧ (s.write st).1.access = s.access ∧
        st.exec s.access.lock s.database = .ok ((s.write st).1.database, n) := by
  unfold write Connection.exec
  cases s.connection.obstacle? s.access (.ofStatement st) st with
  | some fault => exact .inl ⟨fault, rfl, rfl, rfl⟩
  | none =>
    dsimp only
    cases hexec : st.exec s.access.lock s.database with
    | error e => exact .inl ⟨_, rfl, rfl, rfl⟩
    | ok r => exact .inr ⟨r.2, rfl, rfl, rfl⟩

/-- A statement leaves the database alone or is carried out. -/
theorem write_database (s : Store) (st : Statement) :
    (s.write st).1.access = s.access ∧
      ((s.write st).1.database = s.database ∨
        ∃ n, st.exec s.access.lock s.database = .ok ((s.write st).1.database, n)) := by
  rcases s.write_cases st with ⟨-, -, hsame⟩ | ⟨n, -, haccess, hexec⟩
  · exact ⟨hsame.access, .inl hsame.database⟩
  · exact ⟨haccess, .inr ⟨n, hexec⟩⟩

end Store

namespace Operation

/-- An operation that writes leaves the store that its statement leaves. -/
theorem run_of_statement {op : Operation} {st : Statement} (h : op.statement? = some st)
    (s : Store) : op.run s = (s.write st).1 := by
  cases op <;> cases h <;> rfl

/-- An operation that only looks leaves the store that reading some query leaves. -/
theorem exists_readAs_of_none {op : Operation} (h : op.statement? = none) :
    ∃ (α : Type) (q : Query) (f : List Record → Except Fault α),
      ∀ s : Store, op.run s = (s.readAs q f).1 := by
  cases op with
  | getOverride _ | listOverrides | isProcessed _ | recentEvents _ | getDecision _
  | decisionsWithStatus _ _ => exact ⟨_, _, _, fun _ => rfl⟩
  | setOverride _ _ _ | clearOverride _ | markEvent _ _ _ | insertDecision _ | updateStatus _ _ =>
    cases h

/-- An operation that only looks leaves the content of the store. -/
theorem run_of_none {op : Operation} (h : op.statement? = none) (s : Store) :
    s.SameContent (op.run s) := by
  obtain ⟨α, q, f, hrun⟩ := exists_readAs_of_none h
  rw [hrun]
  exact s.readAs_sameContent q f

/-- An operation leaves the database alone or carries out its statement. -/
theorem run_database (op : Operation) (s : Store) :
    (op.run s).access = s.access ∧
      ((op.run s).database = s.database ∨
        ∃ st n, op.statement? = some st ∧
          st.exec s.access.lock s.database = .ok ((op.run s).database, n)) := by
  cases hst : op.statement? with
  | none =>
    have hsame := run_of_none hst s
    exact ⟨hsame.access, .inl hsame.database⟩
  | some st =>
    rw [run_of_statement hst]
    obtain ⟨haccess, hdatabase⟩ := s.write_database st
    refine ⟨haccess, ?_⟩
    rcases hdatabase with hsame | ⟨n, hexec⟩
    · exact .inl hsame
    · exact .inr ⟨st, n, rfl, hexec⟩

/-- Operations write to the three built-in tables only. -/
theorem avoids_of_statement {op : Operation} {st : Statement} (h : op.statement? = some st)
    {name : String} (hoverrides : Text.sameLetters Store.overridesTable name = false)
    (hevents : Text.sameLetters Store.eventsTable name = false)
    (hdecisions : Text.sameLetters Store.decisionsTable name = false) : st.Avoids name := by
  intro n hn
  cases op <;> cases h <;> rw [List.mem_singleton.1 hn] <;> assumption

end Operation

/-! ## Runs -/

section Trail

variable {α : Type} (step : α → Store → Store)

/-- The store after steps. -/
def runs (steps : List α) (s : Store) : Store := steps.foldl (fun s a => step a s) s

/-- The steps, each with the store that it finds. -/
def trail : Store → List α → List (α × Store)
  | _, [] => []
  | s, a :: rest => (a, s) :: trail (step a s) rest

/-- A run goes on from where its first part ends. -/
@[simp] theorem runs_append (before after : List α) (s : Store) :
    runs step (before ++ after) s = runs step after (runs step before s) := List.foldl_append

/-- What every admissible step preserves holds at the end of a run and all along its trail. -/
theorem trail_invariant {I : Store → Prop} {P : α → Prop}
    (hstep : ∀ a s, P a → I s → I (step a s)) {steps : List α} {s : Store}
    (hP : ∀ a ∈ steps, P a) (hI : I s) :
    I (runs step steps s) ∧ ∀ p ∈ trail step s steps, P p.1 ∧ I p.2 := by
  induction steps generalizing s with
  | nil =>
    refine ⟨hI, fun p hp => ?_⟩
    cases hp
  | cons a rest ih =>
    have ha : P a := hP a List.mem_cons_self
    obtain ⟨hend, hrest⟩ := ih (fun b hb => hP b (List.mem_cons_of_mem _ hb)) (hstep a s ha hI)
    refine ⟨hend, fun p hp => ?_⟩
    rcases List.mem_cons.1 hp with rfl | hp
    · exact ⟨ha, hI⟩
    · exact hrest p hp

end Trail

end DispatchStore
