import DispatchStore.Proofs.Store.Opened
import DispatchStore.Proofs.Store.Run

/-!
# Connections that remember nothing else

What a connection remembers can make a difference: a statement can be held up by a schema that is no
more, and the cells of a query keep the names that its columns had when it was compiled. A
connection is attuned to its database if it remembers nothing of that kind (`Connection.IsAttuned`);
a new one remembers nothing at all.

Over an attuned connection that nobody keeps from writing, statements do what `Statement.exec` says
(`Store.write_eq`) and queries read what `Query.records` says (`Store.readAs_eq`). So every
operation answers as over a new connection and does the same to the database
(`Operation.answer_opened`, `Operation.run_opened`), and the connection stays attuned
(`Operation.attuned_run`).
-/

namespace DispatchStore

/-! ## What depends on columns alone -/

/-- A database and its schema have the same tables, apart from their rows. -/
theorem findsAlike_schema (db : Database) (name : String) : db.FindsAlike db.schema name := by
  have hschema := find?_schema db name
  cases hfind : db.find? name with
  | none =>
    rw [hfind] at hschema
    exact .neither hfind hschema
  | some t =>
    rw [hfind] at hschema
    exact .both hfind hschema ⟨rfl, rfl⟩

/-- A statement objects to the schema as it objects to the database. -/
@[simp]
theorem Statement.check_schema (s : Statement) (db : Database) :
    s.check db.schema = s.check db := by
  refine check_congr (fun name _ => findsAlike_schema db name) fun a b _ => ?_
  have hsome : ∀ name, (db.schema.find? name).isSome = (db.find? name).isSome := by
    intro name
    rw [find?_schema, Option.isSome_map]
  have hindexes : ∀ p : String → Bool, (db.schema.tables.any fun t => t.indexName?.any p) =
      db.tables.any fun t => t.indexName?.any p := by
    intro p
    unfold Database.schema
    rw [List.any_map]
    rfl
  unfold Database.isTakenFor Database.engineTable?
  simp only [hsome, hindexes]

namespace Statement

/-- What a statement leaves of a database that nobody keeps from writing. -/
def outcome (s : Statement) (db : Database) : Database :=
  match s.exec .free db with
  | .ok r => r.1
  | .error _ => db

/-- The statement writes rows and leaves the columns alone. -/
def writesRows : Statement → Bool
  | insert _ _ _ => true
  | update _ _ _ _ => true
  | delete _ _ _ => true
  | _ => false

/-- A table that is put in the place of one with the same layout leaves all layouts as they are. -/
theorem findsAlike_modify {db : Database} {name : String} {t t' : Table}
    (ht : db.find? name = some t) (hl : t.SameLayout t') (other : String) :
    db.FindsAlike (db.modify name fun _ => t') other := by
  cases hsame : Text.sameLetters other name with
  | true =>
    have hfind := Database.find?_replaced ht hl
    rw [← Database.find?_congr _ hsame] at hfind
    exact .both ((db.find?_congr hsame).trans ht) hfind hl
  | false => exact .of_eq (Database.find?_modify_of_ne (Database.isNamed_replaced ht hl) hsame)

/-- A statement that writes rows leaves every name what it finds, up to the rows. -/
theorem findsAlike_apply {s : Statement} (hs : s.writesRows = true) {db db' : Database} {n : Nat}
    (h : s.apply db = .ok (db', n)) (name : String) : db.FindsAlike db' name := by
  cases s with
  | insert table values onConflict =>
    obtain ⟨t, ht, h⟩ := bind_eq_ok_iff.1 h
    obtain ⟨⟨t', m⟩, hinsert, h⟩ := bind_eq_ok_iff.1 h
    cases h
    exact findsAlike_modify (find?_of_table ht) (Table.insert_sameLayout hinsert) name
  | update table column value criteria =>
    obtain ⟨t, ht, h⟩ := bind_eq_ok_iff.1 h
    obtain ⟨⟨t', m⟩, hupdate, h⟩ := bind_eq_ok_iff.1 h
    cases h
    exact findsAlike_modify (find?_of_table ht) (Table.update_sameLayout hupdate) name
  | delete table criteria spelling =>
    obtain ⟨t, ht, h⟩ := bind_eq_ok_iff.1 h
    cases h
    have hl : t.SameLayout (t.delete criteria).1 := ⟨rfl, rfl⟩
    exact findsAlike_modify (find?_of_table ht) hl name
  | create _ _ _ _ | drop _ | rename _ _ | addColumn _ _ | incomplete _ => cases hs

/-- A statement that writes rows leaves the layouts of all tables as they are. -/
theorem findsAlike_outcome {s : Statement} (hs : s.writesRows = true) (db : Database)
    (name : String) : db.FindsAlike (s.outcome db) name := by
  unfold outcome
  cases hexec : s.exec .free db with
  | error e => exact .of_eq rfl
  | ok r =>
    obtain ⟨db', n⟩ := r
    rcases exec_eq_ok hexec with ⟨-, rfl, -⟩ | ⟨-, happly⟩
    · exact .of_eq rfl
    · exact findsAlike_apply hs happly name

end Statement

namespace Query

/-- The names of the cells that a query reads depend only on the columns of its table. -/
theorem header_congr {db db' : Database} {q : Query} (h : db.FindsAlike db' q.table) :
    q.header db' = q.header db := by
  unfold header source Database.table
  cases h with
  | neither h h' => rw [h, h']
  | both h h' same =>
    rw [h, h']
    simp only [ok_bind, same.columnIndex?]
    split
    · rfl
    · simp only [pure, Except.pure, Except.map, Table.spelled, same.columnIndex?, same.columns]

/-- The query with its values left open. -/
def leftOpen (q : Query) : Query :=
  { q with criteria := Template.openValues q.criteria, limit := q.limit.map fun _ => 0 }

/-- A query is compiled with its values left open. -/
theorem ofQuery_eq (q : Query) : Template.ofQuery q = .query q.leftOpen := rfl

/-- The values in a query do not matter for the names of its cells. -/
@[simp]
theorem header_leftOpen (q : Query) (db : Database) : q.leftOpen.header db = q.header db := by
  have hnames : q.leftOpen.names = q.names := by
    simp [names, leftOpen, Template.openValues, Function.comp_def]
  unfold header source
  rw [hnames]
  rfl

end Query

/-! ## Attuned connections -/

/-- What the connection remembers is what it would find: the schema, if it has looked, and the names
of the cells of each query that it compiled. -/
structure Connection.IsAttuned (c : Connection) (db : Database) : Prop where
  known : c.known = none ∨ c.known = some db.schema
  names : ∀ q p, (Template.query q, p) ∈ c.prepared → ∀ names, q.header db = .ok names →
    p.names = names

/-- The template of a statement is no query. -/
@[simp] theorem isQuery_ofStatement (s : Statement) : (Template.ofStatement s).isQuery = false := by
  cases s <;> rfl

namespace Connection

/-- A new connection remembers nothing, and so nothing that is outdated. -/
theorem isAttuned_new (db : Database) : Connection.new.IsAttuned db :=
  ⟨.inl rfl, fun _ _ h => by cases h⟩

/-- What is looked up is remembered. -/
theorem mem_of_lookup {c : Connection} {template : Template} {p : Prepared}
    (h : c.prepared.lookup template = some p) : (template, p) ∈ c.prepared := by
  generalize c.prepared = prepared at h
  induction prepared with
  | nil => cases h
  | cons x rest ih =>
    rw [List.lookup_cons] at h
    cases heq : template == x.1 with
    | true =>
      rw [heq] at h
      cases h
      have hx : template = x.1 := by simpa using heq
      rw [hx]
      exact List.mem_cons_self
    | false =>
      rw [heq] at h
      exact List.mem_cons_of_mem _ (ih h)

/-- A connection that looks at the schema remembers nothing more that it compiled. -/
theorem mem_informed {c : Connection} {db : Database} {x : Template × Prepared}
    (h : x ∈ (c.informed db).prepared) : x ∈ c.prepared := by
  unfold informed at h
  split at h
  · exact (List.mem_filter.1 h).1
  · exact h

/-- What is remembered is what came last or was remembered before. -/
theorem mem_remember {c : Connection} {template : Template} {p : Prepared}
    {x : Template × Prepared} (h : x ∈ (c.remember template p).prepared) :
    x = (template, p) ∨ x ∈ c.prepared := by
  rcases List.mem_cons.1 h with hx | hx
  · exact .inl hx
  · exact .inr (List.mem_filter.1 hx).1

/-- Compiling a statement leaves the queries alone that are remembered. -/
theorem mem_compiled {c : Connection} {template : Template} (ht : template.isQuery = false)
    {s : Statement} {db : Database} {q : Query} {p : Prepared}
    (h : (Template.query q, p) ∈ (c.compiled template s db).prepared) :
    (Template.query q, p) ∈ c.prepared := by
  unfold compiled at h
  cases hcheck : s.check db with
  | ok writes =>
    rw [hcheck] at h
    rcases mem_remember h with heq | hold
    · rw [← (Prod.mk.inj heq).1] at ht
      cases ht
    · exact hold
  | error e =>
    rw [hcheck] at h
    exact (List.mem_filter.1 h).1

/-- A statement that is stopped leaves no query behind that was not remembered before. -/
theorem mem_stopped {c : Connection} {template : Template} (ht : template.isQuery = false)
    {s : Statement} {q : Query} {p : Prepared}
    (h : (Template.query q, p) ∈ (c.stopped template s).prepared) :
    (Template.query q, p) ∈ c.prepared := by
  unfold stopped at h
  split at h
  · exact mem_compiled ht h
  · exact h

section Attuned

variable {c : Connection} {db : Database} (h : c.IsAttuned db)
include h

/-- A connection that is attuned stays so when it looks at the schema. -/
theorem IsAttuned.informed : (c.informed db).IsAttuned db :=
  ⟨.inr (informed_known c db), fun q p hp => h.names q p (mem_informed hp)⟩

/-- A statement is held up only by an error that it meets in the database as well. -/
theorem obstacle?_attuned (template : Template) (s : Statement) :
    c.obstacle? (.opened .free) template s = none ∨
      ∃ e, c.obstacle? (.opened .free) template s = some (.engine e) ∧ s.check db = .error e := by
  unfold obstacle?
  rw [if_neg (by simp)]
  cases c.prepared.lookup template with
  | some p => exact .inl rfl
  | none =>
    rcases h.known with hknown | hknown
    · rw [hknown]
      exact .inl rfl
    · rw [hknown]
      dsimp only
      rw [s.check_schema]
      cases s.check db with
      | ok writes => exact .inl rfl
      | error e =>
        dsimp only
        split
        · exact .inl rfl
        · exact .inr ⟨e, rfl, rfl⟩

/-- A statement does what it does to the database. -/
theorem exec_attuned (template : Template) (s : Statement) :
    (c.exec (.opened .free) template s db).1 = s.outcome db ∧
      (c.exec (.opened .free) template s db).2.2 =
        ((s.exec .free db).map Prod.snd).mapError .engine := by
  unfold exec Statement.outcome
  rcases obstacle?_attuned h template s with hnone | ⟨e, hsome, hcheck⟩
  · rw [hnone]
    dsimp only [Access.lock]
    cases s.exec .free db <;> exact ⟨rfl, rfl⟩
  · have hexec : s.exec .free db = .error e := by
      unfold Statement.exec
      rw [hcheck]
      rfl
    rw [hsome, hexec]
    exact ⟨rfl, rfl⟩

/-- The connection stays attuned after a statement that writes rows. -/
theorem IsAttuned.exec {template : Template} (ht : template.isQuery = false) {s : Statement}
    (hs : s.writesRows = true) :
    (c.exec (.opened .free) template s db).2.1.IsAttuned (s.outcome db) := by
  have hheader : ∀ q : Query, q.header (s.outcome db) = q.header db := fun q =>
    Query.header_congr (Statement.findsAlike_outcome hs db q.table)
  have hcompiled : ∀ q p,
    (Template.query q, p) ∈ ((c.informed db).compiled template s db).prepared →
      ∀ names, q.header db = .ok names → p.names = names := fun q p hp =>
    h.names q p (mem_informed (mem_compiled ht hp))
  unfold Connection.exec
  rcases obstacle?_attuned h template s with hnone | ⟨e, hsome, hcheck⟩
  · rw [hnone]
    dsimp only [Access.lock]
    cases hexec : s.exec .free db with
    | ok r =>
      have hdb : s.outcome db = r.1 := by
        unfold Statement.outcome
        rw [hexec]
      refine ⟨.inr (by rw [hdb]; rfl), fun q p hp names hnames => ?_⟩
      rw [hheader] at hnames
      exact hcompiled q p hp names hnames
    | error e =>
      have hdb : s.outcome db = db := by
        unfold Statement.outcome
        rw [hexec]
      rw [hdb]
      exact ⟨.inr ((compiled_known _ _ _ _).trans (informed_known _ _)), hcompiled⟩
  · have hdb : s.outcome db = db := by
      unfold Statement.outcome Statement.exec
      rw [hcheck]
      rfl
    rw [hsome, hdb]
    refine ⟨?_, fun q p hp => h.names q p (mem_stopped ht hp)⟩
    dsimp only
    rw [stopped_known]
    exact h.known

/-- However the connection gets at the names of cells, they are those that the tables have now. -/
theorem header_attuned (q : Query) :
    c.header (.opened .free) q db = (q.header db).mapError .engine ∨
      ∃ e names, q.header db = .error e ∧ c.header (.opened .free) q db = .ok names := by
  have hschema : q.header db.schema = q.header db :=
    Query.header_congr (findsAlike_schema db q.table)
  unfold header
  cases hlookup : c.prepared.lookup (.ofQuery q) with
  | some p =>
    cases hheader : q.header db with
    | error e => exact .inr ⟨e, _, rfl, rfl⟩
    | ok names =>
      have hnames := h.names q.leftOpen p (mem_of_lookup hlookup) names
        ((q.header_leftOpen db).trans hheader)
      exact .inl (congrArg Except.ok hnames)
  | none =>
    rcases h.known with hknown | hknown
    · rw [hknown]
      exact .inl rfl
    · rw [hknown]
      simp only [Access.fault?, hschema]
      cases q.header db <;> exact .inl rfl

/-- A query reads its records. -/
theorem read_attuned (q : Query) :
    (c.read (.opened .free) q db).2 = (q.records db).mapError .engine := by
  unfold read
  rw [if_neg (by simp)]
  cases hsource : q.source db with
  | error e =>
    have hheader : q.header db = .error e := by
      unfold Query.header
      rw [hsource]
      rfl
    have hrun : q.run db = .error e := by
      unfold Query.run
      rw [hsource]
      rfl
    have hrecords : q.records db = .error e := by
      unfold Query.records
      rw [hsource]
      rfl
    rw [hrecords]
    rcases header_attuned h q with heq | ⟨e', names, -, heq⟩
    · rw [heq, hheader]
      rfl
    · rw [heq]
      simp only [inspect, Access.fault?, hrun]
      rfl
  | ok t =>
    have hheader : q.header db = .ok (t.spelled q.columns) := by
      unfold Query.header
      rw [hsource]
      rfl
    have hrun : q.run db = .ok ((q.rows t).map (t.cells q.columns)) := by
      unfold Query.run
      rw [hsource]
      rfl
    have hrecords : q.records db =
        .ok ((q.rows t).map fun row => (t.spelled q.columns).zip (t.cells q.columns row)) := by
      unfold Query.records
      rw [hsource]
      rfl
    rcases header_attuned h q with heq | ⟨e, names, herror, -⟩
    · rw [heq, hheader, hrecords]
      simp only [inspect, Access.fault?, Except.mapError, hrun, Except.bind, Except.map,
        List.map_map]
      rfl
    · rw [hheader] at herror
      cases herror

/-- The connection stays attuned after a query. -/
theorem IsAttuned.read (q : Query) : (c.read (.opened .free) q db).1.IsAttuned db := by
  unfold Connection.read
  rw [if_neg (by simp)]
  cases hheader : c.header (.opened .free) q db with
  | error fault => exact h.informed
  | ok names =>
    have hremember : (c.remember (.ofQuery q) ⟨false, names⟩).IsAttuned db := by
      refine ⟨h.known, fun q' p hp names' hnames => ?_⟩
      rcases mem_remember hp with heq | hold
      · rw [Query.ofQuery_eq, Prod.mk.injEq, Template.query.injEq] at heq
        obtain ⟨rfl, rfl⟩ := heq
        rw [Query.header_leftOpen] at hnames
        rcases header_attuned h q with hsame | ⟨e, -, herror, -⟩
        · rw [hheader, hnames] at hsame
          exact Except.ok.inj hsame
        · rw [hnames] at herror
          cases herror
      · exact h.names q' p hold names' hnames
    exact hremember.informed

end Attuned

end Connection

/-! ## Attuned stores -/

namespace Store

/-- The connection of the store remembers nothing but what it would find. -/
def IsAttuned (s : Store) : Prop := s.connection.IsAttuned s.database

/-- A store opened right now is attuned. -/
theorem isAttuned_opened (db : Database) : (opened db).IsAttuned := Connection.isAttuned_new db

section Attuned

variable {s : Store} (hopen : s.access = .opened .free) (h : s.IsAttuned)
include hopen h

/-- Over an attuned connection a statement does what it does to the database, and counts the same
rows. -/
theorem write_eq (st : Statement) :
    (s.write st).1.database = st.outcome s.database ∧
      (s.write st).2 = ((st.exec .free s.database).map Prod.snd).mapError .engine := by
  have hexec := Connection.exec_attuned h (.ofStatement st) st
  unfold write
  rw [hopen]
  exact hexec

/-- Writing rows leaves the connection attuned. -/
theorem attuned_write {st : Statement} (hs : st.writesRows = true) :
    (s.write st).1.IsAttuned := by
  have hexec := Connection.IsAttuned.exec h (isQuery_ofStatement st) hs
  rw [← (write_eq hopen h st).1] at hexec
  unfold IsAttuned write at *
  rw [hopen] at *
  exact hexec

/-- Over an attuned connection a query is answered from the records that it reads. -/
theorem readAs_eq {α : Type} (q : Query) (f : List Record → Except Fault α) :
    (s.readAs q f).2 = ((q.records s.database).mapError .engine).bind f := by
  have hread := Connection.read_attuned h q
  rw [← hread, ← hopen]
  rfl

/-- Reading leaves the connection attuned. -/
theorem attuned_readAs {α : Type} (q : Query) (f : List Record → Except Fault α) :
    (s.readAs q f).1.IsAttuned := by
  have hread := Connection.IsAttuned.read h q
  rw [← hopen] at hread
  exact hread

end Attuned

end Store

/-! ## Operations -/

/-- What an operation answers. -/
inductive Reply where
  | done
  | flag (b : Bool)
  | override (o : Option Override)
  | overrides (l : List Override)
  | events (l : List ProcessedEvent)
  | decision (d : Option Decision)
  | decisions (l : List Decision)
deriving DecidableEq

namespace Operation

/-- The answer of an operation. -/
def answer : Operation → Store → Except Fault Reply
  | setOverride now key value, s => (s.setOverride now key value).2.map fun _ => .done
  | getOverride key, s => (s.getOverride key).2.map .override
  | listOverrides, s => s.listOverrides.2.map .overrides
  | clearOverride key, s => (s.clearOverride key).2.map .flag
  | markEvent now id eventType, s => (s.markEvent now id eventType).2.map .flag
  | isProcessed id, s => (s.isProcessed id).2.map .flag
  | recentEvents limit, s => (s.recentEvents limit).2.map .events
  | insertDecision d, s => (s.insertDecision d).2.map fun _ => .done
  | getDecision id, s => (s.getDecision id).2.map .decision
  | updateStatus id status, s => (s.updateStatus id status).2.map .flag
  | decisionsWithStatus status limit, s => (s.decisionsWithStatus status limit).2.map .decisions

/-- What an operation says about the number of rows that its statement wrote. -/
def tell (n : Nat) : Operation → Reply
  | clearOverride _ => .flag (0 < n)
  | markEvent _ _ _ => .flag (0 < n)
  | updateStatus _ _ => .flag (0 < n)
  | _ => .done

/-- An operation that writes answers by the number of rows that its statement wrote. -/
theorem answer_of_statement {op : Operation} {st : Statement} (h : op.statement? = some st)
    (s : Store) : op.answer s = (s.write st).2.map fun n => op.tell n := by
  cases op <;> cases h <;> simp only [answer, tell, Store.setOverride, Store.clearOverride,
    Store.markEvent, Store.insertDecision, Store.updateStatus] <;> cases (s.write _).2 <;> rfl

/-- No operation changes columns. -/
theorem writesRows_of_statement {op : Operation} {st : Statement} (h : op.statement? = some st) :
    st.writesRows = true := by
  cases op <;> cases h <;> rfl

section Attuned

variable {s : Store} (hopen : s.access = .opened .free) (h : s.IsAttuned)
include hopen h

/-- An operation answers as over a new connection. -/
theorem answer_opened (op : Operation) : op.answer s = op.answer (.opened s.database) := by
  have hnew := Store.isAttuned_opened s.database
  cases hst : op.statement? with
  | some st =>
    rw [answer_of_statement hst, answer_of_statement hst, (Store.write_eq hopen h st).2,
      (Store.write_eq rfl hnew st).2]
    rfl
  | none =>
    have hread : ∀ {α : Type} (q : Query) (f : List Record → Except Fault α),
        (s.readAs q f).2 = ((Store.opened s.database).readAs q f).2 := fun q f =>
      (Store.readAs_eq hopen h q f).trans (Store.readAs_eq rfl hnew q f).symm
    cases op with
    | getOverride _ | listOverrides | isProcessed _ | recentEvents _ | getDecision _
    | decisionsWithStatus _ _ => exact congrArg (Except.map _) (hread _ _)
    | setOverride _ _ _ | clearOverride _ | markEvent _ _ _ | insertDecision _
    | updateStatus _ _ => cases hst

/-- An operation does to the database what it does over a new connection. -/
theorem run_opened (op : Operation) :
    (op.run s).database = (op.run (.opened s.database)).database := by
  have hnew := Store.isAttuned_opened s.database
  cases hst : op.statement? with
  | some st =>
    rw [run_of_statement hst, run_of_statement hst, (Store.write_eq hopen h st).1,
      (Store.write_eq rfl hnew st).1]
    rfl
  | none => rw [(run_of_none hst s).database, (run_of_none hst _).database]; rfl

/-- The connection stays attuned. -/
theorem attuned_run (op : Operation) : (op.run s).IsAttuned := by
  cases hst : op.statement? with
  | some st =>
    rw [run_of_statement hst]
    exact Store.attuned_write hopen h (writesRows_of_statement hst)
  | none =>
    obtain ⟨α, q, f, hrun⟩ := exists_readAs_of_none hst
    rw [hrun]
    exact Store.attuned_readAs hopen h q f

end Attuned

end Operation

end DispatchStore
