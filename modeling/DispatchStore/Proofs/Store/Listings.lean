import DispatchStore.Proofs.Store.DecisionMap
import DispatchStore.Proofs.Store.EventMap

/-!
# What listings leave out

A listing with a limit shows the first rows of an order, and that order is total on the rows of a
table with a key. So the rows and the limit settle the listing (`IsTop.unique`): it does not matter
in which order the rows were written, and a listing with a larger limit goes on where one with a
smaller limit ends (`IsTop.isPrefix`).

Both listings of a store are of this kind (`Store.listings_top`), whatever the limit and whoever
holds the lock for writing, if the names by which the connection knows the cells are those that the
tables have now (`Store.NamesCells`). A connection that remembers the columns of a table that was
replaced finds the rows and cannot read them (`Store.not_listsTop_replaced`).
-/

namespace DispatchStore

/-! ## The first ones of an order -/

/-- The first `k` rows of an order, each once, or all of them if there are fewer. -/
structure IsTop {α : Type} (before : α → α → Prop) (k : Nat) (rows l : List α) : Prop where
  length_eq : l.length = min k rows.length
  nodup : l.Nodup
  subset : l ⊆ rows
  ordered : l.Pairwise before
  /-- What is left out comes behind all that is not. -/
  rest : ∀ a ∈ rows, a ∉ l → ∀ b ∈ l, before b a

namespace IsTop

variable {α : Type} {before : α → α → Prop} {j k : Nat} {rows rows' l l' : List α}

/-- The top of an order, cut off further, is the top for the smaller limit. -/
theorem take (h : IsTop before k rows l) (hj : j ≤ k) : IsTop before j rows (l.take j) := by
  constructor
  · rw [List.length_take, h.length_eq]
    omega
  · exact (List.take_sublist j l).nodup h.nodup
  · exact fun a ha => h.subset (List.mem_of_mem_take ha)
  · exact h.ordered.sublist (List.take_sublist j l)
  · intro a ha hout b hb
    by_cases hmem : a ∈ l
    · -- cut off by the smaller limit
      have hsplit := h.ordered
      rw [← List.take_append_drop j l] at hsplit hmem
      have hdrop : a ∈ l.drop j := (List.mem_append.1 hmem).resolve_left hout
      exact (List.pairwise_append.1 hsplit).2.2 b hb a hdrop
    · exact h.rest a ha hmem b (List.mem_of_mem_take hb)

/-- The rows, in whatever order they are given, and the limit settle what comes first. -/
theorem unique (hasymm : ∀ a b, before a b → ¬ before b a) (h : IsTop before k rows l)
    (h' : IsTop before k rows' l') (hperm : rows.Perm rows') : l = l' := by
  have hlength : l.length = l'.length := by rw [h.length_eq, h'.length_eq, hperm.length_eq]
  have hsubset : l ⊆ l' := by
    intro a ha
    by_contra hout
    -- there are as many in the other list, so that one of those is left out here, and the two would
    -- each come before the other
    have hother : ¬ l' ⊆ l := by
      intro hsub
      have hsame := (List.subperm_of_subset h'.nodup hsub).perm_of_length_le hlength.le
      exact hout (hsame.mem_iff.2 ha)
    obtain ⟨b, hb, hbout⟩ : ∃ b ∈ l', b ∉ l := by
      simpa only [List.subset_def, not_forall, exists_prop] using hother
    have hab := h.rest b (hperm.mem_iff.2 (h'.subset hb)) hbout a ha
    have hba := h'.rest a (hperm.mem_iff.1 (h.subset ha)) hout b hb
    exact hasymm a b hab hba
  have hsame := (List.subperm_of_subset h.nodup hsubset).perm_of_length_le hlength.ge
  exact hsame.eq_of_pairwise
    (fun a b _ _ hab hba => absurd hba (hasymm a b hab)) h.ordered h'.ordered

/-- With a larger limit more is added at the end. -/
theorem isPrefix (hasymm : ∀ a b, before a b → ¬ before b a) (h : IsTop before j rows l)
    (h' : IsTop before k rows l') (hj : j ≤ k) : l <+: l' := by
  rw [h.unique hasymm (h'.take hj) (.refl _)]
  exact List.take_prefix j l'

end IsTop

/-- An enumeration of rows, cut off, is what comes first. -/
theorem Enumerates.isTop {α : Type} {P : α → Prop} {before : α → α → Prop} {rows l : List α}
    (h : Enumerates P before l) (hirrefl : ∀ a, ¬ before a a) (hnodup : rows.Nodup)
    (hrows : ∀ a, a ∈ rows ↔ P a) (k : Nat) : IsTop before k rows (l.take k) := by
  have hperm : l.Perm rows := by
    rw [List.perm_ext_iff_of_nodup (h.nodup hirrefl) hnodup]
    intro a
    rw [h.mem, hrows]
  have hall : IsTop before (max k rows.length) rows l := by
    constructor
    · rw [hperm.length_eq]
      omega
    · exact h.nodup hirrefl
    · exact hperm.subset
    · exact h.ordered
    · exact fun a ha hout => absurd (hperm.mem_iff.2 ha) hout
  exact hall.take (le_max_left _ _)

/-! ## The two orders -/

/-- One event comes before another in a listing: by the bytes of the times they were recorded, the
largest ones first and those without a time last, and then by the bytes of the ids, the largest ones
first. -/
def ProcessedEvent.IsListedBefore (a b : ProcessedEvent) : Prop :=
  match a.processedAt, b.processedAt with
  | some s, some t => Text.utf8 t < Text.utf8 s ∨ t = s ∧ Text.utf8 b.id < Text.utf8 a.id
  | some _, none => True
  | none, some _ => False
  | none, none => Text.utf8 b.id < Text.utf8 a.id

/-- The order by bytes is the order by times and ids. -/
theorem ProcessedEvent.isListedBefore_iff {a b : ProcessedEvent} :
    a.IsListedBefore b ↔ a.Precedes b := by
  obtain ⟨id, type, time⟩ := a
  obtain ⟨id', type', time'⟩ := b
  cases time <;> cases time' <;>
    simp [IsListedBefore, Precedes, ProcessedEvent.time, Text.utf8_lt_utf8_iff]

/-- Of two events at most one is listed before the other. -/
theorem ProcessedEvent.isListedBefore_asymm (a b : ProcessedEvent) (h : a.IsListedBefore b) :
    ¬ b.IsListedBefore a := by
  rw [isListedBefore_iff] at h ⊢
  exact precedes_asymm h

/-- Of two decisions at most one is listed before the other. -/
theorem Decision.precedes_asymm (a b : Decision) (h : a.Precedes b) : ¬ b.Precedes a := by
  rw [precedes_iff] at h ⊢
  exact lt_asymm h

/-! ## The rows of a table -/

namespace Database

/-- The rows of the table with the given name, in the order in which they are kept. -/
def rowsOf (db : Database) (table : String) : List Row := (db.find? table).elim [] Table.rows

/-- The rows of the ledger. -/
def events (db : Database) : List ProcessedEvent := (db.rowsOf Store.eventsTable).map .ofRow

/-- The rows of the table of decisions. -/
def decisions (db : Database) : List Decision := (db.rowsOf Store.decisionsTable).map .ofRow

/-- The rows of a name are those of the table that it finds. -/
theorem rowsOf_eq {db : Database} {table : String} {t : Table} (ht : db.find? table = some t) :
    db.rowsOf table = t.rows := by
  unfold rowsOf
  rw [ht]
  rfl

end Database

/-- Rows with different keys stand for different things. -/
theorem Table.IsKeyed.nodup_map {t : Table} (hk : t.IsKeyed) {α : Type} {of : Row → α}
    {key : α → String} (hkey : ∀ row, key (of row) = row.text 0) : (t.rows.map of).Nodup := by
  rw [List.Nodup, List.pairwise_map]
  refine hk.distinct.imp_of_mem fun {a b} ha hb hne heq => hne ?_
  obtain ⟨id, hid⟩ := hk.keyed a ha
  obtain ⟨id', hid'⟩ := hk.keyed b hb
  have hids : a.text 0 = b.text 0 := by rw [← hkey, ← hkey, heq]
  rw [hid, hid']
  simpa [Row.text, hid, hid', Value.text?] using hids

section Rows

variable {s : Store} (h : s.IsInService) {m : Migration} (hm : m ∈ Registry.builtIn) {α : Type}
  {of : Row → α} (hof : ∀ row : Row, of ⟨0, row.cells⟩ = of row) (key : α → String)
  (hkey : ∀ row, key (of row) = row.text 0)
include h hm hkey

/-- The rows of one of the three tables stand for different things. -/
theorem Store.IsInService.nodup_rowsOf :
    ((s.database.rowsOf m.shape.table).map of).Nodup := by
  obtain ⟨t, ht, -, hk⟩ := h.exists_table hm
  rw [Database.rowsOf_eq ht]
  exact hk.nodup_map hkey

include hof in
/-- What the rows stand for is what the view of the table shows. -/
theorem Store.IsInService.mem_rowsOf {a : α} :
    a ∈ (s.database.rowsOf m.shape.table).map of ↔ s.database.view m of (key a) = some a := by
  obtain ⟨t, ht, -, hk⟩ := h.exists_table hm
  rw [Database.rowsOf_eq ht, List.mem_map, Database.view_eq_some_iff ht hof hk hkey]

end Rows

/-! ## Connections that know the names of cells -/

namespace Store

/-- The names by which the connection knows the cells that a query reads are those that they have
now. -/
def NamesCells (s : Store) (q : Query) : Prop :=
  s.connection.header s.access q s.database = (q.header s.database).mapError .engine

/-- With the names of now a query reads what it reads over a new connection, whoever holds the lock
for writing. -/
theorem readAs_of_namesCells {s : Store} {lock : WriteLock} (hopen : s.access = .opened lock)
    {q : Query} (hnames : s.NamesCells q) {α : Type} (f : List Record → Except Fault α) :
    (s.readAs q f).2 = ((opened s.database).readAs q f).2 := by
  have hfault : s.access.fault? false = none := by
    rw [hopen]
    cases lock <;> rfl
  have hresult : ∀ (c : Connection) (access : Access),
    access ≠ .closed → access.fault? false = none →
      c.header access q s.database = (q.header s.database).mapError .engine →
      (c.read access q s.database).2 = ((q.header s.database).mapError .engine).bind fun names =>
        ((q.run s.database).mapError .engine).map fun rows => rows.map names.zip := by
    intro c access hclosed hfree hheader
    unfold Connection.read
    rw [if_neg hclosed, hheader]
    cases q.header s.database with
    | error e => rfl
    | ok names =>
      simp only [Except.mapError, Connection.inspect, hfree]
      rfl
  have hold := hresult s.connection s.access (by rw [hopen]; simp) hfault hnames
  have hnew := hresult .new (.opened .free) (by simp) rfl rfl
  exact congrArg (Except.bind · f) (hold.trans hnew.symm)

/-- A store with healthy tables whose listings can be read. -/
structure IsLegible (s : Store) : Prop where
  access : ∃ lock, s.access = .opened lock
  events : ∀ limit, s.NamesCells (.recentEvents limit)
  decisions : ∀ status limit, s.NamesCells (.decisionsWithStatus status limit)
  healthy : s.database.IsHealthy
  sound : s.database.IsSound
  filled : s.database.IsFilled

/-- What is in service can be read. -/
theorem IsInService.isLegible {s : Store} (h : s.IsInService) (hfilled : s.database.IsFilled) :
    s.IsLegible := by
  -- a query that is answered found its columns, and then the connection names them as they are
  have hnames : ∀ {α : Type} {q : Query} {f : List Record → Except Fault α} {answer : α},
      (s.readAs q f).2 = .ok answer → s.NamesCells q := by
    intro α q f answer hanswer
    unfold NamesCells
    rw [h.access]
    refine (Connection.header_attuned h.attuned q).resolve_right ?_
    rintro ⟨e, -, herror, -⟩
    rw [readAs_eq h.access h.attuned] at hanswer
    unfold Query.header at herror
    unfold Query.records at hanswer
    cases hsource : q.source s.database with
    | error e' =>
      rw [hsource] at hanswer
      cases hanswer
    | ok t =>
      rw [hsource] at herror
      cases herror
  have hdecisions := h.holdsDecisions hfilled
  refine ⟨⟨_, h.access⟩, fun limit => ?_, fun status limit => ?_, h.healthy, h.sound, hfilled⟩
  · obtain ⟨l, hlist, -⟩ := h.recentEvents_answer limit
    exact hnames hlist
  · obtain ⟨l, hlist, -⟩ := h.decisionsWithStatus_answer hdecisions status limit
    exact hnames hlist

/-! ## The listings -/

section Legible

variable {s : Store} (h : s.IsLegible)
include h

/-- With a new connection a store that can be read is in service. -/
theorem IsLegible.isInService : (opened s.database).IsInService :=
  ⟨rfl, isAttuned_opened _, h.healthy, h.sound⟩

/-- The events listed are the top of their order. -/
theorem IsLegible.recentEvents_top (limit : Int) :
    ∃ l, (s.recentEvents limit).2 = .ok l ∧
      IsTop ProcessedEvent.IsListedBefore (max 1 (min limit 500)).toNat s.database.events l := by
  have hservice := h.isInService
  obtain ⟨lock, hopen⟩ := h.access
  obtain ⟨l, hlist, hall⟩ := hservice.recentEvents_answer limit
  refine ⟨_, (readAs_of_namesCells hopen (h.events limit) _).trans hlist, ?_⟩
  have hlisted : Enumerates (fun e => s.database.event? e.id = some e)
      ProcessedEvent.IsListedBefore l :=
    ⟨hall.mem, hall.ordered.imp ProcessedEvent.isListedBefore_iff.2⟩
  apply hlisted.isTop
  · exact fun e he => ProcessedEvent.isListedBefore_asymm e e he he
  · exact hservice.nodup_rowsOf (m := .events) (by decide) ProcessedEvent.id fun _ => rfl
  · intro e
    exact hservice.mem_rowsOf (m := .events) (by decide)
      (fun _ => rfl) ProcessedEvent.id fun _ => rfl

/-- The decisions listed are the top of those with the status. -/
theorem IsLegible.decisionsWithStatus_top (status : Status) (limit : Int) :
    ∃ l, (s.decisionsWithStatus status limit).2 = .ok l ∧
      IsTop Decision.Precedes (max 1 (min limit 500)).toNat
        (s.database.decisions.filter fun d => d.status = status) l := by
  have hservice := h.isInService
  obtain ⟨lock, hopen⟩ := h.access
  obtain ⟨l, hlist, hall⟩ :=
    hservice.decisionsWithStatus_answer (hservice.holdsDecisions h.filled) status limit
  refine ⟨_, (readAs_of_namesCells hopen (h.decisions status limit) _).trans hlist, ?_⟩
  apply hall.isTop
  · exact fun d hd => Decision.precedes_asymm d d hd hd
  · have hnodup : s.database.decisions.Nodup :=
      hservice.nodup_rowsOf (m := .decisions) (by decide) Decision.id fun _ => rfl
    exact hnodup.filter _
  · intro d
    have hmem : d ∈ s.database.decisions ↔ s.database.decision? d.id = some d :=
      hservice.mem_rowsOf (m := .decisions) (by decide) (fun _ => rfl) Decision.id fun _ => rfl
    rw [List.mem_filter, hmem, decide_eq_true_eq]
    rfl

end Legible

/-- What the listings of a store show. -/
structure ListsTop (s : Store) : Prop where
  /-- The latest events of the ledger, as many as the limit allows. -/
  events : ∀ limit, ∃ l, (s.recentEvents limit).2 = .ok l ∧
    IsTop ProcessedEvent.IsListedBefore (max 1 (min limit 500)).toNat s.database.events l
  /-- Of the decisions with a status the oldest ones, as many as the limit allows. -/
  decisions : ∀ status limit, ∃ l, (s.decisionsWithStatus status limit).2 = .ok l ∧
    IsTop Decision.Precedes (max 1 (min limit 500)).toNat
      (s.database.decisions.filter fun d => d.status = status) l
  /-- A larger limit adds events at the end. -/
  moreEvents : ∀ a b, a ≤ b → ∃ l l', (s.recentEvents a).2 = .ok l ∧
    (s.recentEvents b).2 = .ok l' ∧ l <+: l'
  /-- A larger limit adds decisions at the end. -/
  moreDecisions : ∀ status a b, a ≤ b → ∃ l l', (s.decisionsWithStatus status a).2 = .ok l ∧
    (s.decisionsWithStatus status b).2 = .ok l' ∧ l <+: l'

/-- Two stores list the same if their tables hold the same rows, in whatever order. -/
structure ListsAlike (s s' : Store) : Prop where
  events : s.database.events.Perm s'.database.events →
    ∀ limit, (s.recentEvents limit).2 = (s'.recentEvents limit).2
  decisions : s.database.decisions.Perm s'.database.decisions →
    ∀ status limit, (s.decisionsWithStatus status limit).2 = (s'.decisionsWithStatus status limit).2

/-- **A listing is the top of an order.** Both listings show the first rows that there are, as many
as the limit allows, and it does not matter in which order the rows were written. -/
theorem listings_top {s s' : Store} (h : s.IsLegible) (h' : s'.IsLegible) :
    s.ListsTop ∧ s.ListsAlike s' := by
  have hlimit : ∀ {a b : Int}, a ≤ b →
      (max 1 (min a 500)).toNat ≤ (max 1 (min b 500)).toNat := by
    intro a b hab
    omega
  constructor
  · constructor
    · exact h.recentEvents_top
    · exact h.decisionsWithStatus_top
    · intro a b hab
      obtain ⟨l, hl, htop⟩ := h.recentEvents_top a
      obtain ⟨l', hl', htop'⟩ := h.recentEvents_top b
      exact ⟨l, l', hl, hl',
        htop.isPrefix ProcessedEvent.isListedBefore_asymm htop' (hlimit hab)⟩
    · intro status a b hab
      obtain ⟨l, hl, htop⟩ := h.decisionsWithStatus_top status a
      obtain ⟨l', hl', htop'⟩ := h.decisionsWithStatus_top status b
      exact ⟨l, l', hl, hl', htop.isPrefix Decision.precedes_asymm htop' (hlimit hab)⟩
  · constructor
    · intro hperm limit
      obtain ⟨l, hl, htop⟩ := h.recentEvents_top limit
      obtain ⟨l', hl', htop'⟩ := h'.recentEvents_top limit
      rw [hl, hl', htop.unique ProcessedEvent.isListedBefore_asymm htop' hperm]
    · intro hperm status limit
      obtain ⟨l, hl, htop⟩ := h.decisionsWithStatus_top status limit
      obtain ⟨l', hl', htop'⟩ := h'.decisionsWithStatus_top status limit
      rw [hl, hl', htop.unique Decision.precedes_asymm htop' (hperm.filter _)]

/-- New tables with rows that a script wrote. -/
def filledBy (script : List Statement) : Store :=
  opened ((opened ⟨Registry.builtIn.map fun m => m.shape.asTable⟩).script script).1.database

/-- Events with and without a time and decisions of two kinds are written in one order and in the
other. -/
theorem listings_top_reversed :
    let script : List Statement :=
      [.insert eventsTable [("event_id", .text "a"), ("processed_at", .text "")] .refuse,
        .insert eventsTable [("event_id", .text "é")] .refuse,
        .insert eventsTable [("event_id", .text "z")] .refuse,
        .insert eventsTable [("event_id", .text "b"), ("processed_at", .text "2024")] .refuse,
        .insert decisionsTable [("decision_id", .text "e"), ("created_at", .text "1"),
          ("kind", .text ""), ("payload_json", .text "{}"), ("status", .text "pending")] .refuse,
        .insert decisionsTable [("decision_id", .text "d"), ("created_at", .text "1"),
          ("kind", .text ""), ("payload_json", .text ""), ("status", .text "pending")] .refuse,
        .insert decisionsTable [("decision_id", .text ""), ("created_at", .text "1"),
          ("kind", .text ""), ("payload_json", .text ""), ("status", .text " pending")] .refuse]
    let s := filledBy script
    let s' := filledBy script.reverse
    s.IsLegible ∧ s'.IsLegible ∧ s.database.events.Perm s'.database.events ∧
      s.database.decisions.Perm s'.database.decisions ∧ s.ListsTop ∧ s.ListsAlike s' := by
  intro script s s'
  obtain ⟨hhealthy, hsound, hfilled⟩ :
      s.database.IsHealthy ∧ s.database.IsSound ∧ s.database.IsFilled := by decide +kernel
  obtain ⟨hhealthy', hsound', hfilled'⟩ :
      s'.database.IsHealthy ∧ s'.database.IsSound ∧ s'.database.IsFilled := by decide +kernel
  obtain ⟨hevents, hdecisions⟩ : s.database.events.Perm s'.database.events ∧
      s.database.decisions.Perm s'.database.decisions := by decide +kernel
  have hlegible : s.IsLegible :=
    IsInService.isLegible ⟨rfl, isAttuned_opened _, hhealthy, hsound⟩ hfilled
  have hlegible' : s'.IsLegible :=
    IsInService.isLegible ⟨rfl, isAttuned_opened _, hhealthy', hsound'⟩ hfilled'
  exact ⟨hlegible, hlegible', hevents, hdecisions, listings_top hlegible hlegible'⟩

/-- The connection listed the events when the ledger had the key under another spelling. Of the
ledger that replaced it, which is healthy, it cannot list the one event that is there. -/
theorem not_listsTop_replaced :
    let s := (Operation.markEvent (still 0) "e" none).run (replaced .events (.recentEvents 1))
    s.access = .opened .free ∧ s.database.IsHealthy ∧ s.database.IsSound ∧ s.database.IsFilled ∧
      ¬ s.ListsTop := by
  intro s
  obtain ⟨hlisting, haccess, hhealthy, hsound, hfilled⟩ :
      (s.recentEvents 1).2 = .error (.unreadable "event_id") ∧ s.access = .opened .free ∧
        s.database.IsHealthy ∧ s.database.IsSound ∧ s.database.IsFilled := by decide +kernel
  refine ⟨haccess, hhealthy, hsound, hfilled, fun htop => ?_⟩
  obtain ⟨l, hlist, -⟩ := htop.events 1
  rw [hlisting] at hlist
  cases hlist

end Store

end DispatchStore
