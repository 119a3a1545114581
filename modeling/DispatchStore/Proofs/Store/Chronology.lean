import DispatchStore.Proofs.Store.Listings
import DispatchStore.Proofs.Time.TextOrder
import DispatchStore.Time.Strict

/-!
# Listings in the order of time

The canonical texts of the years 0 to 9999 are ordered as the instants that they write, and they
tell apart what differs in a millisecond (`Timestamp.TextsInOrder`). So decisions whose times are
such texts are listed in the order of time (`Decision.IsNoLater`): by whatever connection they are
listed, as long as it calls the cells by the names of the columns (`Connection.NamesColumns`), which
a new connection does and which stays so whatever it is used for.
-/

namespace DispatchStore

/-! ## Connections that name cells after their columns -/

/-- Columns are spelled as a query names them, up to the case of letters. -/
theorem Table.lower_spelled {t : Table} {columns : List String}
    (h : ∀ name ∈ columns, (t.columnIndex? name).isSome = true) :
    (t.spelled columns).map Text.lower = columns.map Text.lower := by
  induction columns with
  | nil => rfl
  | cons name rest ih =>
    obtain ⟨i, hi⟩ := Option.isSome_iff_exists.1 (h name List.mem_cons_self)
    have hrest := ih fun other hother => h other (List.mem_cons_of_mem _ hother)
    obtain ⟨hlt, hnamed, -⟩ := List.findIdx?_eq_some_iff_getElem.1 hi
    have hlower : Text.lower (t.columns[i]).name = Text.lower name := Text.sameLetters_iff.1 hnamed
    unfold Table.spelled at hrest ⊢
    rw [List.filterMap_cons, hi]
    simp only [Option.bind_some, List.getElem?_eq_getElem hlt, Option.map_some, List.map_cons,
      hlower, hrest]

/-- The names of cells are those in the query, up to the case of letters. -/
theorem Query.lower_header {q : Query} {db : Database} {names : List String}
    (h : q.header db = .ok names) : names.map Text.lower = q.columns.map Text.lower := by
  unfold header at h
  cases hsource : q.source db with
  | error e =>
    rw [hsource] at h
    cases h
  | ok t =>
    rw [hsource] at h
    cases h
    apply Table.lower_spelled
    intro name hname
    obtain ⟨u, -, hnames⟩ := bind_eq_ok_iff.1 hsource
    split at hnames
    · cases hnames
    · next hfound =>
      cases hnames
      have hall := List.find?_eq_none.1 hfound name (by simp [Query.names, hname])
      simpa [Option.isNone_iff_eq_none, Option.isSome_iff_ne_none] using hall

/-- Whatever the connection remembers of a query names its cells after their columns, in some case
of letters. -/
def Connection.NamesColumns (c : Connection) : Prop :=
  ∀ q p, (Template.query q, p) ∈ c.prepared → p.names.map Text.lower = q.columns.map Text.lower

namespace Connection

/-- A new connection names no cells, and so none of them otherwise than its column. -/
theorem namesColumns_new : Connection.new.NamesColumns := nofun

section Names

variable {c : Connection} (h : c.NamesColumns)
include h

/-- A connection that names cells after their columns still does so in its answer. -/
theorem NamesColumns.header {access : Access} {q : Query} {db : Database} {names : List String}
    (hheader : c.header access q db = .ok names) :
    names.map Text.lower = q.columns.map Text.lower := by
  have hthere : (q.header db).mapError Fault.engine = .ok names → _ := fun hnames => by
    cases hcases : q.header db with
    | error e =>
      rw [hcases] at hnames
      cases hnames
    | ok names' =>
      rw [hcases] at hnames
      cases hnames
      exact Query.lower_header hcases
  unfold Connection.header at hheader
  cases hlookup : c.prepared.lookup (.ofQuery q) with
  | some p =>
    rw [hlookup] at hheader
    cases hheader
    exact h q.leftOpen p (mem_of_lookup hlookup)
  | none =>
    rw [hlookup] at hheader
    cases hknown : c.known with
    | none =>
      rw [hknown] at hheader
      cases hfault : access.fault? false with
      | some fault =>
        rw [hfault] at hheader
        cases hheader
      | none =>
        rw [hfault] at hheader
        exact hthere hheader
    | some known =>
      rw [hknown] at hheader
      cases hold : q.header known with
      | ok names' =>
        simp only [hold] at hheader
        cases hheader
        exact Query.lower_header hold
      | error e =>
        simp only [hold] at hheader
        split at hheader
        · cases hheader
        · exact hthere hheader

/-- Reading keeps to it. -/
theorem NamesColumns.read (access : Access) (q : Query) (db : Database) :
    (c.read access q db).1.NamesColumns := by
  have hinspect : ∀ {α : Type} {d : Connection} (f : Database → α), d.NamesColumns →
      (d.inspect access f db).1.NamesColumns := by
    intro α d f hd
    unfold inspect
    cases access.fault? false with
    | some fault => exact hd
    | none => exact fun q' p hp => hd q' p (mem_informed hp)
  unfold Connection.read
  split_ifs
  · exact h
  · cases hheader : c.header access q db with
    | error fault => exact hinspect id h
    | ok names =>
      apply hinspect q.run
      intro q' p hp
      rcases mem_remember hp with heq | hold
      · rw [Query.ofQuery_eq, Prod.mk.injEq, Template.query.injEq] at heq
        obtain ⟨rfl, rfl⟩ := heq
        have hnames := h.header hheader
        exact hnames
      · exact h q' p hold

/-- Statements keep to it. -/
theorem NamesColumns.exec (access : Access) {template : Template} (ht : template.isQuery = false)
    (s : Statement) (db : Database) : (c.exec access template s db).2.1.NamesColumns := by
  have hcompiled : ((c.informed db).compiled template s db).NamesColumns := fun q p hp =>
    h q p (mem_informed (mem_compiled ht hp))
  unfold Connection.exec
  cases c.obstacle? access template s with
  | some fault => exact fun q p hp => h q p (mem_stopped ht hp)
  | none =>
    dsimp only
    cases s.exec access.lock db with
    | error e => exact hcompiled
    | ok r => exact hcompiled

end Names

end Connection

namespace Operation

/-- Operations keep to it. -/
theorem namesColumns_run {s : Store} (h : s.connection.NamesColumns) (op : Operation) :
    (op.run s).connection.NamesColumns := by
  cases hst : op.statement? with
  | some st =>
    rw [run_of_statement hst]
    exact h.exec s.access (isQuery_ofStatement st) st s.database
  | none =>
    obtain ⟨α, q, f, hrun⟩ := exists_readAs_of_none hst
    rw [hrun]
    exact h.read s.access q s.database

/-- A connection that names cells after their columns does so all along a run of operations. -/
theorem namesColumns_runs {s : Store} (h : s.connection.NamesColumns) (ops : List Operation) :
    (runs run ops s).connection.NamesColumns := by
  induction ops generalizing s with
  | nil => exact h
  | cons op rest ih => exact ih (namesColumns_run h op)

end Operation

/-! ## Listings by time -/

/-- The decision is dated by an instant of the years 0 to 9999. -/
def Decision.IsDated (d : Decision) (t : Timestamp) : Prop := t.HasShortYear ∧ d.createdAt = t.iso

/-- Where instants date two decisions, the first one was made no later than the second, to the
millisecond. -/
def Decision.IsNoLater (d e : Decision) : Prop :=
  ∀ t u, d.IsDated t → e.IsDated u → t.truncated ≤ u.truncated

/-- What is dated by a text that comes first was made no later. -/
theorem Decision.isNoLater_of_le {d e : Decision} (h : d.createdAt ≤ e.createdAt) :
    d.IsNoLater e := by
  rintro t u ⟨ht, hd⟩ ⟨hu, he⟩
  rw [hd, he] at h
  exact (Timestamp.iso_le_iff ht hu).1 h

/-- The time of a decision is read from the second cell, if the cells are named after the
columns. -/
theorem Decision.createdAt_of_ofRecord {names : List String}
    (hnames : names.map Text.lower = Store.decisionsColumns.map Text.lower) {row : Row}
    (htextual : ∀ v ∈ row.cells, v.isTextual = true) {d : Decision}
    (h : Decision.ofRecord (names.zip ((List.range 5).map row.cell)) = .ok d) :
    d.createdAt = row.text 1 := by
  obtain ⟨_, -, h⟩ := bind_eq_ok_iff.1 h
  obtain ⟨createdAt, hcreatedAt, h⟩ := bind_eq_ok_iff.1 h
  obtain ⟨_, -, h⟩ := bind_eq_ok_iff.1 h
  obtain ⟨_, -, h⟩ := bind_eq_ok_iff.1 h
  obtain ⟨_, -, h⟩ := bind_eq_ok_iff.1 h
  cases h
  have hother : ∀ {name column : String}, Text.lower name = Text.lower column →
      Text.lower column ≠ Text.lower "created_at" → (name == "created_at") = false := by
    intro name column hname hne
    rw [beq_eq_false_iff_ne]
    rintro rfl
    exact hne hname.symm
  -- the names are those of the five columns, up to the case of letters
  obtain ⟨n₀, _, rfl, h₀, hnames⟩ := List.map_eq_cons_iff.1 hnames
  obtain ⟨n₁, _, rfl, -, hnames⟩ := List.map_eq_cons_iff.1 hnames
  obtain ⟨n₂, _, rfl, h₂, hnames⟩ := List.map_eq_cons_iff.1 hnames
  obtain ⟨n₃, _, rfl, h₃, hnames⟩ := List.map_eq_cons_iff.1 hnames
  obtain ⟨n₄, _, rfl, h₄, hnames⟩ := List.map_eq_cons_iff.1 hnames
  obtain rfl := List.map_eq_nil_iff.1 hnames
  have hzip : [n₀, n₁, n₂, n₃, n₄].zip ((List.range 5).map row.cell) =
      [(n₀, row.cell 0), (n₁, row.cell 1), (n₂, row.cell 2), (n₃, row.cell 3),
        (n₄, row.cell 4)] := rfl
  have hcell : Record.cell ([n₀, n₁, n₂, n₃, n₄].zip ((List.range 5).map row.cell)) "created_at" =
      if n₁ == "created_at" then .ok (row.cell 1) else .error (.unreadable "created_at") := by
    unfold Record.cell
    rw [hzip]
    simp only [List.find?_cons, List.find?_nil, hother h₀ (by decide +kernel),
      hother h₂ (by decide +kernel), hother h₃ (by decide +kernel), hother h₄ (by decide +kernel)]
    cases n₁ == "created_at" <;> rfl
  cases hfound : n₁ == "created_at" with
  | true =>
    rw [hfound, if_pos rfl] at hcell
    rw [Record.text_eq hcell (Row.isTextual_cell htextual 1)] at hcreatedAt
    exact (Except.ok.inj hcreatedAt).symm
  | false =>
    rw [hfound, if_neg Bool.false_ne_true] at hcell
    unfold Record.text at hcreatedAt
    rw [hcell] at hcreatedAt
    cases hcreatedAt

/-- Texts are ordered as their ranks; null reads as the smallest one. -/
theorem Row.text_le_of_rank {a b : Row} {i : Nat} (ha : (a.cell i).isTextual = true)
    (hb : (b.cell i).isTextual = true) (h : (a.cell i).rank ≤ (b.cell i).rank) :
    a.text i ≤ b.text i := by
  have hempty : ∀ s : String, "" ≤ s := by
    intro s
    rw [← not_lt, String.lt_iff_toList_lt]
    exact List.not_lt_nil _
  unfold Row.text
  cases hcell : a.cell i with
  | null => exact hempty _
  | text s =>
    rw [hcell] at h
    cases hcell' : b.cell i with
    | null =>
      rw [hcell'] at h
      simp [Value.rank] at h
    | text s' =>
      rw [hcell'] at h
      simpa [Value.text?] using h
    | int _ | real _ =>
      rw [hcell'] at hb
      cases hb
  | int _ | real _ =>
    rw [hcell] at ha
    cases ha

namespace Store

/-- What is listed of healthy tables comes in the order of the texts. -/
theorem createdAt_le_of_listed {s : Store} (hhealthy : s.database.IsHealthy)
    (hsound : s.database.IsSound) (hnames : s.connection.NamesColumns) {status : Status}
    {limit : Int}
    {l : List Decision} (h : (s.decisionsWithStatus status limit).2 = .ok l) :
    (l.map Decision.createdAt).Pairwise (· ≤ ·) := by
  obtain ⟨t, ht, hl, hk⟩ := hhealthy.isServed hsound .decisions (by decide)
  let q := Query.decisionsWithStatus status limit
  have hread : (s.decisionsWithStatus status limit).2 =
      (s.read q).2.bind fun records => records.mapM Decision.ofRecord := rfl
  rw [hread] at h
  obtain ⟨records, hrecords, h⟩ := bind_eq_ok_iff.1 h
  obtain ⟨u, names, hu, hheader, rfl⟩ := exists_of_read hrecords
  have hut : u = t := Option.some.inj (hu.symm.trans ht)
  subst hut
  have hcolumns := hnames.header hheader
  have hcells : ∀ row, u.cells q.columns row = (List.range 5).map row.cell := fun row =>
    (hl.cells _ row).trans (decisions_shows.cells row)
  have hmap : l.map Decision.createdAt = (q.rows u).map fun row => row.text 1 := by
    rw [List.map_map, List.mapM_map] at h
    refine map_eq_of_mapM_eq_ok (fun row hrow d hd => ?_) h
    have hrow' := (Query.mem_rows hrow).1
    refine Decision.createdAt_of_ofRecord hcolumns (hk.textual row hrow') ?_
    rwa [← hcells]
  have hplaces : u.places ["created_at", "decision_id"] = [1, 0] :=
    (hl.places _).trans (by decide +kernel)
  have horder : q.order = ["created_at", "decision_id"].map fun name => (name, .ascending) := rfl
  have hsorted := Query.sorted_selected hk.textual horder
  rw [hplaces] at hsorted
  rw [hmap, List.pairwise_map, Query.rows_eq_take rfl]
  refine (hsorted.sublist (List.take_sublist _ _)).imp_of_mem fun {a b} ha hb hranks => ?_
  have hrow := fun {row} (hrow : row ∈ (q.selected u).take (listingLimit limit)) =>
    Row.isTextual_cell (hk.textual row (Query.mem_selected_iff.1 (List.mem_of_mem_take hrow)).1) 1
  apply Row.text_le_of_rank (hrow ha) (hrow hb)
  by_cases heq : (a.cell 1).rank = (b.cell 1).rank
  · exact heq.le
  · simp only [Row.ranks, List.map_cons, Direction.orders_cons, if_neg heq] at hranks
    exact hranks

end Store

/-! ## The order of time -/

/-- The canonical texts of two instants are in the order of the instants, by the bytes. -/
structure Timestamp.TextsInOrder (t u : Timestamp) : Prop where
  le : t ≤ u → Text.utf8 t.iso ≤ Text.utf8 u.iso
  lt : Text.utf8 t.iso < Text.utf8 u.iso → t.compare u = .lt
  /-- The texts are the same when the instants are, up to the millisecond. -/
  eq : t.iso = u.iso ↔ t.truncated = u.truncated

/-- The decisions with a status are listed in the order of time. -/
structure Store.ListsByTime (s : Store) (status : Status) (limit : Int) : Prop where
  ordered : ∀ l, (s.decisionsWithStatus status limit).2 = .ok l → l.Pairwise Decision.IsNoLater
  /-- Where the connection knows the columns by the names that they have, the oldest ones are
  listed, as many as the limit allows. -/
  listed : s.IsLegible → ∃ l, (s.decisionsWithStatus status limit).2 = .ok l ∧
    IsTop Decision.Precedes (max 1 (min limit 500)).toNat
      (s.database.decisions.filter fun d => d.status = status) l

/-- **Text order is time order.** This holds of all instants of the years 0 to 9999, read from
whatever text, and of the decisions that healthy tables hold. -/
theorem texts_in_order_of_time {t u : Timestamp} (ht : t.HasShortYear)
    (hu : u.HasShortYear) {s : Store}
    (hhealthy : s.database.IsHealthy) (hsound : s.database.IsSound)
    (hnames : s.connection.NamesColumns) (status : Status) (limit : Int) :
    t.TextsInOrder u ∧ s.ListsByTime status limit := by
  constructor
  · constructor
    · intro hle
      rw [← List.not_lt, Text.utf8_lt_utf8_iff, Timestamp.iso_lt_iff hu ht]
      intro hlt
      rw [Timestamp.le_iff_key_le] at hle
      exact absurd (Timestamp.key_lt_of_truncated hlt) hle.not_gt
    · intro hlt
      rw [Text.utf8_lt_utf8_iff, Timestamp.iso_lt_iff ht hu] at hlt
      exact Timestamp.compare_eq_lt_iff.2 (Timestamp.key_lt_of_truncated hlt)
    · exact Timestamp.iso_eq_iff ht hu
  · constructor
    · intro l hlist
      have hsorted := Store.createdAt_le_of_listed hhealthy hsound hnames hlist
      rw [List.pairwise_map] at hsorted
      exact hsorted.imp Decision.isNoLater_of_le
    · intro hlegible
      exact hlegible.decisionsWithStatus_top status limit

/-- A leap second with more digits than are written and the next second, which two decisions are
dated by that were made in the other order. -/
theorem texts_in_order_of_time_leap :
    let s := Store.filledBy
      [.insert Store.decisionsTable [("decision_id", .text "a"),
          ("created_at", .text "2017-01-01T00:00:00.000Z"), ("kind", .text ""),
          ("payload_json", .text "{}"), ("status", .text "pending")] .refuse,
        .insert Store.decisionsTable [("decision_id", .text "b"),
          ("created_at", .text "2016-12-31T23:59:60.987Z"), ("kind", .text ""),
          ("payload_json", .text "{}"), ("status", .text "pending")] .refuse]
    ∃ t u, Timestamp.parse "2016-12-31T18:59:60.98765-05:00" = .ok t ∧
      Timestamp.parse "2017-01-01T00:00:00Z" = .ok u ∧ t.compare u = .lt ∧ t.TextsInOrder u ∧
      s.IsLegible ∧ s.ListsByTime .pending 2 := by
  intro s
  obtain ⟨t, u, hread, hread', ht, hu, hlt⟩ : ∃ t u,
      Timestamp.parse "2016-12-31T18:59:60.98765-05:00" = .ok t ∧
      Timestamp.parse "2017-01-01T00:00:00Z" = .ok u ∧ t.HasShortYear ∧ u.HasShortYear ∧
      t.compare u = .lt := by
    refine ⟨
      { date := ⟨2016, 12, 31, by decide, by decide, by decide, by decide, by decide, by decide⟩
        second := 86399
        nano := 1987650000
        second_lt := by decide
        nano_lt := by decide
        leap_ends_minute := by decide },
      { date := ⟨2017, 1, 1, by decide, by decide, by decide, by decide, by decide, by decide⟩
        second := 0
        nano := 0
        second_lt := by decide
        nano_lt := by decide
        leap_ends_minute := by decide }, ?_⟩
    decide +kernel
  obtain ⟨hhealthy, hsound, hfilled⟩ :
      s.database.IsHealthy ∧ s.database.IsSound ∧ s.database.IsFilled := by decide +kernel
  have hlegible : s.IsLegible :=
    Store.IsInService.isLegible ⟨rfl, Store.isAttuned_opened _, hhealthy, hsound⟩ hfilled
  have hnames : s.connection.NamesColumns := Connection.namesColumns_new
  obtain ⟨horder, hlists⟩ := texts_in_order_of_time ht hu hhealthy hsound hnames .pending 2
  exact ⟨t, u, hread, hread', hlt, horder, hlegible, hlists⟩

end DispatchStore
