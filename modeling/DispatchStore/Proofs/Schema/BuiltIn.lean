import DispatchStore.Proofs.Schema.Creation

/-!
# The built-in migrations in any order

The built-in migrations create one table each and nothing else (`Registry.builtIn_creations`), and
their tables have different names. So it does not matter in which order they come or how often:

* **Applied one by one**, each gets through; the tables that were there stay as they are, and the
  new ones are empty and fit their shapes (`Store.Settles`).
* **In passes over parts of the registry**, with or without a comparison of the shapes, the pending
  ones are recorded once each, and a database ends as after one pass over all of them
  (`Store.upgradeAll_reaches`).
-/

namespace DispatchStore

open Ledger (tableName IsKept IsPresent onRecord)

namespace Registry

/-- The built-in migrations only create their tables. -/
theorem builtIn_creations : ∀ m ∈ builtIn, m.IsCreation := by decide

/-- No two built-in tables go by one name. -/
theorem builtIn_distinct : AreDistinct builtIn.shapes := by decide

/-- The built-in migrations leave the ledger alone. -/
theorem builtIn_avoids_ledger : builtIn.Avoids tableName := by decide

/-- The version tells the built-in migrations apart. -/
theorem builtIn_version : ∀ m ∈ builtIn, ∀ u ∈ builtIn, m.version = u.version → m = u := by decide

/-- No built-in table is in front of the view by which tables are described. -/
theorem builtIn_describable :
    ∀ m ∈ builtIn, Text.sameLetters "pragma_table_info" m.shape.table = false := by decide

/-- No built-in table goes by the name of the ledger. -/
theorem builtIn_beside_ledger :
    ∀ m ∈ builtIn, Text.sameLetters m.shape.table tableName = false := by decide

/-- What holds for the shape of each migration holds for their shapes. -/
theorem forall_shapes {r : Registry} {p : TableShape → Prop} (h : ∀ m ∈ r, p m.shape) :
    ∀ a ∈ r.shapes, p a := by
  intro a ha
  obtain ⟨m, hm, rfl⟩ := List.mem_map.1 ha
  exact h m hm

section BuiltIn

variable {r : Registry} (h : ∀ m ∈ r, m ∈ builtIn)
include h

/-- No two tables of a registry of built-in migrations go by one name. -/
theorem distinct_of_builtIn : AreDistinct r.shapes :=
  builtIn_distinct.subset (forall_shapes fun m hm => List.mem_map_of_mem (h m hm))

/-- The migrations of a registry of built-in ones only create their tables. -/
theorem creations_of_builtIn : ∀ m ∈ r, m.IsCreation := fun m hm => builtIn_creations m (h m hm)

/-- The same built-in migrations create the same tables. -/
theorem havingAll_perm_of_builtIn {r' : Registry} (hsame : ∀ m, m ∈ r ↔ m ∈ r') (db : Database) :
    (db.havingAll r.shapes).tables.Perm (db.havingAll r'.shapes).tables := by
  refine Database.havingAll_perm (distinct_of_builtIn h) (fun a => ?_) db
  unfold shapes
  simp only [List.mem_map, hsame]

end BuiltIn

end Registry

/-! ## One by one -/

namespace Store

/-- Runs the statements of migrations, one after the other and without recording them. -/
def applyEach (s : Store) : List Migration → Store × List (Except Fault Unit)
  | [] => (s, [])
  | m :: rest =>
    let (s', result) := s.script m.statements
    let (s'', results) := s'.applyEach rest
    (s'', result :: results)

/-- Applied one by one, creations all succeed and leave the tables of their shapes. -/
theorem applyEach_creations {calls : List Migration} (h : ∀ m ∈ calls, m.IsCreation) {s : Store}
    (hopen : s.access = .opened .free) :
    (s.applyEach calls).1.database = s.database.havingAll (Registry.shapes calls) ∧
      (s.applyEach calls).1.access = .opened .free ∧
      ∀ result ∈ (s.applyEach calls).2, result = .ok () := by
  induction calls generalizing s with
  | nil => exact ⟨rfl, hopen, by simp [applyEach]⟩
  | cons m rest ih =>
    obtain ⟨hdatabase, haccess, hresult⟩ := script_creation hopen (h m List.mem_cons_self)
    obtain ⟨hdatabase', haccess', hresults⟩ :=
      ih (fun u hu => h u (List.mem_cons_of_mem _ hu)) haccess
    rw [hdatabase] at hdatabase'
    refine ⟨hdatabase', haccess', fun result hmem => ?_⟩
    rcases List.mem_cons.1 hmem with rfl | hmem
    · exact hresult
    · exact hresults result hmem

/-- A table passes the comparison with a shape that fits it, if tables can be described. -/
theorem verify_of_fits {s : Store} (hopen : s.access = .opened .free)
    (hdescribable : s.database.IsDescribable) {shape : TableShape} (h : shape.Fits s.database) :
    (s.verify shape).2 = .ok () := by
  have hrefusal : shape.refusal? s.database = none := by
    rw [TableShape.refusal?_of_isDescribable hdescribable, Option.map_eq_none_iff]
    exact h
  unfold verify inspect Connection.inspect
  rw [hopen]
  simp only [Access.fault?, hrefusal]

/-- What it comes to when built-in migrations are applied one by one. -/
structure Settles (s : Store) (calls : List Migration) : Prop where
  succeeds : ∀ result ∈ (s.applyEach calls).2, result = .ok ()
  /-- The tables that were there stay as they are. The new ones are empty, as their shapes declare
  them, and pass the comparison if tables can be described. -/
  tables : ∃ new, (s.applyEach calls).1.database.tables = s.database.tables ++ new ∧
    ∀ t ∈ new, ∃ m ∈ calls, t = m.shape.asTable ∧ s.database.find? m.shape.table = none ∧
      (s.applyEach calls).1.database.find? m.shape.table = some t ∧
      (s.database.IsDescribable → ((s.applyEach calls).1.verify m.shape).2 = .ok ())

/-- Over an open store built-in migrations settle, in whatever order and however often they come. -/
theorem settles_of_builtIn {s : Store} (hopen : s.access = .opened .free) {calls : List Migration}
    (h : ∀ m ∈ calls, m ∈ Registry.builtIn) : Settles s calls := by
  obtain ⟨hdatabase, haccess, hresults⟩ :=
    applyEach_creations (Registry.creations_of_builtIn h) hopen
  have hdistinct := Registry.distinct_of_builtIn h
  obtain ⟨new, htables, -, hmem⟩ := Database.exists_tables_havingAll hdistinct s.database
  refine ⟨hresults, new, by rw [hdatabase, htables], fun t ht => ?_⟩
  obtain ⟨shape, hshape, rfl, hnone⟩ := (hmem t).1 ht
  obtain ⟨m, hm, rfl⟩ := List.mem_map.1 hshape
  have hfind := Database.find?_havingAll hdistinct hshape hnone
  rw [← hdatabase] at hfind
  refine ⟨m, hm, rfl, hnone, hfind, fun hdescribable => verify_of_fits haccess ?_ ?_⟩
  · -- none of the new tables is in front of the view
    unfold Database.IsDescribable
    rw [hdatabase, Database.find?_havingAll_of_ne (Registry.forall_shapes fun u hu =>
      Registry.builtIn_describable u (h u hu))]
    exact hdescribable
  · exact TableShape.fits_of_find? (Registry.builtIn_creations m (h m hm)).2.nonempty hfind

end Store

/-! ## In passes -/

/-- A pass over migrations, with the times of its recordings. -/
structure Pass where
  clock : Clock
  verify : Bool
  units : Registry

namespace Store

open Registry (versions pending commits passed)

/-- The store after passes, one after the other. -/
def upgradeAll (s : Store) (passes : List Pass) : Store :=
  passes.foldl (fun s p => (s.upgrade p.clock p.verify p.units).1) s

/-- From `db` to `db'` the migrations `units` were applied and recorded. -/
structure Reaches (db : Database) (units : Registry) (db' : Database) : Prop where
  recorded : onRecord db' = onRecord db ++ versions units
  others : db'.remove tableName = (db.remove tableName).havingAll units.shapes

/-- A pass over built-in migrations applies and records what is pending of them, and reports
that. -/
theorem passed_reaches {r : Registry} (hr : r.fault? = none) (h : ∀ m ∈ r, m ∈ Registry.builtIn)
    {db : Database} (hk : IsKept db) (clock : Clock) :
    IsPresent (passed clock r db).1 ∧
      Reaches db (pending (onRecord db) r) (passed clock r db).1 ∧
      (passed clock r db).2 = .ok (versions (pending (onRecord db) r)) := by
  have ha : r.Avoids tableName := fun m hm => Registry.builtIn_avoids_ledger m (h m hm)
  obtain ⟨d, hran, hleaves, hverdict⟩ := Registry.passed_leaves clock hr ha hk
  have hcommits : ∀ m ∈ commits clock r db, m ∈ Registry.builtIn :=
    fun m hm => h m (Registry.mem_commits clock hm).1
  -- no migration can fail, so that nothing stops the pass
  have hfinished : pending (onRecord db) r = commits clock r db ∧
      (passed clock r db).2 = .ok (versions (commits clock r db)) := by
    generalize (passed clock r db).2 = result at hverdict
    cases hverdict with
    | finished hall => exact ⟨hall, rfl⟩
    | @stopped m rest e hstop he =>
      have hm : m ∈ pending (onRecord db) r := by
        rw [hstop]
        exact List.mem_append_right _ List.mem_cons_self
      rw [(Registry.builtIn_creations m (h m (Registry.mem_pending.1 hm).1)).script] at he
      cases he
  obtain ⟨hall, hresult⟩ := hfinished
  rw [Registry.scripts_creations (Registry.creations_of_builtIn hcommits)] at hran
  cases hran
  rw [hall]
  refine ⟨hleaves.present, ⟨hleaves.onRecord, ?_⟩, hresult⟩
  rw [hleaves.others, Database.remove_havingAll (Registry.forall_shapes fun m hm =>
    Registry.builtIn_beside_ledger m (hcommits m hm))]

/-- A store over which a pass went has a ledger, and in it and beside it what was pending. -/
theorem upgrade_reaches {s : Store} (hopen : s.access = .opened .free) (hk : IsKept s.database)
    {r : Registry} (hr : r.fault? = none) (h : ∀ m ∈ r, m ∈ Registry.builtIn) (clock : Clock)
    (verify : Bool) :
    (s.upgrade clock verify r).1.access = .opened .free ∧
      IsPresent (s.upgrade clock verify r).1.database ∧
      Reaches s.database (pending (onRecord s.database) r)
        (s.upgrade clock verify r).1.database := by
  have ha : r.Avoids tableName := fun m hm => Registry.builtIn_avoids_ledger m (h m hm)
  obtain ⟨haccess, hdatabase, -⟩ := upgrade_parts hopen hr ha hk clock verify
  obtain ⟨hpresent, hreaches, -⟩ := passed_reaches hr h hk clock
  rw [hdatabase]
  exact ⟨haccess, hpresent, hreaches⟩

/-- What was reached in two stages was reached in one, with the migrations of both. -/
theorem Reaches.append {db db' db'' : Database} {units more : Registry}
    (h : Reaches db units db') (h' : Reaches db' more db'') : Reaches db (units ++ more) db'' := by
  refine ⟨?_, ?_⟩
  · rw [h'.recorded, h.recorded, List.append_assoc, Registry.versions_append]
  · rw [h'.others, h.others, ← Database.havingAll_append]
    unfold Registry.shapes
    rw [List.map_append]

/-- Each pass is over a registry of built-in migrations. -/
def AreBuiltIn (passes : List Pass) : Prop :=
  ∀ p ∈ passes, p.units.fault? = none ∧ ∀ m ∈ p.units, m ∈ Registry.builtIn

/-- Passes apply and record each built-in migration once that one of them is over and that is not on
record. -/
theorem upgradeAll_reaches {passes : List Pass} (hpasses : AreBuiltIn passes) {s : Store}
    (hopen : s.access = .opened .free) (hk : IsKept s.database) :
    (IsPresent s.database ∨ passes ≠ [] → IsPresent (s.upgradeAll passes).database) ∧
      ∃ units, (versions units).Nodup ∧ Reaches s.database units (s.upgradeAll passes).database ∧
        ∀ m, m ∈ units ↔ (∃ p ∈ passes, m ∈ p.units) ∧ m.version ∉ onRecord s.database := by
  induction passes generalizing s with
  | nil =>
    refine ⟨fun h => h.resolve_right fun hne => hne rfl, [], List.nodup_nil, ⟨?_, rfl⟩, by simp⟩
    exact (List.append_nil _).symm
  | cons p rest ih =>
    obtain ⟨hp, hbuiltIn⟩ := hpasses p List.mem_cons_self
    obtain ⟨haccess, hpresent, hreaches⟩ :=
      upgrade_reaches hopen hk hp hbuiltIn p.clock p.verify
    obtain ⟨hpresent', units, hnodup, hreaches', hmem⟩ :=
      ih (fun q hq => hpasses q (List.mem_cons_of_mem _ hq)) haccess hpresent.kept
    refine ⟨fun _ => hpresent' (.inl hpresent), pending (onRecord s.database) p.units ++ units, ?_,
      hreaches.append hreaches', fun m => ?_⟩
    · -- what the first pass recorded is not pending for the others
      rw [Registry.versions_append, List.nodup_append]
      refine ⟨(Registry.pending_pairwise hp _).imp fun hab => Int.ne_of_lt hab, hnodup, ?_⟩
      intro v hv w hw hvw
      obtain ⟨u, hu, rfl⟩ := List.mem_map.1 hw
      refine ((hmem u).1 hu).2 ?_
      rw [hreaches.recorded, ← hvw]
      exact List.mem_append_right _ hv
    · rw [List.mem_append, Registry.mem_pending, hmem, hreaches.recorded, List.mem_append, not_or]
      constructor
      · rintro (⟨hm, hv⟩ | ⟨⟨q, hq, hm⟩, hv, -⟩)
        · exact ⟨⟨p, List.mem_cons_self, hm⟩, hv⟩
        · exact ⟨⟨q, List.mem_cons_of_mem _ hq, hm⟩, hv⟩
      · rintro ⟨⟨q, hq, hm⟩, hv⟩
        by_cases hfirst : m ∈ p.units
        · exact .inl ⟨hfirst, hv⟩
        · have hq' : q ∈ rest := (List.mem_cons.1 hq).resolve_left fun heq => hfirst (heq ▸ hm)
          refine .inr ⟨⟨q, hq', hm⟩, hv, fun hrecorded => hfirst ?_⟩
          obtain ⟨u, hu, hversion⟩ := List.mem_map.1 hrecorded
          have hu' := (Registry.mem_pending.1 hu).1
          have hsame :=
            Registry.builtIn_version u (hbuiltIn u hu') m ((hpasses q hq).2 m hm) hversion
          rwa [← hsame]

/-- Two databases that have a ledger with the same versions on record, and the same other tables. -/
structure EndAlike (db db' : Database) : Prop where
  ledgers : IsPresent db ∧ IsPresent db'
  recorded : (onRecord db).Perm (onRecord db')
  others : (db.remove tableName).tables.Perm (db'.remove tableName).tables

/-- The same built-in migrations, in two orders, lead to databases that are alike. -/
theorem Reaches.endAlike {db db' db'' : Database} {units units' : Registry}
    (h : Reaches db units db') (h' : Reaches db units' db'') (hp : IsPresent db')
    (hp' : IsPresent db'') (hnodup : (versions units).Nodup) (hnodup' : (versions units').Nodup)
    (hbuiltIn : ∀ m ∈ units, m ∈ Registry.builtIn) (hsame : ∀ m, m ∈ units ↔ m ∈ units') :
    EndAlike db' db'' := by
  have hunits : units.Perm units' :=
    (List.perm_ext_iff_of_nodup (List.Nodup.of_map _ hnodup) (List.Nodup.of_map _ hnodup')).2 hsame
  refine ⟨⟨hp, hp'⟩, ?_, ?_⟩
  · rw [h.recorded, h'.recorded]
    exact (hunits.map _).append_left _
  · rw [h.others, h'.others]
    exact Registry.havingAll_perm_of_builtIn hbuiltIn hsame _

/-- Passes that together are over all built-in migrations end like one pass over them. -/
theorem upgradeAll_endAlike {s : Store} (hopen : s.access = .opened .free) (hk : IsKept s.database)
    {passes : List Pass} (hpasses : AreBuiltIn passes)
    (hall : ∀ m ∈ Registry.builtIn, ∃ p ∈ passes, m ∈ p.units) (clock : Clock) (verify : Bool) :
    EndAlike (s.upgradeAll passes).database
      (s.upgrade clock verify Registry.builtIn).1.database := by
  have hvalid : Registry.builtIn.fault? = none := by decide
  obtain ⟨-, hone, hreachesOne⟩ :=
    upgrade_reaches hopen hk hvalid (fun _ hm => hm) clock verify
  obtain ⟨hmany, units, hnodup, hreaches, hmem⟩ := upgradeAll_reaches hpasses hopen hk
  have hnonempty : passes ≠ [] := by
    rintro rfl
    obtain ⟨p, hp, -⟩ := hall .overrides (by decide)
    cases hp
  have hbuiltIn : ∀ m ∈ units, m ∈ Registry.builtIn := by
    intro m hm
    obtain ⟨⟨p, hp, hmp⟩, -⟩ := (hmem m).1 hm
    exact (hpasses p hp).2 m hmp
  refine hreaches.endAlike hreachesOne (hmany (.inr hnonempty)) hone hnodup
    ((Registry.pending_pairwise hvalid _).imp fun hab => Int.ne_of_lt hab) hbuiltIn fun m => ?_
  rw [Registry.mem_pending]
  exact ⟨fun hm => ⟨hbuiltIn m hm, ((hmem m).1 hm).2⟩,
    fun hm => (hmem m).2 ⟨hall m hm.1, hm.2⟩⟩

/-- **The built-in migrations in any order.** Applied one by one they all get through and change no
table that is there; the tables that they create are empty and, unless a table is in front of the
view by which tables are described, pass the comparison with their shapes. The same migrations in
another order or repeated lead to the same tables. With a ledger that is missing or laid out as one,
passes over parts of the registry that together make it up end like one pass over it. -/
theorem builtIn_any_order {s : Store} (hopen : s.access = .opened .free) :
    (∀ calls : List Migration, (∀ m ∈ calls, m ∈ Registry.builtIn) → Settles s calls ∧
      ∀ calls' : List Migration, (∀ m, m ∈ calls ↔ m ∈ calls') →
        (s.applyEach calls).1.database.tables.Perm (s.applyEach calls').1.database.tables) ∧
    (IsKept s.database → ∀ passes : List Pass, AreBuiltIn passes →
      (∀ m ∈ Registry.builtIn, ∃ p ∈ passes, m ∈ p.units) → ∀ (clock : Clock) (verify : Bool),
        EndAlike (s.upgradeAll passes).database
          (s.upgrade clock verify Registry.builtIn).1.database) := by
  refine ⟨fun calls h => ⟨settles_of_builtIn hopen h, fun calls' hsame => ?_⟩,
    fun hk passes hpasses hall clock verify =>
      upgradeAll_endAlike hopen hk hpasses hall clock verify⟩
  have h' : ∀ m ∈ calls', m ∈ Registry.builtIn := fun m hm => h m ((hsame m).2 hm)
  rw [(applyEach_creations (Registry.creations_of_builtIn h) hopen).1,
    (applyEach_creations (Registry.creations_of_builtIn h') hopen).1]
  exact Registry.havingAll_perm_of_builtIn h hsame s.database

/-- Behind the ledger with the gap two of the migrations come in another order, one of them twice;
then two passes make up the registry from behind. -/
theorem builtIn_any_order_gapped :
    Settles gapped [.decisions, .overrides, .decisions] ∧
      (gapped.applyEach [.decisions, .overrides, .decisions]).1.database.tables.Perm
        (gapped.applyEach [.overrides, .decisions]).1.database.tables ∧
      EndAlike
        (gapped.upgradeAll
          [⟨still, true, [.decisions]⟩, ⟨still, false, [.overrides, .events]⟩]).database
        (gapped.upgrade still true Registry.builtIn).1.database := by
  obtain ⟨heach, hpasses⟩ := builtIn_any_order (s := gapped) rfl
  obtain ⟨hsettles, hsame⟩ := heach [.decisions, .overrides, .decisions] (by decide)
  refine ⟨hsettles, hsame _ fun m => ?_, hpasses (by decide) _ ?_ (by decide) still true⟩
  · simp only [List.mem_cons, List.not_mem_nil, or_false]
    tauto
  · unfold AreBuiltIn
    decide

/-- With a table in front of the view the table of a shape is created, but cannot be compared. -/
theorem script_covered :
    covered.database.find? "runtime_overrides" = none ∧
      (covered.script Migration.overrides.statements).1.database.find? "runtime_overrides" =
        some Migration.overridesShape.asTable ∧
      ((covered.script Migration.overrides.statements).1.verify Migration.overridesShape).2 =
        .error (.database (.engine (.notAView "pragma_table_info"))) := by
  decide +kernel

end Store

end DispatchStore
