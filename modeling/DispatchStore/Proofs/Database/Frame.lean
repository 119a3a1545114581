import DispatchStore.Database.Statement
import DispatchStore.Proofs.Database.Tables
import DispatchStore.Proofs.Except

/-!
# What a statement leaves alone

A statement reaches only the tables whose names it writes down. `Avoids name` says that a name, in
any letter case, is not among them, and then the statement neither sees the tables of that name nor
changes them:

* **It does not see them** (`exec_recast`): with other tables of the name in their place it does the
  same, as long as those have no index, whose own name could be taken.
* **It does not change them** (`tablesNamed_exec`).

Both pass on to scripts (`script_recast`, `tablesNamed_script`). What a statement looks up before it
begins depends on names and columns alone (`check_congr`), not on rows.
-/

namespace DispatchStore

/-! ## Layouts -/

namespace Table

/-- Two tables have one name and the same columns. Their rows may differ. -/
structure SameLayout (t t' : Table) : Prop where
  name : t'.name = t.name
  columns : t'.columns = t.columns

namespace SameLayout

variable {t t' : Table}

/-- With the same columns a name stands for the same place. -/
theorem columnIndex? (h : t.SameLayout t') (name : String) :
    t'.columnIndex? name = t.columnIndex? name := by
  unfold Table.columnIndex?
  rw [h.columns]

/-- With the same columns the same one numbers the rows. -/
theorem rowNumberIndex? (h : t.SameLayout t') : t'.rowNumberIndex? = t.rowNumberIndex? := by
  unfold Table.rowNumberIndex? Table.keyIndices
  rw [h.columns]

/-- With the same name and columns a table has the same index, or none as well. -/
theorem indexName? (h : t.SameLayout t') : t'.indexName? = t.indexName? := by
  unfold Table.indexName? Table.indexed Table.keyIndices
  rw [h.rowNumberIndex?, h.columns, h.name]

/-- With the same columns a table knows the same names. -/
theorem hasName (h : t.SameLayout t') (name : String) : t'.hasName name = t.hasName name := by
  unfold Table.hasName Table.isRowNumber
  rw [h.columnIndex?, h.rowNumberIndex?]

/-- With the same columns a table has the same key. -/
theorem hasKey (h : t.SameLayout t') (target : String) : t'.hasKey target = t.hasKey target := by
  unfold Table.hasKey Table.keyNames
  rw [h.columns]

/-- With the same columns a list of names is resolved or refused alike. -/
theorem resolveAll (h : t.SameLayout t') (columns : List String) :
    t'.resolveAll columns = t.resolveAll columns := by
  unfold Table.resolveAll Table.resolve
  simp only [h.columnIndex?]

/-- A table with the same name is found alike. -/
theorem isNamed (h : t.SameLayout t') (name : String) : t'.isNamed name = t.isNamed name := by
  unfold Table.isNamed
  rw [h.name]

end SameLayout

/-- An insertion changes neither the name nor the columns of a table. -/
theorem insert_sameLayout {t t' : Table} {values : List (String × Value)} {c : OnConflict}
    {n : Nat} (h : t.insert values c = .ok (t', n)) : t.SameLayout t' := by
  unfold insert at h
  obtain ⟨row, -, h⟩ := bind_eq_ok_iff.1 h
  split at h
  · cases h
  · cases h
  · split at h <;> cases h <;> exact ⟨rfl, rfl⟩

/-- An update changes neither the name nor the columns of a table. -/
theorem update_sameLayout {t t' : Table} {column value : String}
    {criteria : List (String × Value)} {n : Nat}
    (h : t.update column value criteria = .ok (t', n)) : t.SameLayout t' := by
  unfold update at h
  obtain ⟨i, -, h⟩ := bind_eq_ok_iff.1 h
  split at h
  · cases h
  · obtain ⟨rows, -, h⟩ := bind_eq_ok_iff.1 h
    cases h
    exact ⟨rfl, rfl⟩

end Table

namespace Database

variable {db : Database} {name : String} {t t' : Table} (ht : db.find? name = some t)
  (hl : t.SameLayout t')
include ht hl

/-- A table with the layout of the one that was found goes by the name too. -/
theorem isNamed_replaced : t'.isNamed name = true := by
  rw [hl.isNamed]
  exact isNamed_of_find? ht

/-- A table that is put in the place of one with the same layout is found there. -/
theorem find?_replaced : (db.modify name fun _ => t').find? name = some t' := by
  rw [find?_modify fun _ _ => isNamed_replaced ht hl, ht]
  rfl

end Database

/-! ## Statements -/

/-- One name finds tables of one layout in two databases, or nothing in both. -/
inductive Database.FindsAlike (db db' : Database) (name : String) : Prop where
  | neither (h : db.find? name = none) (h' : db'.find? name = none)
  | both {t t' : Table} (h : db.find? name = some t) (h' : db'.find? name = some t')
      (same : t.SameLayout t')

/-- Neither the tables of a name nor those that `g` puts in their place have an index. -/
structure Database.Recasts (db : Database) (name : String) (g : Table → List Table) : Prop where
  keepsName : Database.KeepsName name g
  unindexed : ∀ t ∈ db.tablesNamed name, t.indexName? = none ∧ ∀ u ∈ g t, u.indexName? = none

/-- A name that finds the same table finds alike. -/
theorem Database.FindsAlike.of_eq {db db' : Database} {name : String}
    (h : db'.find? name = db.find? name) : db.FindsAlike db' name := by
  cases hf : db.find? name with
  | none => exact .neither hf (h.trans hf)
  | some t => exact .both hf (h.trans hf) ⟨rfl, rfl⟩

namespace Statement

/-- The names of tables that a statement writes down. -/
def tableNames : Statement → List String
  | create table _ _ _ => [table]
  | insert table _ _ => [table]
  | update table _ _ _ => [table]
  | delete table _ _ => [table]
  | drop table => [table]
  | rename table newName => [table, newName]
  | addColumn table _ => [table]
  | incomplete table => [table]

/-- The statement writes the name down in no letter case. -/
def Avoids (name : String) (s : Statement) : Prop :=
  ∀ n ∈ s.tableNames, Text.sameLetters n name = false

instance (name : String) (s : Statement) : Decidable (s.Avoids name) :=
  inferInstanceAs (Decidable (∀ n ∈ s.tableNames, Text.sameLetters n name = false))

/-- What a statement looks up depends on names and columns alone. -/
theorem check_congr {db db' : Database} {s : Statement}
    (hfind : ∀ n ∈ s.tableNames, db.FindsAlike db' n)
    (htaken : ∀ a b, s = rename a b → db'.isTakenFor a b = db.isTakenFor a b) :
    s.check db' = s.check db := by
  cases s with
  | create name columns ifNotExists spelling =>
    rcases hfind name (by simp [tableNames]) with ⟨h, h'⟩ | ⟨h, h', hl⟩ <;> simp [check, h, h']
  | insert name values onConflict =>
    rcases hfind name (by simp [tableNames]) with ⟨h, h'⟩ | ⟨h, h', hl⟩ <;>
      simp only [check, target, Database.engineTable?, Database.table, h, h', ok_bind,
        Option.isSome_some, if_true]
    simp only [hl.hasName, hl.hasKey]
  | update name column value criteria =>
    rcases hfind name (by simp [tableNames]) with ⟨h, h'⟩ | ⟨h, h', hl⟩ <;>
      simp only [check, target, Database.engineTable?, Database.table, h, h', ok_bind,
        Option.isSome_some, if_true]
    rw [hl.resolveAll]
  | delete name criteria spelling =>
    rcases hfind name (by simp [tableNames]) with ⟨h, h'⟩ | ⟨h, h', hl⟩ <;>
      simp only [check, target, Database.engineTable?, Database.table, h, h', ok_bind,
        Option.isSome_some, if_true]
    rw [hl.resolveAll]
  | drop name =>
    rcases hfind name (by simp [tableNames]) with ⟨h, h'⟩ | ⟨h, h', hl⟩ <;>
      simp [check, target, Database.engineTable?, Database.table, h, h', bind, Except.bind]
  | rename name newName =>
    rcases hfind name (by simp [tableNames]) with ⟨h, h'⟩ | ⟨h, h', hl⟩ <;>
      simp [check, target, Database.engineTable?, Database.table, h, h',
        htaken name newName rfl]
  | addColumn name column =>
    rcases hfind name (by simp [tableNames]) with ⟨h, h'⟩ | ⟨h, h', hl⟩ <;>
      simp only [check, target, Database.engineTable?, Database.table, h, h', ok_bind,
        Option.isSome_some, if_true]
    rw [hl.columnIndex?]
  | incomplete name =>
    rcases hfind name (by simp [tableNames]) with ⟨h, h'⟩ | ⟨h, h', hl⟩ <;> simp [check, h, h']

/-! ## Statements do not see the tables of a name that they avoid -/

section Recast

variable {db : Database} {name : String} {g : Table → List Table} {s : Statement}

/-- Recasting the tables of one name does not show under another name. -/
theorem table_recast (hg : db.Recasts name g) {n : String} (hn : Text.sameLetters n name = false) :
    (db.recast name g).table n = db.table n := by
  unfold Database.table
  rw [Database.find?_recast db hg.keepsName hn]

/-- Whether a new name is taken does not depend on tables that are found by neither name. -/
theorem isTakenFor_recast (hg : db.Recasts name g) {a b : String}
    (ha : Text.sameLetters a name = false) (hb : Text.sameLetters b name = false) :
    (db.recast name g).isTakenFor a b = db.isTakenFor a b := by
  have hany : ∀ p : String → Bool, (db.recast name g).tables.any (fun t => t.indexName?.any p) =
      db.tables.any fun t => t.indexName?.any p := by
    intro p
    unfold Database.recast
    rw [List.any_flatMap, Bool.eq_iff_iff, List.any_eq_true, List.any_eq_true]
    refine exists_congr fun t => and_congr_right fun ht => ?_
    cases h : t.isNamed name with
    | true =>
      obtain ⟨hu, hu'⟩ := hg.unindexed t (Database.mem_tablesNamed.2 ⟨ht, h⟩)
      have hnone : ∀ u ∈ g t, u.indexName?.any p = false := fun u hmem => by simp [hu' u hmem]
      rw [if_pos rfl, hu, List.any_eq_true]
      constructor
      · rintro ⟨u, hmem, hany⟩
        rw [hnone u hmem] at hany
        cases hany
      · intro hany
        cases hany
    | false => simp
  unfold Database.isTakenFor Database.engineTable?
  rw [Database.find?_recast db hg.keepsName ha, Database.find?_recast db hg.keepsName hb]
  dsimp only
  rw [hany]

/-- A statement that avoids a name objects to the same, whatever became of the tables of that
name. -/
theorem check_recast (hg : db.Recasts name g) (hs : s.Avoids name) :
    s.check (db.recast name g) = s.check db := by
  refine check_congr (fun n hn => .of_eq (Database.find?_recast db hg.keepsName (hs n hn))) ?_
  rintro a b rfl
  exact isTakenFor_recast hg (hs a (by simp [tableNames])) (hs b (by simp [tableNames]))

/-- A table that is looked up without an error is the one that is found. -/
theorem find?_of_table {n : String} {t : Table} (h : db.table n = .ok t) : db.find? n = some t := by
  unfold Database.table at h
  cases hfind : db.find? n with
  | none =>
    rw [hfind] at h
    cases h
  | some u =>
    rw [hfind] at h
    exact congrArg some (Except.ok.inj h)

/-- A table that was looked up by another name is not one of the name, whatever its rows become. -/
theorem isNamed_of_table {n : String} {t t' : Table} (hn : Text.sameLetters n name = false)
    (ht : db.table n = .ok t) (hl : t.SameLayout t') : t'.isNamed name = false := by
  have hnamed := Database.isNamed_of_find? (find?_of_table ht)
  rw [hl.isNamed]
  exact Table.isNamed_eq_false hnamed (by rwa [Text.sameLetters_comm])

/-- What a statement makes of the tables that it reaches does not depend on those of another
name. -/
theorem apply_recast (hg : db.Recasts name g) (hs : s.Avoids name) :
    s.apply (db.recast name g) = (s.apply db).map fun r => (r.1.recast name g, r.2) := by
  have hk := hg.keepsName
  -- a statement that looks a table up puts one of the same layout in its place
  have hset : ∀ {n : String} {t t' : Table}, Text.sameLetters n name = false →
      db.table n = .ok t → t.SameLayout t' →
      (db.recast name g).modify n (fun _ => t') = (db.modify n fun _ => t').recast name g :=
    fun hn ht hl => Database.modify_recast db hk hn fun _ _ => isNamed_of_table hn ht hl
  have havoid : ∀ n ∈ s.tableNames, Text.sameLetters n name = false := hs
  cases s with
  | create n columns ifNotExists spelling =>
    have hn := havoid n (by simp [tableNames])
    have happ := Database.append_recast (g := g) db (t := ⟨n, columns.map Column.kept, []⟩) hn
    simp only [apply, Except.map, happ]
  | insert n values onConflict =>
    have hn := havoid n (by simp [tableNames])
    simp only [apply, table_recast hg hn]
    cases ht : db.table n with
    | error e => rfl
    | ok t =>
      simp only [ok_bind]
      cases hi : t.insert values onConflict with
      | error e => rfl
      | ok r =>
        simp only [ok_bind, hset hn ht (Table.insert_sameLayout hi), pure, Except.pure, Except.map]
  | update n column value criteria =>
    have hn := havoid n (by simp [tableNames])
    simp only [apply, table_recast hg hn]
    cases ht : db.table n with
    | error e => rfl
    | ok t =>
      simp only [ok_bind]
      cases hi : t.update column value criteria with
      | error e => rfl
      | ok r =>
        simp only [ok_bind, hset hn ht (Table.update_sameLayout hi), pure, Except.pure, Except.map]
  | delete n criteria spelling =>
    have hn := havoid n (by simp [tableNames])
    simp only [apply, table_recast hg hn]
    cases ht : db.table n with
    | error e => rfl
    | ok t =>
      have hl : t.SameLayout (t.delete criteria).1 := ⟨rfl, rfl⟩
      simp only [ok_bind, hset hn ht hl, pure, Except.pure, Except.map]
  | drop n =>
    have hn := havoid n (by simp [tableNames])
    simp only [apply, Except.map, Database.remove_recast db hk hn]
  | rename n newName =>
    have hn := havoid n (by simp [tableNames])
    have hnew := havoid newName (by simp [tableNames])
    have hm := Database.modify_recast (f := fun t => { t with name := newName }) db hk hn
      fun _ _ => hnew
    simp only [apply, Except.map, hm]
  | addColumn n column =>
    have hn := havoid n (by simp [tableNames])
    simp only [apply, table_recast hg hn]
    cases ht : db.table n with
    | error e => rfl
    | ok t =>
      simp only [ok_bind]
      split
      · rfl
      · have hm := Database.modify_recast
          (f := fun t => { t with
            columns := t.columns ++ [column.kept], rows := t.rows.map (·.extended) }) db hk hn
          fun u hu => Table.isNamed_eq_false hu (by rwa [Text.sameLetters_comm])
        simp only [hm, pure, Except.pure, Except.map]
  | incomplete n => rfl

/-- A statement does the same with other tables in the place of those of a name that it avoids. -/
theorem exec_recast (lock : WriteLock) (hg : db.Recasts name g) (hs : s.Avoids name) :
    s.exec lock (db.recast name g) = (s.exec lock db).map fun r => (r.1.recast name g, r.2) := by
  unfold exec
  rw [check_recast hg hs]
  cases s.check db with
  | error e => rfl
  | ok writes =>
    cases writes with
    | false => rfl
    | true =>
      simp only [bind, Except.bind, if_true, apply_recast hg hs]
      cases lock.atBegin with
      | error e => rfl
      | ok _ =>
        cases s.apply db with
        | error e => rfl
        | ok r =>
          simp only [Except.map]
          split
          · cases lock.atChange <;> cases lock.atEnd <;> rfl
          · cases lock.atEnd <;> rfl

end Recast

/-! ## Statements do not change the tables of a name that they avoid -/

section Kept

variable {db db' : Database} {name : String} {s : Statement} {n : Nat} {lock : WriteLock}

/-- What a statement that gets through does: nothing where the look-up finds nothing to do, and
otherwise what it says. -/
theorem exec_eq_ok (h : s.exec lock db = .ok (db', n)) :
    (s.check db = .ok false ∧ db' = db ∧ n = 0) ∨
      (s.check db = .ok true ∧ s.apply db = .ok (db', n)) := by
  unfold exec at h
  obtain ⟨writes, hcheck, h⟩ := bind_eq_ok_iff.1 h
  cases writes with
  | false =>
    cases h
    exact .inl ⟨hcheck, rfl, rfl⟩
  | true =>
    obtain ⟨-, -, h⟩ := bind_eq_ok_iff.1 h
    obtain ⟨⟨d, k⟩, happly, h⟩ := bind_eq_ok_iff.1 h
    refine .inr ⟨hcheck, happly.trans ?_⟩
    -- the lock can only make the statement fail at its end
    dsimp only at h
    split at h
    · obtain ⟨-, -, h⟩ := bind_eq_ok_iff.1 h
      obtain ⟨-, -, h⟩ := bind_eq_ok_iff.1 h
      exact h
    · obtain ⟨-, -, h⟩ := bind_eq_ok_iff.1 h
      exact h

/-- A statement that avoids a name leaves the tables of that name as they are. -/
theorem tablesNamed_apply (hs : s.Avoids name) (h : s.apply db = .ok (db', n)) :
    db'.tablesNamed name = db.tablesNamed name := by
  have hset : ∀ {m : String} {t t' : Table}, Text.sameLetters m name = false →
      db.table m = .ok t → t.SameLayout t' →
      (db.modify m fun _ => t').tablesNamed name = db.tablesNamed name :=
    fun hm ht hl => Database.tablesNamed_modify db hm fun _ _ => isNamed_of_table hm ht hl
  have havoid : ∀ m ∈ s.tableNames, Text.sameLetters m name = false := hs
  cases s with
  | create m columns ifNotExists spelling =>
    cases h
    exact Database.tablesNamed_append db (havoid m (by simp [tableNames]))
  | insert m values onConflict =>
    obtain ⟨t, ht, h⟩ := bind_eq_ok_iff.1 h
    obtain ⟨r, hinsert, h⟩ := bind_eq_ok_iff.1 h
    cases h
    exact hset (havoid m (by simp [tableNames])) ht (Table.insert_sameLayout hinsert)
  | update m column value criteria =>
    obtain ⟨t, ht, h⟩ := bind_eq_ok_iff.1 h
    obtain ⟨r, hupdate, h⟩ := bind_eq_ok_iff.1 h
    cases h
    exact hset (havoid m (by simp [tableNames])) ht (Table.update_sameLayout hupdate)
  | delete m criteria spelling =>
    obtain ⟨t, ht, h⟩ := bind_eq_ok_iff.1 h
    cases h
    exact hset (havoid m (by simp [tableNames])) ht ⟨rfl, rfl⟩
  | drop m =>
    cases h
    exact Database.tablesNamed_remove db (havoid m (by simp [tableNames]))
  | rename m newName =>
    have hnew := havoid newName (by simp [tableNames])
    cases h
    exact Database.tablesNamed_modify db (havoid m (by simp [tableNames])) fun _ _ => hnew
  | addColumn m column =>
    have hm := havoid m (by simp [tableNames])
    obtain ⟨t, -, h⟩ := bind_eq_ok_iff.1 h
    split at h
    · cases h
    · cases h
      exact Database.tablesNamed_modify db hm fun u hu =>
        Table.isNamed_eq_false hu (by rwa [Text.sameLetters_comm])
  | incomplete m => cases h

/-- A statement leaves the tables of a name that it avoids as they are. -/
theorem tablesNamed_exec (hs : s.Avoids name) (h : s.exec lock db = .ok (db', n)) :
    db'.tablesNamed name = db.tablesNamed name := by
  rcases exec_eq_ok h with ⟨-, rfl, -⟩ | ⟨-, ha⟩
  · rfl
  · exact tablesNamed_apply hs ha

end Kept

end Statement

/-! ## Scripts -/

namespace Database

variable {db : Database} {name : String} {g : Table → List Table} {lock : WriteLock}
  {statements : List Statement}

/-- A database that has the same tables of a name can have them replaced in the same way. -/
theorem Recasts.of_tablesNamed_eq {db' : Database} (hg : db.Recasts name g)
    (h : db'.tablesNamed name = db.tablesNamed name) : db'.Recasts name g :=
  ⟨hg.keepsName, by rw [h]; exact hg.unindexed⟩

/-- A script leaves the tables of a name that it avoids as they are. -/
theorem tablesNamed_script (hs : ∀ s ∈ statements, s.Avoids name) :
    (db.script lock statements).1.tablesNamed name = db.tablesNamed name := by
  induction statements generalizing db with
  | nil => rfl
  | cons s rest ih =>
    unfold script
    cases he : s.exec lock db with
    | error e => rfl
    | ok r =>
      have hr : ∀ s ∈ rest, s.Avoids name := fun s hmem => hs s (List.mem_cons_of_mem _ hmem)
      exact (ih hr).trans (Statement.tablesNamed_exec (hs s List.mem_cons_self) he)

/-- A script does the same with other tables in the place of those of a name that it avoids. -/
theorem script_recast (hg : db.Recasts name g) (hs : ∀ s ∈ statements, s.Avoids name) :
    (db.recast name g).script lock statements =
      ((db.script lock statements).1.recast name g, (db.script lock statements).2) := by
  induction statements generalizing db with
  | nil => rfl
  | cons s rest ih =>
    have hs' := hs s List.mem_cons_self
    have hr : ∀ s ∈ rest, s.Avoids name := fun s hmem => hs s (List.mem_cons_of_mem _ hmem)
    unfold script
    rw [Statement.exec_recast lock hg hs']
    cases he : s.exec lock db with
    | error e => rfl
    | ok r => exact ih (hg.of_tablesNamed_eq (Statement.tablesNamed_exec hs' he)) hr

end Database

end DispatchStore
