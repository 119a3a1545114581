import DispatchStore.Proofs.Database.Frame
import Mathlib.Data.List.Nodup

/-!
# Proper databases

The engine keeps no two tables of one name, no table without columns and no two columns of one name
in a table. A database that is proper in this sense stays so whatever statement is carried out
(`Statement.exec_isProper`), and so whatever script is run (`Database.script_isProper`).
-/

namespace DispatchStore

/-! ## Names -/

/-- No two names have the same letters. -/
def AreApart (names : List String) : Prop := (names.map Text.lower).Nodup

namespace AreApart

/-- Things with names of the same letters are the same. -/
theorem eq_of_sameLetters {α : Type} {name : α → String} {l : List α} (h : AreApart (l.map name))
    {a b : α} (ha : a ∈ l) (hb : b ∈ l) (hsame : Text.sameLetters (name a) (name b) = true) :
    a = b := by
  unfold AreApart at h
  rw [List.map_map] at h
  exact List.inj_on_of_nodup_map h ha hb (Text.sameLetters_iff.1 hsame)

/-- A name that none of the others equals can be added to names that are apart. -/
theorem append_singleton {names : List String} {name : String} (h : AreApart names)
    (hnew : ∀ n ∈ names, Text.sameLetters n name = false) : AreApart (names ++ [name]) := by
  unfold AreApart
  rw [List.map_append, List.map_cons, List.map_nil, List.nodup_append]
  refine ⟨h, List.nodup_singleton _, fun a ha b hb heq => ?_⟩
  obtain ⟨n, hn, rfl⟩ := List.mem_map.1 ha
  rw [List.mem_singleton.1 hb] at heq
  have hsame := hnew n hn
  rw [Text.sameLetters_iff.2 heq] at hsame
  cases hsame

/-- One name may be replaced by a new one. -/
theorem replace {names : List String} {name newName : String} (h : AreApart names)
    (hnew : ∀ n ∈ names, Text.sameLetters n newName = false) :
    AreApart (names.map fun n => if Text.sameLetters n name then newName else n) := by
  have hlower : (names.map fun n => if Text.sameLetters n name then newName else n).map Text.lower =
      (names.map Text.lower).map fun l =>
        if l = Text.lower name then Text.lower newName else l := by
    rw [List.map_map, List.map_map]
    refine List.map_congr_left fun n _ => ?_
    cases hsame : Text.sameLetters n name with
    | true => simp [hsame, Text.sameLetters_iff.1 hsame]
    | false =>
      have hne : Text.lower n ≠ Text.lower name := by
        intro heq
        rw [Text.sameLetters_iff.2 heq] at hsame
        cases hsame
      simp [hsame, hne]
  have hnotMem : Text.lower newName ∉ names.map Text.lower := by
    intro hmem
    obtain ⟨n, hn, heq⟩ := List.mem_map.1 hmem
    have hsame := hnew n hn
    rw [Text.sameLetters_iff.2 heq] at hsame
    cases hsame
  unfold AreApart
  rw [hlower]
  refine List.Nodup.map_on (fun a ha b hb heq => ?_) h
  split_ifs at heq with hl hr hr
  · exact hl.trans hr.symm
  · exact absurd (heq ▸ hb) hnotMem
  · exact absurd (heq ▸ ha) hnotMem
  · exact heq

end AreApart

/-! ## Tables -/

/-- The table has columns, and no two of one name. -/
structure Table.IsProper (t : Table) : Prop where
  nonempty : t.columns ≠ []
  apart : AreApart (t.columns.map Column.name)

/-- A table laid out like a proper one is proper. -/
theorem Table.SameLayout.isProper {t t' : Table} (hl : t.SameLayout t') (h : t.IsProper) :
    t'.IsProper := by
  obtain ⟨hnonempty, hapart⟩ := h
  rw [← hl.columns] at hnonempty hapart
  exact ⟨hnonempty, hapart⟩

/-- A column of a new name may be added. -/
theorem Table.IsProper.addColumn {t t' : Table} (h : t.IsProper) {column : Column}
    (hcolumns : t'.columns = t.columns ++ [column]) (hnew : t.columnIndex? column.name = none) :
    t'.IsProper := by
  refine ⟨by simp [hcolumns], ?_⟩
  rw [hcolumns, List.map_append]
  refine h.apart.append_singleton fun n hn => ?_
  obtain ⟨c, hc, rfl⟩ := List.mem_map.1 hn
  exact List.findIdx?_eq_none_iff.1 hnew c hc

/-- Columns without a repeated name. -/
theorem Statement.areApart_of_repeatedColumn? {columns : List Column}
    (h : repeatedColumn? columns = none) : AreApart (columns.map Column.name) := by
  unfold AreApart
  rw [List.map_map, List.Nodup, List.pairwise_map, List.pairwise_iff_getElem]
  intro i j hi hj hij heq
  have hfind := List.find?_eq_none.1 (Option.map_eq_none_iff.1 h) (columns[j], j)
    (List.mk_mem_zipIdx_iff_getElem?.2 (List.getElem?_eq_getElem hj))
  refine hfind (List.any_eq_true.2 ⟨columns[i], ?_, Text.sameLetters_iff.2 heq⟩)
  exact List.mem_take_iff_getElem.2 ⟨i, by omega, rfl⟩

/-! ## Databases -/

namespace Database

/-- No two tables have one name, and every table is proper. -/
structure IsProper (db : Database) : Prop where
  apart : AreApart (db.tables.map Table.name)
  tables : ∀ t ∈ db.tables, t.IsProper

variable {db : Database} {name : String} {t : Table}

/-- The table that a name finds is the only one of the name. -/
theorem IsProper.eq_of_isNamed (h : db.IsProper) (ht : db.find? name = some t) {u : Table}
    (hu : u ∈ db.tables) (hname : u.isNamed name = true) : u = t := by
  refine h.apart.eq_of_sameLetters hu (List.mem_of_find?_eq_some ht) ?_
  have htname : t.isNamed name = true := isNamed_of_find? ht
  rw [Text.sameLetters_iff] at *
  exact (Text.sameLetters_iff.1 hname).trans (Text.sameLetters_iff.1 htname).symm

/-- The tables of a proper database are proper. -/
theorem IsProper.table (h : db.IsProper) (ht : db.find? name = some t) : t.IsProper :=
  h.tables t (List.mem_of_find?_eq_some ht)

/-- A table that is put in its own place leaves the database as it is. -/
theorem IsProper.modify_self (h : db.IsProper) (ht : db.find? name = some t) :
    (db.modify name fun _ => t) = db := by
  unfold modify
  refine congrArg Database.mk ((List.map_congr_left fun u hu => ?_).trans (List.map_id _))
  split_ifs with hname
  · exact (h.eq_of_isNamed ht hu hname).symm
  · rfl

/-- A table may be changed without a change of its name. -/
theorem IsProper.modify (h : db.IsProper) {f : Table → Table}
    (hname : ∀ u ∈ db.tables, u.isNamed name = true → (f u).name = u.name)
    (hproper : ∀ u ∈ db.tables, u.isNamed name = true → (f u).IsProper) :
    (db.modify name f).IsProper := by
  refine ⟨?_, fun u hu => ?_⟩
  · have hnames : (db.modify name f).tables.map Table.name = db.tables.map Table.name := by
      unfold Database.modify
      rw [List.map_map]
      refine List.map_congr_left fun u hu => ?_
      dsimp only [Function.comp_apply]
      split_ifs with hnamed
      · exact hname u hu hnamed
      · rfl
    rw [hnames]
    exact h.apart
  · obtain ⟨v, hv, rfl⟩ := List.mem_map.1 hu
    split_ifs with hnamed
    · exact hproper v hv hnamed
    · exact h.tables v hv

/-- A table may be replaced by one with the same layout. -/
theorem IsProper.replace (h : db.IsProper) (ht : db.find? name = some t) {t' : Table}
    (hl : t.SameLayout t') : (db.modify name fun _ => t').IsProper := by
  refine h.modify (fun u hu hnamed => ?_) fun u _ _ => hl.isProper (h.table ht)
  rw [h.eq_of_isNamed ht hu hnamed]
  exact hl.name

/-- A proper database stays so when a table is taken out. -/
theorem IsProper.remove (h : db.IsProper) (name : String) : (db.remove name).IsProper := by
  have hsublist : ((db.remove name).tables.map Table.name).Sublist (db.tables.map Table.name) :=
    List.filter_sublist.map _
  exact ⟨List.Nodup.sublist (hsublist.map _) h.apart,
    fun t ht => h.tables t (List.mem_of_mem_filter ht)⟩

/-- A name finds no table exactly if none goes by it. -/
theorem find?_eq_none_iff {name : String} :
    db.find? name = none ↔ ∀ t ∈ db.tables, Text.sameLetters t.name name = false := by
  unfold find?
  rw [List.find?_eq_none]
  simp only [Table.isNamed, Bool.not_eq_true]

/-- No table has the name if the lookup finds none. -/
theorem forall_names (hnone : db.find? name = none) :
    ∀ n ∈ db.tables.map Table.name, Text.sameLetters n name = false := by
  intro n hn
  obtain ⟨t, ht, rfl⟩ := List.mem_map.1 hn
  exact find?_eq_none_iff.1 hnone t ht

/-- A table of a new name may be added. -/
theorem IsProper.append (h : db.IsProper) {t : Table} (hnone : db.find? t.name = none)
    (ht : t.IsProper) : (⟨db.tables ++ [t]⟩ : Database).IsProper := by
  refine ⟨?_, fun u hu => ?_⟩
  · rw [List.map_append]
    exact h.apart.append_singleton (forall_names hnone)
  · rcases List.mem_append.1 hu with hu | hu
    · exact h.tables u hu
    · rwa [List.mem_singleton.1 hu]

/-- A table may get a new name. -/
theorem IsProper.rename (h : db.IsProper) (name : String) {newName : String}
    (hnone : db.find? newName = none) :
    (db.modify name fun t => { t with name := newName }).IsProper := by
  refine ⟨?_, fun t ht => ?_⟩
  · have hnames : (db.modify name fun t => { t with name := newName }).tables.map Table.name =
        (db.tables.map Table.name).map fun n => if Text.sameLetters n name then newName else n := by
      unfold Database.modify
      rw [List.map_map, List.map_map]
      refine List.map_congr_left fun t _ => ?_
      dsimp only [Function.comp_apply, Table.isNamed]
      exact apply_ite Table.name _ _ _
    rw [hnames]
    exact h.apart.replace (forall_names hnone)
  · obtain ⟨u, hu, rfl⟩ := List.mem_map.1 ht
    have hproper := h.tables u hu
    split_ifs
    · exact ⟨hproper.nonempty, hproper.apart⟩
    · exact hproper

end Database

/-! ## Statements -/

namespace Statement

variable {db : Database}

/-- A table that a statement can write to was created and is found by its name. -/
theorem find?_of_target {name participle : String} {t : Table}
    (h : target db name participle = .ok t) :
    db.engineTable? name = none ∧ db.find? name = some t := by
  unfold target at h
  cases hengine : db.engineTable? name with
  | some u =>
    rw [hengine] at h
    cases h
  | none =>
    rw [hengine] at h
    exact ⟨rfl, find?_of_table h⟩

/-- What was looked up before a row is inserted unless there is one with its key. -/
theorem check_keep {name target : String} {values : List (String × Value)} {writes : Bool}
    (h : (insert name values (.keep target)).check db = .ok writes) :
    writes = true ∧ ∃ t, db.find? name = some t ∧ (∀ v ∈ values, t.hasName v.1 = true) ∧
      t.hasKey target = true := by
  rw [check] at h
  obtain ⟨t, htarget, h⟩ := bind_eq_ok_iff.1 h
  cases hvalues : values.find? fun v => !t.hasName v.1 with
  | some v =>
    rw [hvalues] at h
    cases h
  | none =>
    rw [hvalues] at h
    dsimp only at h
    split_ifs at h with hkey
    cases h
    exact ⟨rfl, t, (find?_of_target htarget).2, by simpa using hvalues, hkey⟩

/-- What was looked up before a table is created. -/
theorem check_create {name : String} {columns : List Column} {ifNotExists : Bool}
    {spelling : Spelling} (h : (create name columns ifNotExists spelling).check db = .ok true) :
    db.find? name = none ∧ columns ≠ [] ∧ repeatedColumn? columns = none := by
  rw [check] at h
  split_ifs at h with hreserved hfound hif hempty
  · cases h
  · cases hrepeated : repeatedColumn? columns with
    | some c =>
      rw [hrepeated] at h
      cases h
    | none => exact ⟨by simpa using hfound, by simpa using hempty, rfl⟩

/-- What was looked up before a table is renamed. -/
theorem check_rename {name newName : String} (h : (rename name newName).check db = .ok true) :
    db.find? newName = none := by
  cases hengine : db.engineTable? name with
  | some u =>
    -- a table of the engine is never renamed
    have htarget : target db name "altered" = .error (.mayNotBe u.name "altered") := by
      unfold target
      rw [hengine]
    cases htaken : db.isTakenFor name newName <;>
      simp [check, hengine, htaken, htarget, throw, throwThe,
        MonadExceptOf.throw]
        at h
  | none =>
    by_contra hnone
    have htaken : db.isTakenFor name newName = true := by
      unfold Database.isTakenFor
      rw [hengine]
      simp [Option.isSome_iff_ne_none.2 hnone]
    cases htable : db.table name <;>
      simp [check, hengine, htaken, htable, throw, throwThe, MonadExceptOf.throw]
        at h

/-- What was looked up before a column is added. -/
theorem check_addColumn {name : String} {column : Column}
    (h : (addColumn name column).check db = .ok true) :
    ∃ t, db.find? name = some t ∧ t.columnIndex? column.name = none := by
  cases htarget : target db name "altered" with
  | error e =>
    cases hview : (db.engineTable? name).any EngineTable.isView <;>
      simp [check, hview, htarget, throw, throwThe, MonadExceptOf.throw] at h
  | ok t =>
    obtain ⟨hengine, hfind⟩ := find?_of_target htarget
    refine ⟨t, hfind, ?_⟩
    by_contra hnew
    simp [check, hengine, htarget, throw, throwThe, MonadExceptOf.throw,
      Option.isSome_iff_ne_none.2 hnew] at h

/-- **A proper database stays proper.** -/
theorem exec_isProper (h : db.IsProper) {lock : WriteLock} {s : Statement}
    {db' : Database} {n : Nat}
    (hexec : s.exec lock db = .ok (db', n)) : db'.IsProper := by
  rcases exec_eq_ok hexec with ⟨-, rfl, -⟩ | ⟨hcheck, happly⟩
  · exact h
  cases s with
  | create name columns ifNotExists spelling =>
    obtain ⟨hnone, hnonempty, hrepeated⟩ := check_create hcheck
    cases happly
    refine h.append hnone ⟨by simpa using hnonempty, ?_⟩
    have hnames : (columns.map Column.kept).map Column.name = columns.map Column.name := by
      rw [List.map_map]
      rfl
    dsimp only
    rw [hnames]
    exact areApart_of_repeatedColumn? hrepeated
  | insert name values onConflict =>
    obtain ⟨t, ht, happly⟩ := bind_eq_ok_iff.1 happly
    obtain ⟨r, hinsert, happly⟩ := bind_eq_ok_iff.1 happly
    cases happly
    exact h.replace (find?_of_table ht) (Table.insert_sameLayout hinsert)
  | update name column value criteria =>
    obtain ⟨t, ht, happly⟩ := bind_eq_ok_iff.1 happly
    obtain ⟨r, hupdate, happly⟩ := bind_eq_ok_iff.1 happly
    cases happly
    exact h.replace (find?_of_table ht) (Table.update_sameLayout hupdate)
  | delete name criteria spelling =>
    obtain ⟨t, ht, happly⟩ := bind_eq_ok_iff.1 happly
    cases happly
    exact h.replace (find?_of_table ht) ⟨rfl, rfl⟩
  | drop name =>
    cases happly
    exact h.remove name
  | rename name newName =>
    have hnone := check_rename hcheck
    cases happly
    exact h.rename name hnone
  | addColumn name column =>
    obtain ⟨t, ht, hnew⟩ := check_addColumn hcheck
    obtain ⟨u, -, happly⟩ := bind_eq_ok_iff.1 happly
    split at happly
    · cases happly
    · cases happly
      refine h.modify (fun _ _ _ => rfl) fun v hv hnamed => ?_
      rw [h.eq_of_isNamed ht hv hnamed]
      exact (h.table ht).addColumn rfl hnew
  | incomplete name => cases happly

end Statement

/-- Scripts keep a database proper, also those that fail in the middle. -/
theorem Database.script_isProper {lock : WriteLock} {db : Database} (h : db.IsProper)
    (statements : List Statement) : (db.script lock statements).1.IsProper := by
  induction statements generalizing db with
  | nil => exact h
  | cons s rest ih =>
    rw [script]
    cases hexec : s.exec lock db with
    | error e => exact h
    | ok r => exact ih (Statement.exec_isProper h hexec)

end DispatchStore
