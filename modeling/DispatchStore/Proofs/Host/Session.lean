import DispatchStore.Host.Session
import DispatchStore.Proofs.Except
import DispatchStore.Proofs.Host.FileTree
import DispatchStore.Proofs.Host.Location

/-!
# Sessions over one database file

A session hosts a database at a path if the file there holds it in write-ahead mode and all handles
are on that file, none of them with a lock (`Session.Hosts`). Then every open handle can read and
write (`Session.storeOf_eq`), what is done with the store behind it goes into the file
(`Session.work_hosts`), and the session goes on hosting when handles come and go
(`Session.Hosts.put`).

A database can be created at a path if the path means itself, leads to a place in the tree, and
there is room (`Session.CanCreate`). The path can be opened if it leads there also when the file is
there (`Session.CanOpen`). Opening it for work gives a new handle, whether the file is missing
(`CanCreate.openPath_first`) or hosted already (`CanOpen.openPath_again`).
-/

namespace DispatchStore

/-! ## Room for a database -/

/-- A database can be created at a path: nothing lies there, but the directory does, the names are
not too long for the engine, and no directory lies where it puts its own files. -/
structure FileTree.HasRoom (t : FileTree) (p : Path) : Prop where
  free : t.find? p = none
  parent : t.isDirectory p.dropLast = true
  short : (Path.text p).utf8ByteSize ≤ Path.maxLength
  journalShort : (p.beside "-journal").isTooLong = false
  beside : ∀ ending ∈ ["-journal", "-wal", "-shm"], t.isTaken p ending = false

instance (t : FileTree) (p : Path) : Decidable (t.HasRoom p) :=
  decidable_of_iff (t.find? p = none ∧ t.isDirectory p.dropLast = true ∧
      (Path.text p).utf8ByteSize ≤ Path.maxLength ∧ (p.beside "-journal").isTooLong = false ∧
      ∀ ending ∈ ["-journal", "-wal", "-shm"], t.isTaken p ending = false)
    ⟨fun h => ⟨h.1, h.2.1, h.2.2.1, h.2.2.2.1, h.2.2.2.2⟩,
      fun h => ⟨h.free, h.parent, h.short, h.journalShort, h.beside⟩⟩

namespace FileTree.HasRoom

variable {base : FileTree} {p : Path} {e : Entry} (h : base.HasRoom p)
include h

/-- A place with room for a database is not the root. -/
theorem ne_nil : p ≠ [] := ne_nil_of_find?_eq_none h.free

/-- What is put at a place with room is found there. -/
theorem find?_put : (base.put p e).find? p = some e := find?_put_self h.ne_nil

/-- The directories that are in the way stay away. -/
theorem not_isTaken_put (e : Entry) :
    ∀ ending ∈ ["-journal", "-wal", "-shm"], (base.put p e).isTaken p ending = false := by
  intro ending hending
  have hne : ending ≠ "" := by
    rintro rfl
    revert hending
    decide
  rw [isTaken_put h.ne_nil hne]
  exact h.beside ending hending

/-- A missing file is created. -/
theorem openDatabase_missing :
    base.openDatabase p .create = .ok (base.put p (.file "")) := by
  unfold openDatabase
  simp [h.parent, Nat.not_lt.2 h.short, h.free]

/-- A file that is there stays as it is. -/
theorem openDatabase_there (he : e ≠ .directory) :
    (base.put p e).openDatabase p .create = .ok (base.put p e) := by
  have hparent : (base.put p e).isDirectory p.dropLast = true := by
    rw [isDirectory_iff, find?_put_of_ne (Path.dropLast_ne h.ne_nil)]
    exact isDirectory_iff.1 h.parent
  unfold openDatabase
  simp only [hparent, Nat.not_lt.2 h.short, h.find?_put]
  cases e with
  | directory => exact absurd rfl he
  | file _ => rfl
  | database _ _ _ => rfl

/-- A database is no foreign file. -/
theorem isForeign_database (db : Database) (j : Journal) (saved : Database) :
    (base.put p (.database db j saved)).isForeign p = false := by
  unfold isForeign
  rw [h.find?_put]

/-- An empty file is no foreign file. -/
theorem isForeign_empty : (base.put p (.file "")).isForeign p = false := by
  unfold isForeign
  rw [h.find?_put]
  rfl

/-- A database has been written. -/
theorem isWritten_database (db : Database) (j : Journal) (saved : Database) :
    (base.put p (.database db j saved)).isWritten p = true := by
  unfold isWritten
  rw [h.find?_put]

/-- A database keeps its changes in the way that its entry says. -/
theorem journal_database (db : Database) (j : Journal) (saved : Database) :
    (base.put p (.database db j saved)).journal p = j := by
  unfold journal
  rw [h.find?_put]

/-- The database at a place is the one that was put there. -/
theorem database_database (db : Database) (j : Journal) (saved : Database) :
    (base.put p (.database db j saved)).database p = db := by
  unfold database
  rw [h.find?_put]

/-- What a file itself holds is what its entry says. -/
theorem saved_database (db : Database) (j : Journal) (saved : Database) :
    (base.put p (.database db j saved)).saved p = saved := by
  unfold FileTree.saved
  rw [h.find?_put]

/-- What changes in write-ahead mode is not in the file itself yet. -/
theorem store_database (db db' saved : Database) :
    (base.put p (.database db .wal saved)).store p db' =
      base.put p (.database db' .wal saved) := by
  unfold store
  simp only [h.isWritten_database, h.journal_database, h.saved_database, Bool.true_or, if_true,
    put_put]

/-- After a checkpoint all of the database is in the file itself. -/
theorem checkpoint_database (db : Database) (j : Journal) (saved : Database) :
    (base.put p (.database db j saved)).checkpoint p = base.put p (.database db j db) := by
  unfold checkpoint
  rw [h.find?_put]
  exact put_put _ _ _ _

end FileTree.HasRoom

/-! ## Handles on the file -/

/-- The use of a file for work, by a handle that saw it keep changes in the given way. -/
def FileUse.forWork (p : Path) (journal : Journal) : FileUse := ⟨p, false, none, true, journal⟩

/-- The handle is on the file at a path for work and holds no lock. -/
structure Handle.IsOn (h : Handle) (p : Path) : Prop where
  source : h.source = .file (.forWork p .wal)
  unlocked : h.locking = false

/-- A handle that was opened for work and did nothing yet. -/
structure Handle.IsNew (h : Handle) (p : Path) (db : Database) : Prop extends h.IsOn p where
  opened : h.closed = false
  connection : h.connection = Connection.new.informed db

namespace Handle.IsOn

variable {h : Handle} {p : Path} (hon : h.IsOn p)
include hon

/-- An open handle for work sees the changes of its file written ahead. -/
theorem aheadOf?_eq : h.aheadOf? = if h.closed then none else some (.forWork p .wal) := by
  unfold aheadOf?
  rw [hon.source]
  cases h.closed <;> rfl

/-- A handle for work that holds no lock keeps no file locked. -/
theorem lockedPath?_eq : h.lockedPath? = none := by
  unfold lockedPath?
  rw [hon.source, hon.unlocked]
  rfl

/-- The file that a handle works on is none of those that it keeps beside it. -/
theorem keepsBeside_eq (hp : p ≠ []) : h.keepsBeside p = false := by
  have hne : ∀ ending ∈ ["-wal", "-shm"], p.beside ending ≠ p := by
    intro ending hending
    refine Path.beside_ne hp ?_
    rintro rfl
    revert hending
    decide
  unfold keepsBeside
  rw [hon.aheadOf?_eq]
  cases h.closed with
  | true => rfl
  | false =>
    rw [Bool.eq_false_iff]
    simp only [Bool.false_eq_true, if_false, Option.any_some, ne_eq, List.any_eq_true, beq_iff_eq,
      not_exists, not_and]
    exact hne

end Handle.IsOn

namespace Session

/-- Every handle is on the file at a path for work, and none holds a lock. -/
def AllOn (s : Session) (p : Path) : Prop := ∀ x ∈ s.handles, x.2.IsOn p

/-- What keeps a use for work from writing. -/
theorem lockOf_forWork (s : Session) (p : Path) (journal : Journal) :
    s.lockOf (.forWork p journal) =
      if s.isLocked p then .heldElsewhere
      else if s.tree.journal p = .wal then
        if s.tree.isTaken p "-shm" then .refused .readOnly else .free
      else if s.tree.isTaken p "-journal" || (p.beside "-journal").isTooLong then
        .unsaved .cannotOpen
      else if s.isHeld p then .unfinished .locked
      else .free := rfl

section Access

variable {s : Session} {base : FileTree} {p : Path} {e : Entry} (hroom : base.HasRoom p)
  (htree : s.tree = base.put p e) (hall : s.AllOn p)
include hroom htree hall

/-- Nothing keeps a handle from looking at the file. -/
theorem blockage?_eq (hforeign : (base.put p e).isForeign p = false) (journal : Journal) :
    s.blockage? (.forWork p journal) = none := by
  have hbeside : s.isBeside p = false := by
    unfold isBeside
    rw [List.any_eq_false]
    intro x hx
    rw [(hall x hx).keepsBeside_eq hroom.ne_nil]
    exact Bool.false_ne_true
  have hjournal := hroom.not_isTaken_put e "-journal" (by decide)
  have hwal := hroom.not_isTaken_put e "-wal" (by decide)
  unfold blockage? FileUse.forWork
  simp only [htree, hjournal, hwal, hforeign, hbeside, Bool.and_false, Bool.false_and, Bool.or_self,
    Bool.not_true, Bool.false_eq_true, if_false]

/-- Nothing keeps a handle from writing. -/
theorem lockOf_eq (journal : Journal) : s.lockOf (.forWork p journal) = .free := by
  have hnone : ∀ x ∈ s.handles, ¬ (x.2.lockedPath? == some p) = true := by
    intro x hx
    rw [(hall x hx).lockedPath?_eq]
    exact Bool.false_ne_true
  have hlocked : s.isLocked p = false := by
    unfold isLocked
    rw [List.any_eq_false]
    intro x hx
    rw [Bool.eq_false_iff.2 (hnone x hx)]
    exact Bool.false_ne_true
  have hheld : s.isHeld p = false := by
    unfold isHeld
    rw [List.any_eq_false]
    intro x hx
    rw [Bool.eq_false_iff.2 (hnone x hx)]
    exact Bool.false_ne_true
  have hjournal := hroom.not_isTaken_put e "-journal" (by decide)
  have hshm := hroom.not_isTaken_put e "-shm" (by decide)
  rw [lockOf_forWork, htree, hlocked, hheld, hjournal, hshm, hroom.journalShort]
  simp only [Bool.or_self, Bool.false_eq_true, if_false, ite_self]

end Access

/-- The file at a path holds a database in write-ahead mode, in a tree that is the given one beside
it, and all handles are on that file. -/
structure Hosts (s : Session) (base : FileTree) (p : Path) (db : Database) : Prop where
  tree : ∃ saved, s.tree = base.put p (.database db .wal saved)
  handles : s.AllOn p

section Hosts

variable {s : Session} {base : FileTree} {p : Path} {db : Database} (hroom : base.HasRoom p)
  (hs : s.Hosts base p db)
include hroom hs

/-- The store behind an open handle is that of the file, and nobody keeps it from writing. -/
theorem storeOf_eq {h : Handle} {journal : Journal}
    (hsource : h.source = .file (.forWork p journal))
    (hopen : h.closed = false) : s.storeOf h = ⟨db, .opened .free, h.connection⟩ := by
  obtain ⟨saved, htree⟩ := hs.tree
  have hblockage := blockage?_eq hroom htree hs.handles
    (hroom.isForeign_database db .wal saved) journal
  have hlock := lockOf_eq hroom htree hs.handles journal
  have hdatabase : s.databaseOf h = db := by
    unfold databaseOf
    rw [hsource]
    have hfile := hroom.database_database db .wal saved
    rw [← htree] at hfile
    exact hfile
  have haccess : s.accessOf h = .opened .free := by
    have hgrown : s.isOutgrown h = false := by
      unfold isOutgrown
      rw [hsource]
      rfl
    unfold accessOf
    simp only [hopen, hsource, hblockage, hgrown, hlock, Bool.false_eq_true, if_false]
  unfold storeOf
  rw [hdatabase, haccess]

/-- A handle that looks at the file sees the write-ahead mode. -/
theorem looked_eq {h : Handle} {journal : Journal} (hsource : h.source = .file (.forWork p journal))
    (hopen : h.closed = false) : s.looked h = { h with source := .file (.forWork p .wal) } := by
  obtain ⟨saved, htree⟩ := hs.tree
  have hstore := storeOf_eq hroom hs hsource hopen
  have haccess : s.accessOf h = .opened .free := (Store.mk.inj hstore).2.1
  have hjournal : s.journalOf (.forWork p journal) = .wal := by
    have hfile := hroom.journal_database db .wal saved
    rw [← htree] at hfile
    exact hfile
  unfold looked
  simp only [hsource, haccess, hjournal]
  rfl

/-- What is done with the store behind an open handle goes into the file. -/
theorem work_hosts {h : Handle} (hon : h.IsOn p) (hopen : h.closed = false) {α : Type}
    (f : Store → Store × α) {store : Store} {a : α}
    (hf : f ⟨db, .opened .free, h.connection⟩ = (store, a))
    (haccess : store.access = .opened .free) :
    ∃ s', s.work h f = ((s', { h with connection := store.connection }), a) ∧
      s'.Hosts base p store.database ∧ s'.handles = s.handles ∧
      s'.workingDirectory = s.workingDirectory := by
  obtain ⟨saved, htree⟩ := hs.tree
  let s' : Session := { s with tree := base.put p (.database store.database .wal saved) }
  have hs' : s'.Hosts base p store.database := ⟨⟨saved, rfl⟩, hs.handles⟩
  let h' : Handle := { h with connection := store.connection }
  refine ⟨s', ?_, hs', rfl, rfl⟩
  have hdatabase : s.withDatabase h' store.database = (s', h') := by
    have hsource : h'.source = .file (.forWork p .wal) := hon.source
    have hstore := hroom.store_database db store.database saved
    rw [← htree] at hstore
    unfold withDatabase
    rw [hsource]
    exact congrArg (fun tree => (({ s with tree } : Session), h')) hstore
  have hlooked : s'.looked h' = h' := by
    have hsource : h'.source = .file (.forWork p .wal) := hon.source
    rw [looked_eq hroom hs' hsource hopen, ← hsource]
  have hstill : (h'.closed || store.access == .closed) = h'.closed := by
    rw [haccess]
    exact Bool.or_false _
  have hwith : s.withStore h store = (s', h') := by
    unfold withStore
    rw [show s.withDatabase { h with connection := store.connection } store.database = (s', h') from
      hdatabase]
    dsimp only
    rw [hlooked, hstill]
  unfold work
  rw [storeOf_eq hroom hs hon.source hopen, hf]
  exact congrArg (fun x => (x, a)) hwith

end Hosts

/-! ## Handles that come and go -/

/-- Releasing a handle forgets no handle. -/
@[simp]
theorem handles_released (s : Session) (h : Handle) : (s.released h).handles = s.handles := by
  unfold released
  split
  · split <;> rfl
  · rfl

/-- Releasing a handle does not change the directory. -/
@[simp] theorem workingDirectory_released (s : Session) (h : Handle) :
    (s.released h).workingDirectory = s.workingDirectory := by
  unfold released
  split
  · split <;> rfl
  · rfl

/-- A handle that is put in comes first and takes the place of the one of its name. -/
@[simp] theorem handles_put (s : Session) (name : String) (h : Handle) :
    (s.put name h).handles = (name, h) :: s.handles.filter fun x => x.1 ≠ name := by
  unfold put
  cases s.find? name with
  | none => rfl
  | some old => exact handles_released _ old

/-- Putting a handle in does not change the directory. -/
@[simp] theorem workingDirectory_put (s : Session) (name : String) (h : Handle) :
    (s.put name h).workingDirectory = s.workingDirectory := by
  unfold put
  cases s.find? name with
  | none => rfl
  | some old => exact workingDirectory_released _ old

/-- A handle that is found is one of the session. -/
theorem mem_of_find? {s : Session} {name : String} {h : Handle} (hfind : s.find? name = some h) :
    (name, h) ∈ s.handles := by
  unfold find? at hfind
  generalize s.handles = handles at hfind
  induction handles with
  | nil => cases hfind
  | cons x rest ih =>
    rw [List.lookup_cons] at hfind
    cases hx : name == x.1 with
    | true =>
      rw [hx] at hfind
      cases hfind
      rw [beq_iff_eq.1 hx]
      exact List.mem_cons_self
    | false =>
      rw [hx] at hfind
      exact List.mem_cons_of_mem _ (ih hfind)

/-- A name finds the handle that was put in under it. -/
@[simp] theorem find?_put_self (s : Session) (name : String) (h : Handle) :
    (s.put name h).find? name = some h := by
  unfold find?
  rw [handles_put]
  simp

/-- Another name finds what it found. -/
@[simp] theorem find?_put_of_ne (s : Session) {name other : String} (hne : other ≠ name)
    (h : Handle) :
    (s.put name h).find? other = s.find? other := by
  have hother : (other == name) = false := beq_false_of_ne hne
  unfold find?
  rw [handles_put, List.lookup_cons, hother]
  dsimp only
  induction s.handles with
  | nil => rfl
  | cons x rest ih =>
    by_cases hx : x.1 = name
    · have hox : (other == x.1) = false := hx ▸ hother
      rw [List.filter_cons_of_neg (by simp [hx]), ih, List.lookup_cons, hox]
    · rw [List.filter_cons_of_pos (by simp [hx]), List.lookup_cons, List.lookup_cons, ih]

namespace Hosts

variable {s : Session} {base : FileTree} {p : Path} {db : Database} (hroom : base.HasRoom p)
  (hs : s.Hosts base p db)
include hroom hs

/-- When a handle goes, at most what was written ahead comes into the file itself. -/
theorem released {h : Handle} (hon : h.IsOn p) : (s.released h).Hosts base p db := by
  obtain ⟨saved, htree⟩ := hs.tree
  refine ⟨?_, fun x hx => hs.handles x (by rwa [handles_released] at hx)⟩
  unfold Session.released
  rw [hon.aheadOf?_eq]
  cases h.closed with
  | true => exact ⟨saved, htree⟩
  | false =>
    simp only [Bool.false_eq_true, if_false]
    split
    · exact ⟨saved, htree⟩
    · refine ⟨db, ?_⟩
      dsimp only
      rw [htree]
      exact hroom.checkpoint_database db .wal saved

/-- A session that hosts a database still does with one more handle on its file. -/
theorem put (name : String) {h : Handle} (hon : h.IsOn p) : (s.put name h).Hosts base p db := by
  have hothers : Hosts { s with
      handles := (name, h) :: s.handles.filter fun x => x.1 ≠ name } base p db := by
    refine ⟨hs.tree, fun x hx => ?_⟩
    rcases List.mem_cons.1 hx with rfl | hx
    · exact hon
    · exact hs.handles x (List.mem_filter.1 hx).1
  unfold Session.put
  cases hold : s.find? name with
  | none => exact hothers
  | some old => exact hothers.released hroom (hs.handles _ (mem_of_find? hold))

end Hosts

/-! ## Opening -/

/-- A database can be created at a path: the path means itself, leads to a place in the tree, and
after the directories were made there is room for a database. -/
structure CanCreate (s : Session) (path : String) (p : Path) : Prop where
  plain : Location.IsPlain path
  leads : (s.makeParents path).resolve? (Path.origin s.workingDirectory path) (Path.names path) =
    some p
  room : (s.makeParents path).HasRoom p

/-- A path can be opened: a database can be created there, and the path leads to the same place once
the file is there. -/
structure CanOpen (s : Session) (path : String) (p : Path) : Prop extends s.CanCreate path p where
  leadsAgain : ((s.makeParents path).put p (.file "")).resolve?
    (Path.origin s.workingDirectory path) (Path.names path) = some p

instance (s : Session) (path : String) (p : Path) : Decidable (s.CanCreate path p) :=
  decidable_of_iff (Location.IsPlain path ∧ (s.makeParents path).resolve?
      (Path.origin s.workingDirectory path) (Path.names path) = some p ∧
      (s.makeParents path).HasRoom p)
    ⟨fun h => ⟨h.1, h.2.1, h.2.2⟩, fun h => ⟨h.plain, h.leads, h.room⟩⟩

instance (s : Session) (path : String) (p : Path) : Decidable (s.CanOpen path p) :=
  decidable_of_iff (s.CanCreate path p ∧ ((s.makeParents path).put p (.file "")).resolve?
      (Path.origin s.workingDirectory path) (Path.names path) = some p)
    ⟨fun h => ⟨h.1, h.2⟩, fun h => ⟨h.toCanCreate, h.leadsAgain⟩⟩

/-- What the location of a literal path names is a file for work, if the path leads anywhere and the
file can be opened. -/
theorem openSource_eq {path : String} (hliteral : Location.IsLiteral path) (s : Session) :
    s.openSource path = (((s.resolve? path).elim (.error .cannotOpen) fun p =>
      (s.tree.openDatabase p .create).map fun tree =>
        ({ s with tree }, .file (.forWork p .delete))).mapError .engine) := by
  have hopenAs : s.openAs (.creating path) = (s.resolve? path).elim (.error .cannotOpen) fun p =>
      (s.tree.openDatabase p .create).map fun tree =>
        ({ s with tree }, .file (.forWork p .delete)) := by
    have hsystem : (Opening.creating path).fileSystem? = .ok ⟨false, true⟩ := rfl
    have hmodel : s.lacksModel (.creating path) = false := rfl
    unfold openAs
    rw [hsystem]
    simp only [ok_bind, Opening.place_creating hliteral, hmodel]
    cases s.resolve? path with
    | none => rfl
    | some p =>
      simp only [Opening.creating, Bool.false_eq_true, if_false, Option.elim_some]
      cases s.tree.openDatabase p .create <;> rfl
  unfold openSource
  rw [Location.read_ofPath hliteral.toIsVerbatim]
  simp only [ok_bind, Opening.ofLocation_created hliteral, hopenAs]

section Tune

variable {s : Session} {base : FileTree} {p : Path} (hroom : base.HasRoom p)
include hroom

/-- A file in write-ahead mode stays as it is when that mode is turned on. -/
theorem useWal_hosts {db : Database} (hs : s.Hosts base p db) :
    s.useWal (.forWork p .delete) = .ok s := by
  obtain ⟨saved, htree⟩ := hs.tree
  have hblockage := blockage?_eq hroom htree hs.handles (hroom.isForeign_database db .wal saved)
    .delete
  have hjournal : s.tree.journal p = .wal := by
    rw [htree]
    exact hroom.journal_database db .wal saved
  unfold useWal
  rw [hblockage]
  simp [FileUse.forWork, hjournal]

/-- Where a database is hosted, a new connection for work is set up and changes nothing. -/
theorem tune_hosts {db : Database} (hs : s.Hosts base p db) (busyTimeout : Nat) :
    ∃ h, s.tune (.file (.forWork p .delete)) busyTimeout = .ok (s, h) ∧ h.IsNew p db := by
  have hwal := useWal_hosts hroom hs
  let plain := (Handle.plain (.file (.forWork p .delete))).tuned busyTimeout
  have hstore := storeOf_eq hroom hs (h := plain) rfl rfl
  have hdatabase : s.databaseOf plain = db := (Store.mk.inj hstore).1
  have hlooked := looked_eq hroom hs
    (h := { plain with connection := plain.connection.informed db }) rfl rfl
  refine
    ⟨{ plain with
        connection := plain.connection.informed db
        source := .file (.forWork p .wal) },
      ?_, ⟨⟨rfl, rfl⟩, rfl, rfl⟩⟩
  unfold tune
  simp only [hwal, Except.mapError, ok_bind]
  rw [show s.databaseOf ((Handle.plain (.file (.forWork p .delete))).tuned busyTimeout) = db from
    hdatabase]
  exact congrArg (fun h => Except.ok (s, h)) hlooked

/-- The write-ahead mode of a file that was just created is turned on. -/
theorem useWal_missing (htree : s.tree = base.put p (.file "")) (hall : s.AllOn p) :
    s.useWal (.forWork p .delete) =
      .ok { s with tree := base.put p (.database .empty .wal .empty) } := by
  have hblockage := blockage?_eq hroom htree hall hroom.isForeign_empty .delete
  have hlock := lockOf_eq hroom htree hall .delete
  obtain ⟨hjournal, hdatabase, -⟩ := FileTree.of_emptyFile (hroom.find?_put (e := .file ""))
  unfold useWal
  rw [hblockage]
  simp only [hlock, htree]
  simp [FileUse.forWork, FileUse.immutable, hjournal, hdatabase]

end Tune

namespace CanCreate

variable {s : Session} {path : String} {p : Path} (h : s.CanCreate path p)
include h

/-- The directories that lead to a path are made only once. -/
theorem makeParents_again {s' : Session} (hdirectory : s'.workingDirectory = s.workingDirectory)
    {e : Entry} (he : e ≠ .directory) (htree : s'.tree = (s.makeParents path).put p e) :
    s'.makeParents path = s'.tree := by
  have hfree := h.room.free
  unfold makeParents at hfree htree ⊢
  dsimp only at hfree htree ⊢
  split at hfree
  · next hnul => rw [if_pos hnul]
  · next hnul =>
    rw [if_neg hnul] at htree ⊢
    rw [htree, hdirectory]
    exact FileTree.makeDirectories_put hfree he

/-- Opening a path for the first time makes the directories and a database without tables. -/
theorem openPath_first (hhandles : s.handles = []) (busyTimeout : Nat) :
    ∃ s' h', s.openPath path busyTimeout = (s', .ok h') ∧ h'.IsNew p .empty ∧
      s'.Hosts (s.makeParents path) p .empty ∧ s'.handles = [] ∧
      s'.workingDirectory = s.workingDirectory := by
  let made : Session := { s with tree := s.makeParents path }
  let created : Session := { s with tree := (s.makeParents path).put p (.file "") }
  let s' : Session :=
    { s with tree := (s.makeParents path).put p (.database .empty .wal .empty) }
  have hnone : ∀ {q : Session}, q.handles = s.handles → q.AllOn p := by
    intro q hq x hx
    rw [hq, hhandles] at hx
    cases hx
  have hresolve : made.resolve? path = some p := h.leads
  have hsource : made.openSource path = .ok (created, .file (.forWork p .delete)) := by
    have hopened : made.tree.openDatabase p .create = .ok created.tree :=
      h.room.openDatabase_missing
    rw [openSource_eq h.plain.isLiteral, hresolve, Option.elim_some, hopened]
    rfl
  have hs' : s'.Hosts (s.makeParents path) p .empty := ⟨⟨.empty, rfl⟩, hnone rfl⟩
  have hwal : created.useWal (.forWork p .delete) = .ok s' :=
    useWal_missing h.room rfl (hnone rfl)
  obtain ⟨h', htune, hnew⟩ := tune_hosts h.room hs' busyTimeout
  have hwal' : s'.useWal (.forWork p .delete) = .ok s' := useWal_hosts h.room hs'
  have htune' : created.tune (.file (.forWork p .delete)) busyTimeout = .ok (s', h') := by
    rw [← htune]
    unfold tune
    simp only [hwal, hwal']
  refine ⟨s', h', ?_, hnew, hs', hhandles, rfl⟩
  unfold openPath
  dsimp only
  rw [show openSource { s with tree := s.makeParents path } path = _ from hsource]
  dsimp only
  rw [htune']

end CanCreate

namespace CanOpen

variable {s : Session} {path : String} {p : Path} (h : s.CanOpen path p)
include h

/-- Opening the path of a file that is hosted changes nothing. -/
theorem openPath_again {s' : Session} {db : Database}
    (hdirectory : s'.workingDirectory = s.workingDirectory)
    (hs : s'.Hosts (s.makeParents path) p db) (busyTimeout : Nat) :
    ∃ h', s'.openPath path busyTimeout = (s', .ok h') ∧ h'.IsNew p db := by
  obtain ⟨saved, htree⟩ := hs.tree
  have hmade : ({ s' with tree := s'.makeParents path } : Session) = s' := by
    rw [h.makeParents_again hdirectory (by simp) htree]
  have hresolve : s'.resolve? path = some p := by
    unfold resolve?
    rw [htree, hdirectory]
    exact FileTree.resolve?_put_file h.room.ne_nil (by simp) (by simp) h.leadsAgain
  have hopened : s'.tree.openDatabase p .create = .ok s'.tree := by
    rw [htree]
    exact h.room.openDatabase_there (by simp)
  have hsource : s'.openSource path = .ok (s', .file (.forWork p .delete)) := by
    rw [openSource_eq h.plain.isLiteral, hresolve, Option.elim_some, hopened]
    rfl
  obtain ⟨h', htune, hnew⟩ := tune_hosts h.room hs busyTimeout
  refine ⟨h', ?_, hnew⟩
  unfold openPath
  dsimp only
  rw [hmade, hsource]
  dsimp only
  rw [htune]

end CanOpen

end Session

end DispatchStore
