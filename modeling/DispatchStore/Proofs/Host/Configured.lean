import DispatchStore.Proofs.Config.Grammar
import DispatchStore.Proofs.Host.Openable
import DispatchStore.Proofs.Host.Places

/-!
# The configured file

A database that was opened by its path lies in the file that the path says (`Session.place`), if the
path is read back as it is written: there it was migrated and there the handle works, the
directories that were missing on the way were made, and nothing else came into the tree
(`Session.UsesFile`). So configurations that say different files never share a database
(`Session.opens_configuredFile`).

Of another path the location may name another file. Two paths that differ in how a blank is written
lead to one database, and the file that the first one says is never made
(`Session.opens_sharedFile`).
-/

namespace DispatchStore

namespace Session

/-- The place that a written path says. -/
def place (s : Session) (path : String) : Path :=
  Path.follow (Path.origin s.workingDirectory path) (Path.names path)

/-- The written path leads through the directory on the way to its file. -/
def LeadsThrough (s : Session) (path : String) (q : Path) : Prop :=
  Path.Enters (Path.origin s.workingDirectory path) (Path.names path).dropLast q

variable {s t : Session} {path name : String} {p : Path} {clock : Clock}

/-- A path that is read back as it is written has no null character if it was opened. -/
theorem isLiteral_of_openSource (hverbatim : Location.IsVerbatim path) (hne : path ≠ "")
    {source : Source} (h : s.openSource path = .ok (t, source)) : Location.IsLiteral path := by
  refine ⟨hverbatim, hne, ?_⟩
  unfold openSource at h
  rw [Location.read_ofPath hverbatim] at h
  cases hopening : Opening.ofLocation (Location.created path) with
  | error fault =>
    simp only [ok_bind, hopening] at h
    cases h
  | ok o => exact Opening.noNull_of_ofLocation hopening

/-- Turning the write-ahead journal on leaves the database as it is. -/
theorem useWal_parts (hp : p ≠ []) (h : s.useWal (.forWork p .delete) = .ok t) :
    (∃ saved, t.tree.find? p = some (.database (s.tree.database p) .wal saved)) ∧
      ∀ q, q ≠ p → t.tree.find? q = s.tree.find? q := by
  unfold useWal at h
  split at h
  · cases h
  · split at h
    · next hwal =>
      cases h
      have hjournal : s.tree.journal p = .wal := of_decide_eq_true hwal
      refine ⟨?_, fun _ _ => rfl⟩
      unfold FileTree.journal at hjournal
      unfold FileTree.database
      split at hjournal
      · next db journal saved hfind => exact ⟨saved, by rw [hfind, hjournal]⟩
      · cases hjournal
    · split at h
      · cases h
        exact ⟨⟨_, FileTree.find?_put_self hp⟩, fun q hq => FileTree.find?_put_of_ne hq⟩
      all_goals cases h

/-- What is done with the store behind a handle on a file goes into that file. -/
theorem work_forWork {h : Handle} {journal : Journal}
    (hsource : h.source = .file (.forWork p journal))
    {α : Type} (f : Store → Store × α) :
    (s.work h f).1.1 = { s with tree := s.tree.store p (f (s.storeOf h)).1.database } ∧
      ∃ journal, (s.work h f).1.2.source = .file (.forWork p journal) := by
  have hwith : s.withDatabase { h with connection := (f (s.storeOf h)).1.connection }
      (f (s.storeOf h)).1.database =
        ({ s with tree := s.tree.store p (f (s.storeOf h)).1.database },
          { h with connection := (f (s.storeOf h)).1.connection }) := by
    unfold withDatabase
    rw [hsource]
    rfl
  unfold work withStore
  dsimp only
  rw [hwith]
  refine ⟨rfl, ?_⟩
  unfold looked
  dsimp only
  split
  · next g _ hg _ =>
    rw [hsource] at hg
    cases hg
    exact ⟨_, rfl⟩
  · exact ⟨journal, hsource⟩

/-- When a handle comes under a name, and perhaps another one goes, nothing is seen in the tree. -/
theorem seen_put (s : Session) (name : String) (h : Handle) (q : Path) :
    ((s.put name h).tree.find? q).map Entry.seen = (s.tree.find? q).map Entry.seen := by
  unfold put
  cases s.find? name with
  | none => rfl
  | some old =>
    rw [Option.elim_some]
    unfold released
    split
    · split
      · rfl
      · exact FileTree.seen_checkpoint _ _ q
    · rfl

/-- Making the directories of a path leaves what is in the tree. -/
theorem find?_makeParents {q : Path} {e : Entry} (h : s.tree.find? q = some e) :
    (s.makeParents path).find? q = some e := by
  unfold makeParents
  dsimp only
  split
  · exact h
  · exact FileTree.find?_makeDirectories h _ _

/-- Making the directories that lead to a file changes nothing but that there may be new directories
on the way. -/
theorem find?_makeParents_cases (s : Session) (path : String) (q : Path) :
    (s.makeParents path).find? q = s.tree.find? q ∨
      s.tree.find? q = none ∧ (s.makeParents path).find? q = some .directory ∧
        s.LeadsThrough path q := by
  cases hold : s.tree.find? q with
  | some e => exact .inl (find?_makeParents hold)
  | none =>
    cases hmade : (s.makeParents path).find? q with
    | none => exact .inl rfl
    | some e =>
      unfold makeParents at hmade
      dsimp only at hmade
      split at hmade
      · rw [hold] at hmade
        cases hmade
      · rcases FileTree.of_find?_makeDirectories hmade with hfound | ⟨rfl, hleads⟩
        · rw [hold] at hfound
          cases hfound
        · exact .inr ⟨rfl, rfl, hleads⟩

/-- Making the directories that lead to a file leaves all databases as they are. -/
theorem database_makeParents (s : Session) (path : String) (p : Path) :
    (s.makeParents path).database p = s.tree.database p := by
  unfold FileTree.database
  rcases find?_makeParents_cases s path p with hsame | ⟨hnone, hmade, -⟩
  · rw [hsame]
  · rw [hnone, hmade]

/-- All directories that lead to a file are made if the path leads anywhere and, where it leads
back, no file is in the way. -/
theorem isDirectory_makeParents (hnul : '\x00' ∉ path.toList)
    (hresolve : resolve? { s with tree := s.makeParents path } path = some p)
    (hclear : ".." ∈ Path.names path → ∀ q, s.LeadsThrough path q → s.tree.isFile q = false)
    {q : Path} (hq : s.LeadsThrough path q) : (s.makeParents path).isDirectory q = true := by
  have hparents :
      ((Path.names path).dropLast.any fun name => name.toList.contains '\x00') = false := by
    rw [List.any_eq_false]
    intro name hname hmem
    exact hnul (Path.mem_of_mem_names (List.dropLast_subset _ hname) (List.contains_iff_mem.1 hmem))
  have hshort := (FileTree.resolve?_spec hresolve).2
  have hfree : ∀ r, s.LeadsThrough path r → s.tree.isFile r = false := by
    by_cases hup : ".." ∈ Path.names path
    · exact hclear hup
    · intro r hr
      have hmade := FileTree.isFile_of_resolve? hresolve hup hr
      rw [Bool.eq_false_iff] at hmade ⊢
      intro hfile
      obtain ⟨e, he, hne⟩ := FileTree.isFile_iff.1 hfile
      exact hmade (FileTree.isFile_iff.2 ⟨e, find?_makeParents he, hne⟩)
  unfold makeParents
  dsimp only
  rw [hparents]
  exact FileTree.isDirectory_makeDirectories
    (fun name hname => hshort name (List.dropLast_subset _ hname)) hfree hq

/-! ## The file that is used -/

/-- A path was opened for work: the new handle is on the file that the path says, and the database
that was there is in write-ahead mode. -/
structure OpensFile (s : Session) (path : String) (t : Session) (new : Handle) : Prop where
  noNull : '\x00' ∉ path.toList
  leads : resolve? { s with tree := s.makeParents path } path = some (s.place path)
  notDirectory : (s.makeParents path).find? (s.place path) ≠ some .directory
  opened : new.closed = false
  source : ∃ journal, new.source = .file (.forWork (s.place path) journal)
  database : ∃ saved, t.tree.find? (s.place path) =
    some (.database (s.tree.database (s.place path)) .wal saved)
  elsewhere : ∀ q, q ≠ s.place path → t.tree.find? q = (s.makeParents path).find? q

/-- Opening a path that is read as it is written opens the file that the path says. -/
theorem opensFile_of_openPath (hverbatim : Location.IsVerbatim path) (hne : path ≠ "")
    {busyTimeout : Nat} {new : Handle} (h : s.openPath path busyTimeout = (t, .ok new)) :
    s.OpensFile path t new := by
  obtain ⟨created, source, hsource, htune⟩ := openPath_parts h
  have hliteral := isLiteral_of_openSource hverbatim hne hsource
  obtain ⟨p, tree, hresolve, htree, rfl, rfl⟩ := openSource_parts hliteral hsource
  obtain rfl : p = s.place path := (FileTree.resolve?_spec hresolve).1
  obtain ⟨hnotDirectory, hdatabase, hothers⟩ := FileTree.openDatabase_parts htree
  have hp : s.place path ≠ [] := by
    intro hnil
    rw [hnil] at hnotDirectory
    exact hnotDirectory rfl
  obtain ⟨hwal, hfile, -⟩ := tune_parts htune
  obtain ⟨⟨saved, hfind⟩, hothers'⟩ := useWal_parts hp hwal
  obtain ⟨_, _, hnew⟩ := exists_tuned htune
  dsimp only at hdatabase hothers hfind hothers'
  rw [hdatabase, database_makeParents] at hfind
  exact
    { noNull := hliteral.noNull
      leads := hresolve
      notDirectory := hnotDirectory
      opened := by rw [hnew]; rfl
      source := hfile
      database := ⟨saved, hfind⟩
      elsewhere := fun q hq => (hothers' q hq).trans (hothers q hq) }

namespace OpensFile

variable {new : Handle} (hopens : s.OpensFile path t new)
include hopens

/-- The file that was opened is not the root. -/
theorem place_ne_nil : s.place path ≠ [] := by
  intro hnil
  have hroot := hopens.notDirectory
  rw [hnil] at hroot
  exact hroot rfl

/-- A pass behind the new handle that gets through is one over the database in the file. -/
theorem work_upgrade {verify : Bool} {report : Report} {q : Session} {h : Handle}
    (hwork : t.work new (fun store => store.upgrade clock verify Registry.builtIn) =
      ((q, h), .ok report)) :
    h.closed = false ∧ (∃ journal, h.source = .file (.forWork (s.place path) journal)) ∧
      (∃ lock db saved, Registry.builtIn.upgrade lock clock verify
          (s.tree.database (s.place path)) = (db, .ok report) ∧
        q.tree.find? (s.place path) = some (.database db .wal saved)) ∧
      ∀ r, r ≠ s.place path → q.tree.find? r = (s.makeParents path).find? r := by
  obtain ⟨journal, hsource⟩ := hopens.source
  obtain ⟨saved, hfind⟩ := hopens.database
  have hdatabase : (t.storeOf new).database = s.tree.database (s.place path) := by
    unfold storeOf databaseOf
    rw [hsource]
    exact FileTree.database_of_find? hfind
  obtain ⟨store, source, hpass, rfl⟩ := exists_upgraded hopens.opened hwork
  obtain ⟨-, -, hupgrade, -⟩ := Store.upgrade_parts_of_ok hpass
  obtain ⟨hq, hsource'⟩ :=
    work_forWork (s := t) hsource fun store => store.upgrade clock verify Registry.builtIn
  rw [hwork, hpass] at hq
  rw [hwork] at hsource'
  dsimp only at hq hsource'
  rw [hdatabase] at hupgrade
  refine ⟨hopens.opened, hsource', ⟨_, store.database, saved, hupgrade, ?_⟩, fun r hr => ?_⟩
  · rw [hq]
    exact FileTree.find?_store hfind hopens.place_ne_nil store.database
  · rw [hq]
    exact (FileTree.find?_store_of_ne hr _).trans (hopens.elsewhere r hr)

end OpensFile

/-- The database of a path was opened under a name, with or without a comparison of the shapes: it
is in the file that the path says. -/
structure UsesFile (s : Session) (path name : String) (clock : Clock) (verify : Bool)
    (report : Report) (t : Session) : Prop where
  /-- The handle works there. -/
  handle : ∃ h journal, t.find? name = some h ∧ h.closed = false ∧
    h.source = .file (.forWork (s.place path) journal)
  notDirectory : s.tree.isDirectory (s.place path) = false
  /-- What the file holds is what the migration made of the database that was there. -/
  migrated : ∃ lock db saved,
    Registry.builtIn.upgrade lock clock verify (s.tree.database (s.place path)) = (db, .ok report) ∧
      t.tree.find? (s.place path) = some (.database db .wal saved)
  /-- Elsewhere nothing is seen to change, but that there may be new directories on the way. -/
  elsewhere : ∀ q, q ≠ s.place path →
    (t.tree.find? q).map Entry.seen = (s.tree.find? q).map Entry.seen ∨
      s.tree.find? q = none ∧ t.tree.find? q = some .directory ∧ s.LeadsThrough path q
  /-- All directories on the way are there. A path that leads back may lead through a file
  instead. -/
  parents : (".." ∈ Path.names path → ∀ q, s.LeadsThrough path q → s.tree.isFile q = false) →
    ∀ q, s.LeadsThrough path q → t.tree.isDirectory q = true

/-- A path that is read back as it is written uses the file that it says. -/
theorem usesFile_of_startAs (hverbatim : Location.IsVerbatim path) (hne : path ≠ "")
    {busyTimeout : Nat} {verify : Bool} {report : Report}
    (h : s.startAs name clock path busyTimeout verify = (t, .ok report)) :
    s.UsesFile path name clock verify report t := by
  obtain ⟨q, handle, hstart, rfl⟩ := startAs_parts h
  obtain ⟨opened, new, hopened, hwork⟩ := start_parts hstart
  have hopens := opensFile_of_openPath hverbatim hne hopened
  obtain ⟨hclosed, ⟨journal, hsource⟩, ⟨lock, db, saved, hupgrade, hplace⟩, hothers⟩ :=
    hopens.work_upgrade hwork
  refine ⟨⟨handle, journal, find?_put_self q name handle, hclosed, hsource⟩, ?_, ?_, ?_, ?_⟩
  · rw [Bool.eq_false_iff, ne_eq, FileTree.isDirectory_iff]
    exact fun hdirectory => hopens.notDirectory (find?_makeParents hdirectory)
  · obtain ⟨saved', hfind⟩ :=
      FileTree.find?_database_of_seen (seen_put q name handle (s.place path)) hplace
    exact ⟨lock, db, saved', hupgrade, hfind⟩
  · intro r hr
    rw [seen_put, hothers r hr]
    rcases find?_makeParents_cases s path r with hsame | ⟨hnone, hmade, hleads⟩
    · exact .inl (by rw [hsame])
    · refine .inr ⟨hnone, ?_, hleads⟩
      exact FileTree.find?_directory_of_seen (seen_put q name handle r) ((hothers r hr).trans hmade)
  · intro hclear r hr
    have hmade := isDirectory_makeParents hopens.noNull hopens.leads hclear hr
    rw [FileTree.isDirectory_iff] at hmade ⊢
    have hne : r ≠ s.place path := by
      rintro rfl
      exact hopens.notDirectory hmade
    exact FileTree.find?_directory_of_seen (seen_put q name handle r) ((hothers r hne).trans hmade)

namespace UsesFile

variable {verify : Bool} {report : Report} (huses : s.UsesFile path name clock verify report t)
include huses

/-- If the path never leads back, the directories that were made are those above the file that were
missing, from where the path begins. -/
theorem isDirectory_iff (hdown : ".." ∉ Path.names path) (q : Path) :
    t.tree.isDirectory q = true ↔ s.tree.isDirectory q = true ∨
      (Path.origin s.workingDirectory path <+: q ∧ q ≠ Path.origin s.workingDirectory path) ∧
        q <+: s.place path ∧ q ≠ s.place path := by
  have hway : s.LeadsThrough path q ↔
      (Path.origin s.workingDirectory path <+: q ∧ q ≠ Path.origin s.workingDirectory path) ∧
        q <+: s.place path ∧ q ≠ s.place path := Path.enters_dropLast_iff hdown
  rw [← hway]
  constructor
  · intro hdirectory
    rw [FileTree.isDirectory_iff] at hdirectory ⊢
    have hq : q ≠ s.place path := by
      rintro rfl
      obtain ⟨_, _, _, -, hfind⟩ := huses.migrated
      rw [hdirectory] at hfind
      cases hfind
    rcases huses.elsewhere q hq with hseen | ⟨-, -, hleads⟩
    · exact .inl (FileTree.find?_directory_of_seen hseen.symm hdirectory)
    · exact .inr hleads
  · rintro (hold | hleads)
    · have hq : q ≠ s.place path := by
        rintro rfl
        rw [huses.notDirectory] at hold
        cases hold
      rw [FileTree.isDirectory_iff] at hold ⊢
      rcases huses.elsewhere q hq with hseen | ⟨hnone, -, -⟩
      · exact FileTree.find?_directory_of_seen hseen hold
      · rw [hold] at hnone
        cases hnone
    · exact huses.parents (fun hup => absurd hup hdown) q hleads

/-- Whatever is then done under the name is done in the file, and nothing of it is seen
elsewhere. -/
theorem worked (fs : List (Store → Store)) :
    ∃ h, (t.worked name fs).find? name = some h ∧
      (∃ journal, h.source = .file (.forWork (s.place path) journal)) ∧
      ∀ q, q ≠ s.place path →
        ((t.worked name fs).tree.find? q).map Entry.seen = (t.tree.find? q).map Entry.seen := by
  obtain ⟨h, journal, hfind, -, hsource⟩ := huses.handle
  refine worked_induction
    (P := fun u h => (∃ journal, h.source = .file (.forWork (s.place path) journal)) ∧
      ∀ q, q ≠ s.place path → (u.tree.find? q).map Entry.seen = (t.tree.find? q).map Entry.seen)
    (fun u h f _ hP => ?_) hfind ⟨⟨journal, hsource⟩, fun _ _ => rfl⟩ fs
  obtain ⟨⟨journal, hsource⟩, hothers⟩ := hP
  obtain ⟨hu, hsource'⟩ := work_forWork (s := u) hsource f
  refine ⟨hsource', fun q hq => ?_⟩
  rw [seen_put, hu, ← hothers q hq, FileTree.find?_store_of_ne hq]

end UsesFile

/-- What is done through a handle on one file is not seen through a handle on another one. -/
theorem databaseOf_work_of_ne {u : Session} {h h' : Handle} {p' : Path} {journal journal' : Journal}
    (hsource : h.source = .file (.forWork p journal))
    (hsource' : h'.source = .file (.forWork p' journal')) (hne : p ≠ p') {α : Type}
    (f : Store → Store × α) : (u.work h f).1.1.databaseOf h' = u.databaseOf h' := by
  obtain ⟨hu, -⟩ := work_forWork (s := u) hsource f
  rw [hu]
  unfold databaseOf
  rw [hsource']
  show FileTree.database _ p' = FileTree.database _ p'
  unfold FileTree.database
  dsimp only
  rw [FileTree.find?_store_of_ne hne.symm]

/-- The database of a configuration was opened under a name: as it is configured, or at its path
with the default settings, which compare no shapes. -/
def Opens (s : Session) (name : String) (clock : Clock) (c : Config) (verify : Bool)
    (report : Report) (t : Session) : Prop :=
  s.connect name clock c = (t, .ok report) ∧ verify = c.strictSchema ∨
    s.connectDefault name clock c.databasePath = (t, .ok report) ∧ verify = false

/-- What a configuration opens is the file at its path. -/
theorem Opens.usesFile {env : Environment} {c : Config} (hread : Config.read env = .ok c)
    (hverbatim : Location.IsVerbatim c.databasePath) {verify : Bool} {report : Report}
    (h : s.Opens name clock c verify report t) :
    s.UsesFile c.databasePath name clock verify report t := by
  have hne := Config.databasePath_ne_empty hread
  rcases h with ⟨h, rfl⟩ | ⟨h, rfl⟩
  · exact usesFile_of_startAs hverbatim hne h
  · exact usesFile_of_startAs hverbatim hne h

/-- **The configured file.** If the path of a configuration is read back as it is written, then
opening it uses the file that the path says: the database that was there was migrated, the handle
works on it, and nothing else was made but the directories that lead there. What is done later goes
into that file, and a handle for a configuration that says another file works on another
database. -/
theorem opens_configuredFile {env : Environment} {c : Config} (hread : Config.read env = .ok c)
    (hverbatim : Location.IsVerbatim c.databasePath) {verify : Bool} {report : Report}
    (hopens : s.Opens name clock c verify report t) :
    s.UsesFile c.databasePath name clock verify report t ∧
    (".." ∉ Path.names c.databasePath → ∀ q,
      (t.tree.isDirectory q = true ↔ s.tree.isDirectory q = true ∨
        (Path.origin s.workingDirectory c.databasePath <+: q ∧
          q ≠ Path.origin s.workingDirectory c.databasePath) ∧
        q <+: s.place c.databasePath ∧ q ≠ s.place c.databasePath)) ∧
    (∀ fs, ∃ h, (t.worked name fs).find? name = some h ∧
      (∃ journal, h.source = .file (.forWork (s.place c.databasePath) journal)) ∧
      ∀ q, q ≠ s.place c.databasePath →
        ((t.worked name fs).tree.find? q).map Entry.seen = (t.tree.find? q).map Entry.seen) ∧
    ∀ env' c' s' t' name' clock' verify' report', Config.read env' = .ok c' →
      Location.IsVerbatim c'.databasePath → Opens s' name' clock' c' verify' report' t' →
      s.place c.databasePath ≠ s'.place c'.databasePath →
      ∀ h ∈ t.find? name, ∀ h' ∈ t'.find? name', ∀ (u : Session) {α : Type} (f : Store → Store × α),
        (u.work h f).1.1.databaseOf h' = u.databaseOf h' := by
  have huses := hopens.usesFile hread hverbatim
  refine ⟨huses, huses.isDirectory_iff, huses.worked, ?_⟩
  intro env' c' s' t' name' clock' verify' report' hread' hverbatim' hopens' hne h hh h' hh' u α f
  obtain ⟨_, _, hfind, -, hsource⟩ := huses.handle
  obtain ⟨_, _, hfind', -, hsource'⟩ := (hopens'.usesFile hread' hverbatim').handle
  cases hfind.symm.trans hh
  cases hfind'.symm.trans hh'
  exact databaseOf_work_of_ne hsource hsource' hne f

/-- Two configurations, one with a path and one with a directory, in a session that begins on an
empty disk. -/
theorem opens_configuredFile_twice :
    let env : Environment := fun key => [("TRETA_DB_PATH", " data/store.db\n")].lookup key
    let env' : Environment := fun key => [("TRETA_DATA_DIR", "data")].lookup key
    let c : Config := ⟨"data/store.db", 5, 5000, false⟩
    let c' : Config := ⟨"data/memory/treta.sqlite", 5, 5000, false⟩
    let report : Report := ⟨[10, 11, 16], 16⟩
    Config.read env = .ok c ∧ Location.IsVerbatim c.databasePath ∧
    Config.read env' = .ok c' ∧ Location.IsVerbatim c'.databasePath ∧
    blank.place c.databasePath = ["data", "store.db"] ∧
    ∃ t t', blank.Opens "a" Store.still c false report t ∧
      blank.Opens "a" Store.still c' false report t' ∧
      blank.UsesFile c.databasePath "a" Store.still false report t ∧
      ∀ h ∈ t.find? "a", ∀ h' ∈ t'.find? "a", ∀ (u : Session) {α : Type} (f : Store → Store × α),
        (u.work h f).1.1.databaseOf h' = u.databaseOf h' := by
  intro env env' c c' report
  have hread : Config.read env = .ok c := by decide +kernel
  have hread' : Config.read env' = .ok c' := by decide +kernel
  have hcreate : blank.CanCreate c.databasePath ["data", "store.db"] := by decide +kernel
  have hcreate' : blank.CanCreate c'.databasePath ["data", "memory", "treta.sqlite"] := by
    decide +kernel
  have hverbatim := hcreate.plain.isLiteral.toIsVerbatim
  have hverbatim' := hcreate'.plain.isLiteral.toIsVerbatim
  obtain ⟨t, hconnect⟩ := connect_of_canCreate hcreate rfl "a" Store.still
  obtain ⟨t', hconnect'⟩ := connect_of_canCreate hcreate' rfl "a" Store.still
  have hopens : blank.Opens "a" Store.still c false report t := .inl ⟨hconnect, rfl⟩
  have hopens' : blank.Opens "a" Store.still c' false report t' := .inl ⟨hconnect', rfl⟩
  obtain ⟨huses, -, -, hother⟩ := opens_configuredFile hread hverbatim hopens
  exact ⟨hread, hverbatim, hread', hverbatim', by decide +kernel, t, t', hopens, hopens', huses,
    hother env' c' blank t' "a" Store.still false report hread' hverbatim' hopens'
      (by decide +kernel)⟩

/-- The location of a path decodes a blank that the path only spells. So two configurations that say
different files share a database, and the file that the first one says is not made. -/
theorem opens_sharedFile :
    let env : String → Environment := fun path key => [("TRETA_DB_PATH", path)].lookup key
    let c : Config := ⟨"data/a%20b.db", 5, 5000, false⟩
    let c' : Config := ⟨"data/a b.db", 5, 5000, false⟩
    Config.read (env "data/a%20b.db") = .ok c ∧ Config.read (env "data/a b.db") = .ok c' ∧
    blank.place c.databasePath ≠ blank.place c'.databasePath ∧
    ∃ t, blank.Opens "a" Store.still c false ⟨[10, 11, 16], 16⟩ t ∧
      blank.Opens "a" Store.still c' false ⟨[10, 11, 16], 16⟩ t ∧
      t.tree.find? (blank.place c.databasePath) = none ∧
      ∃ h journal, t.find? "a" = some h ∧
        h.source = .file (.forWork (blank.place c'.databasePath) journal) := by
  intro env c c'
  have hread' : Config.read (env "data/a b.db") = .ok c' := by decide +kernel
  have hcreate : blank.CanCreate c'.databasePath ["data", "a b.db"] := by decide +kernel
  have hopenPath : blank.openPath c.databasePath 5000 = blank.openPath c'.databasePath 5000 := by
    decide +kernel
  have hsame : blank.connect "a" Store.still c = blank.connect "a" Store.still c' := by
    unfold connect startAs start
    rw [show blank.openPath c.databasePath c.busyTimeout =
      blank.openPath c'.databasePath c'.busyTimeout from hopenPath]
  obtain ⟨t, hconnect⟩ := connect_of_canCreate hcreate rfl "a" Store.still
  have hopens : blank.Opens "a" Store.still c' false ⟨[10, 11, 16], 16⟩ t := .inl ⟨hconnect, rfl⟩
  have huses := hopens.usesFile hread' hcreate.plain.isLiteral.toIsVerbatim
  obtain ⟨h, journal, hfind, -, hsource⟩ := huses.handle
  refine ⟨by decide +kernel, hread', by decide +kernel, t, .inl ⟨hsame.trans hconnect, rfl⟩, hopens,
    ?_, h, journal, hfind, hsource⟩
  -- nothing was there, and no directory was made there
  rcases huses.elsewhere (blank.place c.databasePath) (by decide +kernel) with hseen | ⟨-, hmade, -⟩
  · have hnone : blank.tree.find? (blank.place c.databasePath) = none := by decide +kernel
    rw [hnone] at hseen
    exact Option.map_eq_none_iff.1 hseen
  · have hdirectory :=
      (huses.isDirectory_iff (by decide +kernel) _).1 (FileTree.isDirectory_iff.2 hmade)
    exact absurd hdirectory (by decide +kernel)

end Session

end DispatchStore
