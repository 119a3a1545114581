import DispatchStore.Proofs.Host.Handles
import DispatchStore.Proofs.Host.Restarts

/-!
# Paths that can be opened

That a path can be opened (`Session.CanOpen`) is told by the path and by the tree. It says neither
more nor less than that the database, which is not there yet, can be started and its file opened
once more (`Session.canOpen_iff`): what one start that succeeds tells of the tree is all the room
that a database needs (`Session.canCreate_of_start`).
-/

namespace DispatchStore

/-- The creation of the ledger is compiled as a write for a database without tables. -/
theorem Connection.obstacle?_creation {c : Connection} (hc : c = .informed .new .empty)
    {access : Access} (hopen : access ≠ .closed) (db : Database) :
    c.obstacle? access (Ledger.compilation db).template (Ledger.compilation db).statement =
      access.fault? true := by
  have hlookup : c.prepared.lookup (Ledger.compilation db).template = none := by
    rw [hc]
    rfl
  have hknown : c.known = some .empty := by
    rw [hc]
    rfl
  have hcheck : (Ledger.compilation db).statement.check .empty = .ok true := rfl
  unfold obstacle?
  rw [if_neg hopen, hlookup, hknown]
  dsimp only
  rw [hcheck]

/-- A pass behind a connection that saw a database without tables fails if no write is begun. -/
theorem Store.not_refused_of_upgrade {s : Store}
    (hconnection : s.connection = .informed .new .empty) {clock : Clock} {verify : Bool}
    {r : Registry} {report : Report} (h : (s.upgrade clock verify r).2 = .ok report) :
    ∃ lock, s.access = .opened lock ∧ ∀ e, lock ≠ .refused e := by
  unfold upgrade at h
  split at h
  · cases h
  · cases h
  · next hopen =>
    unfold withLedger at h
    dsimp only at h
    rw [Connection.obstacle?_creation hconnection hopen] at h
    cases haccess : s.access with
    | closed => exact absurd haccess hopen
    | blocked e =>
      rw [haccess] at h
      cases h
    | opened lock =>
      refine ⟨lock, rfl, ?_⟩
      rintro e rfl
      rw [haccess] at h
      cases h

namespace Session

variable {s q : Session} {path : String} {p : Path}

/-- A directory in the place of the index of what is written ahead keeps every use from writing. -/
theorem lockOf_refused (hjournal : s.tree.journal p = .wal)
    (htaken : s.tree.isTaken p "-shm" = true)
    (journal : Journal) : ∃ e, s.lockOf (.forWork p journal) = .refused e := by
  rw [lockOf_forWork, if_pos hjournal, if_pos htaken]
  split <;> exact ⟨_, rfl⟩

/-- A use that sees no write-ahead mode writes only if the journal can be put beside the file. -/
theorem journal_of_lockOf_free (hjournal : s.tree.journal p = .delete) {journal : Journal}
    (h : s.lockOf (.forWork p journal) = .free) :
    (p.beside "-journal").isTooLong = false ∧ s.tree.isTaken p "-journal" = false := by
  have hnot : ¬ (s.tree.isTaken p "-journal" || (p.beside "-journal").isTooLong) = true := by
    intro hstop
    have hwal : ¬ s.tree.journal p = .wal := by simp [hjournal]
    rw [lockOf_forWork, if_neg hwal, if_pos hstop] at h
    split at h <;> cases h
  rw [Bool.or_eq_true, not_or, Bool.not_eq_true, Bool.not_eq_true] at hnot
  exact hnot.symm

/-- A file without pages can be looked at only if no directory is in the place of what is written
ahead. -/
theorem not_isTaken_of_blockage {f : FileUse} (hpages : s.tree.hasPages f.path = false)
    (himmutable : f.immutable = false) (h : s.blockage? f = none) :
    s.tree.isTaken f.path "-wal" = false := by
  rw [Bool.eq_false_iff]
  intro htaken
  unfold blockage? at h
  simp [hpages, himmutable, htaken] at h

/-- A file that was just created is put into write-ahead mode only if no directory is in the way. -/
theorem useWal_created (hfile : s.tree.find? p = some (.file ""))
    (h : s.useWal (.forWork p .delete) = .ok q) :
    (p.beside "-journal").isTooLong = false ∧ s.tree.isTaken p "-journal" = false ∧
      s.tree.isTaken p "-wal" = false ∧
      q = { s with tree := s.tree.put p (.database .empty .wal .empty) } := by
  obtain ⟨hjournal, hdatabase, hpages⟩ := FileTree.of_emptyFile hfile
  unfold useWal at h
  cases hblockage : s.blockage? (.forWork p .delete) with
  | some e =>
    rw [hblockage] at h
    cases h
  | none =>
    rw [hblockage] at h
    dsimp only at h
    rw [if_neg (by simp [FileUse.forWork, FileUse.immutable, hjournal])] at h
    cases hlock : s.lockOf (.forWork p .delete) with
    | refused e | unsaved e | unfinished e =>
      rw [hlock] at h
      cases h
    | free =>
      rw [hlock] at h
      obtain ⟨hshort, hbeside⟩ := journal_of_lockOf_free hjournal hlock
      have hwal := not_isTaken_of_blockage (f := .forWork p .delete) hpages rfl hblockage
      refine ⟨hshort, hbeside, hwal, ?_⟩
      cases h
      rw [← hdatabase]
      rfl

/-- Opening a path for work opens what its location names, and then sets the handle up. -/
theorem openPath_parts {busyTimeout : Nat} {h : Handle}
    (hopened : s.openPath path busyTimeout = (q, .ok h)) :
    ∃ t source, openSource { s with tree := s.makeParents path } path = .ok (t, source) ∧
      t.tune source busyTimeout = .ok (q, h) := by
  unfold openPath at hopened
  dsimp only at hopened
  split at hopened
  · cases hopened
  · next t source hsource =>
    split at hopened
    · cases hopened
    · next htune =>
      cases hopened
      exact ⟨t, source, hsource, htune⟩

/-- A start that succeeds opens the path and makes a pass behind the new handle. -/
theorem start_parts {clock : Clock} {busyTimeout : Nat} {verify : Bool} {h : Handle}
    {report : Report} (hstart : s.start clock path busyTimeout verify = (q, .ok (h, report))) :
    ∃ t new, s.openPath path busyTimeout = (t, .ok new) ∧
      t.work new (fun store => store.upgrade clock verify Registry.builtIn) =
        ((q, h), .ok report) := by
  unfold start at hstart
  split at hstart
  · cases hstart
  · next t new hopened =>
    refine ⟨t, new, hopened, ?_⟩
    dsimp only at hstart
    split at hstart
    · next hpass =>
      cases hstart
      exact Prod.ext rfl hpass
    · cases hstart

/-- The handle of a start that succeeds comes under its name. -/
theorem startAs_parts {name : String} {clock : Clock} {busyTimeout : Nat} {verify : Bool}
    {report : Report} (h : s.startAs name clock path busyTimeout verify = (q, .ok report)) :
    ∃ t handle, s.start clock path busyTimeout verify = (t, .ok (handle, report)) ∧
      q = t.put name handle := by
  unfold startAs at h
  split at h
  · next t handle _ hstart =>
    cases h
    exact ⟨t, handle, hstart, rfl⟩
  · cases h

/-- A literal path that is opened leads to a file that can be opened. -/
theorem openSource_parts (hliteral : Location.IsLiteral path) {source : Source}
    (hsource : s.openSource path = .ok (q, source)) :
    ∃ p tree, s.resolve? path = some p ∧ s.tree.openDatabase p .create = .ok tree ∧
      q = { s with tree } ∧ source = .file (.forWork p .delete) := by
  rw [openSource_eq hliteral] at hsource
  cases hresolve : s.resolve? path with
  | none =>
    rw [hresolve] at hsource
    cases hsource
  | some p =>
    rw [hresolve, Option.elim_some] at hsource
    cases hopened : s.tree.openDatabase p .create with
    | error e =>
      rw [hopened] at hsource
      cases hsource
    | ok tree =>
      rw [hopened] at hsource
      cases hsource
      exact ⟨p, tree, rfl, hopened, rfl, rfl⟩

/-- A handle that was set up on a file is on that file, and its connection saw what is there. -/
theorem tune_parts {busyTimeout : Nat} {h : Handle}
    (htune : s.tune (.file (.forWork p .delete)) busyTimeout = .ok (q, h)) :
    s.useWal (.forWork p .delete) = .ok q ∧ (∃ journal, h.source = .file (.forWork p journal)) ∧
      h.connection = .informed .new (q.tree.database p) := by
  unfold tune at htune
  dsimp only at htune
  cases hwal : s.useWal (.forWork p .delete) with
  | error e =>
    rw [hwal] at htune
    cases htune
  | ok t =>
    rw [hwal] at htune
    cases htune
    refine ⟨rfl, ?_, ?_⟩
    · unfold looked
      split
      · next f _ hf _ =>
        cases hf
        exact ⟨_, rfl⟩
      · exact ⟨_, rfl⟩
    · unfold looked
      split <;> rfl

/-- If a pass behind a handle does not fail as its writes begin, no directory is in the place of the
index of what is written ahead. -/
theorem not_isTaken_of_accessOf {h : Handle} {lock : WriteLock}
    (haccess : s.accessOf h = .opened lock) (hlock : ∀ e, lock ≠ .refused e) {journal : Journal}
    (hsource : h.source = .file (.forWork p journal)) (hjournal : s.tree.journal p = .wal) :
    s.tree.isTaken p "-shm" = false := by
  rw [Bool.eq_false_iff]
  intro htaken
  obtain ⟨e, he⟩ := lockOf_refused hjournal htaken journal
  unfold accessOf at haccess
  rw [hsource] at haccess
  dsimp only at haccess
  split at haccess
  · cases haccess
  · split at haccess
    · cases haccess
    · split at haccess
      · cases haccess
      · rw [he] at haccess
        cases haccess
        exact hlock e rfl

/-- What is missing can be created if it can be started. -/
theorem canCreate_of_start (hplain : Location.IsPlain path)
    (hmissing : ∀ p, resolve? { s with tree := s.makeParents path } path = some p →
      (s.makeParents path).find? p = none)
    {clock : Clock} {busyTimeout : Nat} {verify : Bool} {h : Handle} {report : Report}
    (hstart : s.start clock path busyTimeout verify = (q, .ok (h, report))) :
    ∃ p, s.CanCreate path p := by
  obtain ⟨t, new, hopened, hwork⟩ := start_parts hstart
  have hpass : ((t.storeOf new).upgrade clock verify Registry.builtIn).2 = .ok report :=
    congrArg Prod.snd hwork
  obtain ⟨u, source, hsource, htune⟩ := openPath_parts hopened
  obtain ⟨p, tree, hresolve, htree, rfl, rfl⟩ := openSource_parts hplain.isLiteral hsource
  have hfree := hmissing p hresolve
  have hp := FileTree.ne_nil_of_find?_eq_none hfree
  obtain ⟨hparent, hshort, rfl⟩ := FileTree.openDatabase_created hfree htree
  obtain ⟨hwal, ⟨journal, hfile⟩, hconnection⟩ := tune_parts htune
  obtain ⟨hjournalShort, hjournal, hahead, rfl⟩ := useWal_created (FileTree.find?_put_self hp) hwal
  dsimp only at hjournal hahead hconnection
  rw [FileTree.isTaken_put hp (by decide)] at hjournal hahead
  -- the pass got through, so its writes were not kept from beginning
  have hsaw : new.connection = .informed .new .empty := by
    rw [hconnection]
    unfold FileTree.database
    rw [FileTree.find?_put_self hp]
  obtain ⟨lock, haccess, hlock⟩ := Store.not_refused_of_upgrade hsaw hpass
  have hwritesAhead : (((s.makeParents path).put p (.file "")).put p
      (.database .empty .wal .empty)).journal p = .wal := by
    unfold FileTree.journal
    rw [FileTree.find?_put_self hp]
  have hindex := not_isTaken_of_accessOf haccess hlock hfile hwritesAhead
  dsimp only at hindex
  rw [FileTree.isTaken_put hp (by decide), FileTree.isTaken_put hp (by decide)] at hindex
  refine ⟨p, hplain, hresolve, hfree, hparent, hshort, hjournalShort, ?_⟩
  simp [hjournal, hahead, hindex]

/-- What is missing and can be created is opened as it is configured. -/
theorem connect_of_canCreate {c : Config} (hcreate : s.CanCreate c.databasePath p)
    (hhandles : s.handles = []) (name : String) (clock : Clock) :
    ∃ t, s.connect name clock c = (t, .ok ⟨[10, 11, 16], 16⟩) := by
  obtain ⟨q, handle, hstart, -⟩ :=
    start_first hcreate hhandles clock c.busyTimeout c.strictSchema
  refine ⟨q.put name handle, ?_⟩
  unfold connect startAs
  rw [hstart]

/-- **What can be opened.** A plain path at which nothing is can be opened if and only if it can be
started and then opened once more. -/
theorem canOpen_iff (hplain : Location.IsPlain path) (hhandles : s.handles = [])
    (hmissing : ∀ p, resolve? { s with tree := s.makeParents path } path = some p →
      (s.makeParents path).find? p = none)
    (clock : Clock) (busyTimeout again : Nat) (verify : Bool) :
    (∃ p, s.CanOpen path p) ↔
      ∃ t h report, s.start clock path busyTimeout verify = (t, .ok (h, report)) ∧
        ∃ u h', t.openPath path again = (u, .ok h') := by
  constructor
  · rintro ⟨p, hopen⟩
    obtain ⟨t, h, hstart, hattends, -⟩ :=
      start_first hopen.toCanCreate hhandles clock busyTimeout verify
    obtain ⟨h', hagain, -⟩ := hopen.openPath_again hattends.workingDirectory hattends.toHosts again
    exact ⟨t, h, _, hstart, t, h', hagain⟩
  · rintro ⟨t, h, report, hstart, u, h', hagain⟩
    obtain ⟨p, hcreate⟩ := canCreate_of_start hplain hmissing hstart
    obtain ⟨t', h'', hstart', hattends, -⟩ :=
      start_first hcreate hhandles clock busyTimeout verify
    rw [hstart] at hstart'
    cases hstart'
    obtain ⟨saved, htree⟩ := hattends.tree
    -- the second opening makes no directories, and finds the place of the file
    have hmade : t.makeParents path = t.tree :=
      hcreate.makeParents_again hattends.workingDirectory (by simp) htree
    obtain ⟨v, source, hsource, -⟩ := openPath_parts hagain
    obtain ⟨p', tree, hresolve, -⟩ := openSource_parts hplain.isLiteral hsource
    unfold resolve? at hresolve
    dsimp only at hresolve
    rw [hmade, htree, hattends.workingDirectory] at hresolve
    have hp := hcreate.room.ne_nil
    have hbefore := FileTree.resolve?_of_put hp (by simp) hresolve
    obtain rfl : p = p' := Option.some.inj (hcreate.leads.symm.trans hbefore)
    exact ⟨p, hcreate, FileTree.resolve?_put_file hp (by simp) (by simp) hresolve⟩

end Session

end DispatchStore
