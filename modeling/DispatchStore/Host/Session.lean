import DispatchStore.Config
import DispatchStore.Host.Handle
import DispatchStore.Store.Migrations

/-!
# Sessions

A session has a file tree and named handles on databases, some of them on one file. Opening a
database by its path first makes the directories that lead there, as far as that is possible, and
then opens what the location of the path names. A handle that is opened for work uses the
write-ahead journal; then its schema is brought up to date. A name goes over to the new handle only
if all of that succeeds, but what was done to files stays.

A handle may hold the write lock of its database. Then every write to that database fails, on
whichever handle, until the lock is let go. A handle that only reads may hold on to what is there;
then no change can be saved unless it is written ahead.
-/

namespace DispatchStore

/-- A file tree and the handles on databases by name. -/
structure Session where
  tree : FileTree
  /-- Where relative paths begin. -/
  workingDirectory : Path
  /-- The databases in memory that handles share, by name. -/
  shared : List (String × Database)
  handles : List (String × Handle)
deriving DecidableEq

namespace Session

/-- The handle with the given name. -/
def find? (s : Session) (name : String) : Option Handle := s.handles.lookup name

/-- The session without the databases in memory that no handle keeps alive. -/
def settled (s : Session) : Session :=
  { s with shared := s.shared.filter fun d => s.handles.any fun h => h.2.keeps d.1 }

/-- The session after a handle is gone. What was written ahead comes into the file when the last
handle that could write there goes. -/
def released (s : Session) (h : Handle) : Session :=
  match h.aheadOf? with
  | some f =>
    if f.readOnly || s.handles.any fun x => x.2.aheadOf?.any fun g => g.path == f.path then s
    else { s with tree := s.tree.checkpoint f.path }
  | none => s.settled

/-- The session with a handle under the given name, in place of the one that had it. -/
def put (s : Session) (name : String) (h : Handle) : Session :=
  let others := { s with handles := (name, h) :: s.handles.filter fun x => x.1 ≠ name }
  (s.find? name).elim others others.released

/-! ## Access -/

/-- Whether a handle holds the write lock of a file. -/
def isLocked (s : Session) (p : Path) : Bool :=
  s.handles.any fun x => x.2.lockedPath? == some p && !x.2.onlyReads

/-- Whether a handle that only reads holds on to a file. -/
def isHeld (s : Session) (p : Path) : Bool :=
  s.handles.any fun x => x.2.lockedPath? == some p && x.2.onlyReads

/-- How a file keeps changes, as its use sees it. -/
def journalOf (s : Session) (f : FileUse) : Journal :=
  if f.immutable then .delete else s.tree.journal f.path

/-- Whether the file at a path is one that the engine keeps beside a database. -/
def isBeside (s : Session) (p : Path) : Bool := s.handles.any fun x => x.2.keepsBeside p

/-- What keeps the use of a file from looking at it: a directory in the place of one of the files
beside it, a content that is no database, or what others write ahead and it cannot see. -/
def blockage? (s : Session) (f : FileUse) : Option EngineError :=
  let t := s.tree
  let beside := fun (ending : String) => !f.immutable && t.isTaken f.path ending
  if beside "-journal" && t.hasPages f.path && f.journal ≠ .wal then some .cannotRead
  else if beside "-wal" then some (if t.hasPages f.path then .cannotOpen else .cannotRemove)
  else if t.isForeign f.path || s.isBeside f.path then some .notADatabase
  else if s.journalOf f = .wal && !f.sharing then some .cannotOpen
  else none

/-- What keeps the use of a file from writing. -/
def lockOf (s : Session) (f : FileUse) : WriteLock :=
  if f.readOnly || f.immutable then .refused .readOnly
  else if f.sharing && s.isLocked f.path then .heldElsewhere
  else if s.journalOf f = .wal then
    if s.tree.isTaken f.path "-shm" then .refused .readOnly else .free
  else if s.tree.isTaken f.path "-journal" || (f.path.beside "-journal").isTooLong then
    .unsaved .cannotOpen
  else if f.sharing && s.isHeld f.path then .unfinished .locked
  else .free

/-- Whether a file that was taken for one that nobody changes has got more pages, before the handle
looked at it. -/
def isOutgrown (s : Session) (h : Handle) : Bool :=
  match h.source with
  | .file f => f.frozen.any fun frozen =>
      h.connection.known.isNone && 0 < frozen.pages && frozen.pages < s.tree.pageCount f.path
  | _ => false

/-- The database in a file, as its use sees it. What is taken for unchanging is read when it is
looked at for the first time, if there is anything to read. -/
def databaseIn (s : Session) (f : FileUse) (known : Bool) : Database :=
  match f.frozen with
  | none => s.tree.database f.path
  | some frozen => if known || frozen.pages = 0 then frozen.content else s.tree.saved f.path

/-- The access of a handle to its database. -/
def accessOf (s : Session) (h : Handle) : Access :=
  if h.closed then .closed
  else match h.source with
    | .file f => match s.blockage? f with
      | some e => .blocked e
      | none => if s.isOutgrown h then .blocked .malformed else .opened (s.lockOf f)
    | _ => .opened (if h.onlyReads then .refused .readOnly
        else if h.locking then .heldElsewhere else .free)

/-- The database of a handle. -/
def databaseOf (s : Session) (h : Handle) : Database :=
  match h.source with
  | .file f => s.databaseIn f h.connection.known.isSome
  | .shared name _ => (s.shared.lookup name).getD .empty
  | .own db _ _ => db

/-! ## Using a handle -/

/-- The store behind a handle. -/
def storeOf (s : Session) (h : Handle) : Store := ⟨s.databaseOf h, s.accessOf h, h.connection⟩

/-- The session with the database of a handle changed. -/
def withDatabase (s : Session) (h : Handle) (db : Database) : Session × Handle :=
  match h.source with
  | .own _ journal writable => (s, { h with source := .own db journal writable })
  | .shared name _ =>
    ({ s with shared := (name, db) :: s.shared.filter fun d => d.1 ≠ name }, h)
  | .file f =>
    if let some frozen := f.frozen then
      let frozen := if frozen.pages = 0 then frozen else { frozen with content := db }
      (s, { h with source := .file { f with frozen } })
    else ({ s with tree := s.tree.store f.path db }, h)

/-- The handle after it looked at its database. -/
def looked (s : Session) (h : Handle) : Handle :=
  match h.source, s.accessOf h with
  | .file f, .opened _ => { h with source := .file { f with journal := s.journalOf f } }
  | _, _ => h

/-- The session and the handle after the store behind it changed. -/
def withStore (s : Session) (h : Handle) (store : Store) : Session × Handle :=
  let (s, h) := s.withDatabase { h with connection := store.connection } store.database
  (s, { s.looked h with closed := h.closed || store.access == Access.closed })

/-- Does something with the store behind a handle. -/
def work {α : Type} (s : Session) (h : Handle) (f : Store → Store × α) : (Session × Handle) × α :=
  let (store, a) := f (s.storeOf h)
  (s.withStore h store, a)

/-- Does something with the store of the given name, if there is one. -/
def use {α : Type} (s : Session) (name : String) (f : Store → Store × α) : Option (Session × α) :=
  (s.find? name).map fun h =>
    let ((s, h), a) := s.work h f
    (s.put name h, a)

/-- The settings that the handle of the given name reports. Only a connection that has never looked
at the schema does so now. -/
def settings (s : Session) (name : String) : Option (Session × Except Fault Settings) :=
  (s.find? name).map fun h =>
    if h.closed then (s, .error .poolClosed)
    else if h.connection.known.isSome then (s, .ok h.settings)
    else
      let ((s, h), result) := s.work h fun store => store.inspect fun _ => ()
      (s.put name h, result.map fun _ => h.settings)

/-! ## Opening -/

/-- The tree with the directories that lead to a path. None is made if one has a null character in
its name. -/
def makeParents (s : Session) (path : String) : FileTree :=
  let parents := (Path.names path).dropLast
  if parents.any fun name => name.toList.contains '\x00' then s.tree
  else s.tree.makeDirectories (Path.origin s.workingDirectory path) parents

/-- The path of the file with the given name. -/
def resolve? (s : Session) (name : String) : Option Path :=
  s.tree.resolve? (Path.origin s.workingDirectory name) (Path.names name)

/-- Whether the option of an opening that names a file for its permissions names none that is
there. -/
def lacksModel (s : Session) (o : Opening) : Bool :=
  match o.options.lookup "modeof" with
  | some name => name.isEmpty || ((s.resolve? name).bind s.tree.find?).isNone
  | none => false

/-- The file that the location of a path names, if it names one. -/
def fileOf? (s : Session) (path : String) : Option Path := do
  let l ← (Location.read (Location.ofPath path)).toOption
  let o ← (Opening.ofLocation l).toOption
  let fs ← o.fileSystem?.toOption
  match o.place fs with
  | .file name => s.resolve? name
  | _ => none

/-- Opens a database. -/
def openAs (s : Session) (o : Opening) : Except EngineError (Session × Source) := do
  let fs ← o.fileSystem?
  let writable := o.mode ≠ .readOnly
  match o.place fs with
  | .memory none => return (s, .own .empty .memory writable)
  | .memory (some name) =>
    let other := s.handles.find? fun h => h.2.keeps name
    return (s, .shared name (other.elim writable fun h => !h.2.onlyReads))
  | .memoryFile none => return (s, .own .empty .memory (writable && !o.immutable))
  | .memoryFile (some name) => return (s, .shared name (writable && !o.immutable))
  | .temporary => return (s, .own .empty .delete writable)
  | .file name =>
    match s.resolve? name with
    | none => throw .cannotOpen
    | some p =>
      if s.lacksModel o then throw .noModel
      let tree ← s.tree.openDatabase p o.mode
      let frozen := if o.immutable then some ⟨tree.pageCount p, tree.saved p⟩ else none
      let use : FileUse := ⟨p, !writable, frozen, fs.sharing && !o.affirms "nolock", .delete⟩
      return ({ s with tree }, .file use)

/-- Opens the database that the location of a path names. -/
def openSource (s : Session) (path : String) : Except Fault (Session × Source) := do
  let o ← Opening.ofLocation (← Location.read (Location.ofPath path))
  (s.openAs o).mapError .engine

/-- Turns the write-ahead journal of a database file on where it can be used. -/
def useWal (s : Session) (f : FileUse) : Except EngineError Session :=
  match s.blockage? f with
  | some e => .error e
  | none =>
    if f.immutable || !f.sharing || s.tree.journal f.path = .wal then .ok s
    else match s.lockOf f with
      | .free =>
        let db := s.tree.database f.path
        .ok { s with tree := s.tree.put f.path (.database db .wal db) }
      | .refused e => .error e
      | .unsaved e => .error e
      | .unfinished e => .error e

/-- Sets a handle up for work. In memory there is no write-ahead journal.
Source: `configure_pragmas_conn`, specification §14 -/
def tune (s : Session) (source : Source) (busyTimeout : Nat) :
    Except Fault (Session × Handle) := do
  let s ← match source with
    | .file f => (s.useWal f).mapError .engine
    | _ => pure s
  let h := (Handle.plain source).tuned busyTimeout
  return (s, s.looked { h with connection := h.connection.informed (s.databaseOf h) })

/-- Opens the database of a path for work: first the directories, then the file, then its settings.
What was made stays if a later part fails.
Source: `open_pool`, specification §14 -/
def openPath (s : Session) (path : String) (busyTimeout : Nat) :
    Session × Except Fault Handle :=
  let s := { s with tree := s.makeParents path }
  match s.openSource path with
  | .error fault => (s, .error fault)
  | .ok (s, source) =>
    match s.tune source busyTimeout with
    | .error fault => (s, .error fault)
    | .ok (s, h) => (s, .ok h)

/-- Opens a database and brings its schema up to date. The handle has no name yet. -/
def start (s : Session) (clock : Clock) (path : String) (busyTimeout : Nat) (verify : Bool) :
    Session × Except MigrationError (Handle × Report) :=
  match s.openPath path busyTimeout with
  | (s, .error fault) => (s, .error (.database fault))
  | (s, .ok h) =>
    let ((s, h), result) := s.work h fun store => store.upgrade clock verify Registry.builtIn
    match result with
    | .ok report => (s, .ok (h, report))
    | .error e => (s.released h, .error e)

/-- Opens a database under a name if that succeeds. -/
def startAs (s : Session) (name : String) (clock : Clock) (path : String) (busyTimeout : Nat)
    (verify : Bool) : Session × Except MigrationError Report :=
  match s.start clock path busyTimeout verify with
  | (s, .ok (h, report)) => (s.put name h, .ok report)
  | (s, .error e) => (s, .error e)

/-- Opens the configured database under a name.
Source: `connect`, specification §14 -/
def connect (s : Session) (name : String) (clock : Clock) (c : Config) :
    Session × Except MigrationError Report :=
  s.startAs name clock c.databasePath c.busyTimeout c.strictSchema

/-- Opens the database of a path under a name with the default settings.
Source: `init_db`, specification §14 -/
def connectDefault (s : Session) (name : String) (clock : Clock) (path : String) :
    Session × Except MigrationError Report :=
  s.startAs name clock path Config.defaultBusyTimeout false

/-- Opens an empty database in memory under a name. -/
def openMemory (s : Session) (name : String) : Session :=
  s.put name (.plain (.own .empty .memory true))

/-- Opens the database of a path under a name and does nothing with it. Directories are not made. -/
def openRaw (s : Session) (name path : String) : Session × Except Fault Unit :=
  match s.openSource path with
  | .ok (s, source) => (s.put name (.plain source), .ok ())
  | .error fault => (s, .error fault)

/-! ## Locks -/

/-- Takes the write lock of the database of a handle, or the read lock if the handle only reads. -/
def lock (s : Session) (name : String) : Option (Session × Except Fault Unit) :=
  (s.find? name).map fun h =>
    match s.accessOf h with
    | .closed => (s, .error .poolClosed)
    | .blocked e => (s, .error (.engine e))
    | .opened (.refused e) =>
      if h.onlyReads then (s.put name { h with locking := true }, .ok ())
      else (s, .error (.engine e))
    | .opened _ => (s.put name { s.looked h with locking := true }, .ok ())

/-- Lets the write lock go. -/
def unlock (s : Session) (name : String) : Option Session :=
  (s.find? name).map fun h => s.put name { h with locking := false }

/-- Closes the handle with the given name, which lets its lock go. -/
def close (s : Session) (name : String) : Option Session :=
  (s.find? name).map fun h => s.put name { h with closed := true, locking := false }

end Session

end DispatchStore
