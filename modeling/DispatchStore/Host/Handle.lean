import DispatchStore.Database.Connection
import DispatchStore.Host.FileTree

/-!
# Handles on databases

A handle has one connection to a database: in a file, in memory that it shares with other handles,
or of its own. It waits for a time when another one is writing, and it can hold the write lock
itself. How its database keeps changes it reports as it last saw it.
-/

namespace DispatchStore

/-- What a file held when it was opened, for a use that takes it for one that nobody changes. -/
structure Frozen where
  /-- How many pages it had. -/
  pages : Nat
  content : Database
deriving DecidableEq

/-- The use of a database file. -/
structure FileUse where
  path : Path
  /-- Whether the file is only read. -/
  readOnly : Bool
  /-- What the file held, if it is taken for one that nobody changes. -/
  frozen : Option Frozen
  /-- Whether other uses of the file are seen: their locks, and what they write ahead. -/
  sharing : Bool
  /-- How the database kept changes when it was last looked at. -/
  journal : Journal
deriving DecidableEq

/-- Whether the file is taken for one that nobody changes. -/
def FileUse.immutable (f : FileUse) : Bool := f.frozen.isSome

/-- Where the database of a handle is. -/
inductive Source where
  | file (use : FileUse)
  /-- In memory, under a name, and whether it can be written. -/
  | shared (name : String) (writable : Bool)
  /-- A database of its own, with the journal it reports, and whether it can be written. -/
  | own (db : Database) (journal : Journal) (writable : Bool)
deriving DecidableEq

/-- How carefully a database waits for the disk. -/
inductive Synchronous where
  | normal
  | full
deriving DecidableEq

/-- The settings that an open handle reports. -/
structure Settings where
  foreignKeys : Bool
  busyTimeout : Nat
  synchronous : Synchronous
  journal : Journal
deriving DecidableEq

/-- An open or closed handle on a database. -/
structure Handle where
  source : Source
  connection : Connection
  closed : Bool
  /-- Whether the handle holds the write lock, or the read lock if it only reads. -/
  locking : Bool
  /-- How long a write waits, in milliseconds. -/
  busyTimeout : Nat
  synchronous : Synchronous
deriving DecidableEq

namespace Handle

/-- A handle as the engine opens it. -/
def plain (source : Source) : Handle := ⟨source, .new, false, false, 5000, .full⟩

/-- The longest timeout that the engine keeps, in milliseconds. -/
def maxBusyTimeout : Nat := 2147483647

/-- The timeout that the engine keeps; one that is too long for it is none. -/
def keptTimeout (milliseconds : Nat) : Nat :=
  if milliseconds ≤ maxBusyTimeout then milliseconds else 0

/-- The handle set up for work.
Source: `configure_pragmas_conn`, specification §14 -/
def tuned (h : Handle) (busyTimeout : Nat) : Handle :=
  { h with busyTimeout := keptTimeout busyTimeout, synchronous := .normal }

/-- Whether the handle was opened for reading only. -/
def onlyReads (h : Handle) : Bool :=
  match h.source with
  | .file f => f.readOnly || f.immutable
  | .shared _ writable => !writable
  | .own _ _ writable => !writable

/-- The path of the file whose lock the handle holds. A file that nobody changes has none. -/
def lockedPath? (h : Handle) : Option Path :=
  match h.source with
  | .file f => if h.locking && f.sharing && !f.immutable then some f.path else none
  | _ => none

/-- The file whose changes the handle sees written ahead. -/
def aheadOf? (h : Handle) : Option FileUse :=
  match h.source with
  | .file f => if !h.closed && !f.immutable && f.journal = .wal then some f else none
  | _ => none

/-- Whether the file at a path is one that the handle keeps beside its database: what is written
ahead, or the index of that. -/
def keepsBeside (h : Handle) (p : Path) : Bool :=
  h.aheadOf?.any fun f => ["-wal", "-shm"].any fun ending => f.path.beside ending == p

/-- Whether the handle keeps the database alive that is in memory under a name. -/
def keeps (h : Handle) (name : String) : Bool :=
  match h.source with
  | .shared other _ => !h.closed && other == name
  | _ => false

/-- The journal that the handle reports. References between tables are always checked. -/
def journal (h : Handle) : Journal :=
  match h.source with
  | .file f => f.journal
  | .shared _ _ => .memory
  | .own _ journal _ => journal

/-- The settings that the handle reports. -/
def settings (h : Handle) : Settings := ⟨true, h.busyTimeout, h.synchronous, h.journal⟩

end Handle

end DispatchStore
