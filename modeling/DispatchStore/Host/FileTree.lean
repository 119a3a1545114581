import DispatchStore.Database.Basic
import DispatchStore.Host.Opening

/-!
# Files and directories

A file tree maps paths to directories, plain files and database files. A path is the list of names
from the root on. As text a path has its names between slashes; empty names and `.` say nothing and
`..` takes the last name away. The files that the engine puts beside a database are not in the tree,
but a directory in their place is, and gets in the way. What is written ahead into one of them comes
into the database file itself only later.
-/

namespace DispatchStore

/-- How a database keeps changes until they are complete. -/
inductive Journal where
  | delete
  | wal
  | memory
deriving DecidableEq

/-- What lies at a path. -/
inductive Entry where
  | directory
  | file (content : String)
  /-- A database with how it keeps changes, and what the file itself holds of it. -/
  | database (db : Database) (journal : Journal) (saved : Database)
deriving DecidableEq

/-- The names from the root to a file or directory. -/
abbrev Path := List String

namespace Path

/-- The longest name, in bytes. -/
def maxName : Nat := 255

/-- The longest path of a database file, in bytes. -/
def maxLength : Nat := 511

/-- The names in a written path that lead anywhere. -/
def names (s : String) : List String :=
  ((Text.splitAll '/' s.toList).map String.ofList).filter fun n => n ≠ "" && n ≠ "."

/-- Where a written path begins: at the root, or where the program runs. -/
def origin (workingDirectory : Path) (s : String) : Path :=
  if s.toList.head? = some '/' then [] else workingDirectory

/-- The path of a file beside another one, whose name goes on with the given ending. -/
def beside (p : Path) (ending : String) : Path := p.dropLast ++ [p.getLastD "" ++ ending]

/-- Whether the last name of a path is too long. -/
def isTooLong (p : Path) : Bool := maxName < (p.getLastD "").utf8ByteSize

/-- The path as text. -/
def text (p : Path) : String := "/" ++ "/".intercalate p

end Path

/-- Files and directories by path. The root is a directory without an entry. -/
structure FileTree where
  entries : List (Path × Entry)
deriving DecidableEq

namespace FileTree

/-- What lies at a path. -/
def find? (t : FileTree) (p : Path) : Option Entry :=
  if p = [] then some .directory else t.entries.lookup p

/-- The tree with an entry put at a path. -/
def put (t : FileTree) (p : Path) (e : Entry) : FileTree :=
  if (t.entries.lookup p).isSome then
    ⟨t.entries.map fun x => if x.1 = p then (p, e) else x⟩
  else ⟨t.entries ++ [(p, e)]⟩

/-- Whether a directory lies at a path. -/
def isDirectory (t : FileTree) (p : Path) : Bool := t.find? p = some .directory

/-- Whether something else than a directory lies at a path. -/
def isFile (t : FileTree) (p : Path) : Bool :=
  match t.find? p with
  | some e => e ≠ .directory
  | none => false

/-- The tree with the directories along the given names, as far as they can be made: what is no
directory, or a name that is too long, ends it. -/
def makeDirectories (t : FileTree) : Path → List String → FileTree
  | _, [] => t
  | here, name :: rest =>
    if name = ".." then t.makeDirectories here.dropLast rest
    else
      let next := here ++ [name]
      if t.isDirectory next then t.makeDirectories next rest
      else if t.isFile next || Path.maxName < name.utf8ByteSize then t
      else (t.put next .directory).makeDirectories next rest

/-- The path that names lead to. Names are taken one after the other without looking whether they
exist, but none can lie below a file. -/
def resolve? (t : FileTree) : Path → List String → Option Path
  | here, [] => some here
  | here, name :: rest =>
    if name = ".." then t.resolve? here.dropLast rest
    else if t.isFile here || Path.maxName < name.utf8ByteSize then none
    else t.resolve? (here ++ [name]) rest

/-- The tree with an open database file at a path. A missing one is created on demand in a directory
that exists. A directory can be opened for reading, but then it cannot be read. -/
def openDatabase (t : FileTree) (p : Path) (mode : FileMode) : Except EngineError FileTree :=
  if !t.isDirectory p.dropLast || Path.maxLength < (Path.text p).utf8ByteSize then
    .error .cannotOpen
  else match t.find? p with
    | some .directory => .error (if mode = .readOnly then .cannotRead else .cannotOpen)
    | some _ => .ok t
    | none => if mode = .create then .ok (t.put p (.file "")) else .error .cannotOpen

/-- The tree with a plain file, and the directories that lead to it. -/
def write (t : FileTree) (directory : Path) (names : List String) (content : String) : FileTree :=
  (t.makeDirectories directory names.dropLast).put (directory ++ names) (.file content)

/-! ## Database files -/

/-- Whether a database was written to the file at a path. -/
def isWritten (t : FileTree) (p : Path) : Bool :=
  match t.find? p with
  | some (.database _ _ _) => true
  | _ => false

/-- Whether the file at a path holds something else than a database. A file of at most one byte is
an empty database. -/
def isForeign (t : FileTree) (p : Path) : Bool :=
  match t.find? p with
  | some (.file content) => 1 < content.utf8ByteSize
  | _ => false

/-- Whether the file at a path is long enough to hold a page, be it of a database or not. -/
def hasPages (t : FileTree) (p : Path) : Bool := t.isWritten p || t.isForeign p

/-- The database in the file at a path. -/
def database (t : FileTree) (p : Path) : Database :=
  match t.find? p with
  | some (.database db _ _) => db
  | _ => .empty

/-- What the database file at a path holds itself. -/
def saved (t : FileTree) (p : Path) : Database :=
  match t.find? p with
  | some (.database _ _ saved) => saved
  | _ => .empty

/-- How many pages the file at a path has at least: the first one, and one for each table and
index. -/
def pageCount (t : FileTree) (p : Path) : Nat :=
  if t.isWritten p then
    (t.saved p).tables.foldl (fun n table => n + if table.indexed.isEmpty then 1 else 2) 1
  else 0

/-- How the database file at a path keeps changes. -/
def journal (t : FileTree) (p : Path) : Journal :=
  match t.find? p with
  | some (.database _ j _) => j
  | _ => .delete

/-- The tree with a database in the file at a path. What was never written stays so until there is
something to write. -/
def store (t : FileTree) (p : Path) (db : Database) : FileTree :=
  if t.isWritten p || db ≠ .empty then
    let journal := t.journal p
    t.put p (.database db journal (if journal = .wal then t.saved p else db))
  else t

/-- The tree with what was written ahead brought into the database file at a path. -/
def checkpoint (t : FileTree) (p : Path) : FileTree :=
  match t.find? p with
  | some (.database db journal _) => t.put p (.database db journal db)
  | _ => t

/-- Whether a directory lies where the engine looks for a file beside a database. -/
def isTaken (t : FileTree) (p : Path) (ending : String) : Bool := t.isDirectory (p.beside ending)

/-- The paths below a directory as texts, in ascending order. A directory ends with a slash. -/
def listing (t : FileTree) (directory : Path) : List String :=
  let below := t.entries.filterMap fun (p, e) =>
    if directory.isPrefixOf p && p ≠ directory then
      some ("/".intercalate (p.drop directory.length) ++ (if e = .directory then "/" else ""))
    else none
  below.mergeSort (· ≤ ·)

end FileTree

end DispatchStore
