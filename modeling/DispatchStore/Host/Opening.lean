import DispatchStore.Decimal.Natural
import DispatchStore.Host.Location
import DispatchStore.Text.Ascii

/-!
# How a database is opened

The engine takes a name that begins with `file:` apart once more: an authority, which may only be
the machine itself, a path, and behind a question mark options between ampersands, up to a number
sign. All parts may be percent-encoded, and an encoded null character ends its part. Every other
name is a path. Without a path the database lives in a file without a name, and with a file system
or an option that says so it lives in memory.
-/

namespace DispatchStore

/-- What may be done with the file of a database. -/
inductive FileMode where
  | readOnly
  | readWrite
  /-- Reading, writing and creating it if it is missing. -/
  | create
deriving DecidableEq

namespace FileMode

/-- A number that grows with what may be done. -/
def rank : FileMode → Nat
  | readOnly => 0
  | readWrite => 1
  | create => 2

end FileMode

/-- A file system of the engine. -/
structure FileSystem where
  inMemory : Bool
  /-- Whether connections can share memory and see each other's locks. -/
  sharing : Bool
deriving DecidableEq

/-- The file system with the given name. -/
def FileSystem.named? (name : String) : Option FileSystem :=
  if name = "unix" || name = "unix-excl" then some ⟨false, true⟩
  else if name = "unix-none" || name = "unix-dotfile" then some ⟨false, false⟩
  else if name = "memdb" then some ⟨true, false⟩
  else none

/-- What a database is opened by. -/
structure Opening where
  path : String
  mode : FileMode
  inMemory : Bool
  shared : Bool
  fileSystem : String
  /-- All options, as they were written. -/
  options : List (String × String)
deriving DecidableEq

/-- Where a database is opened. -/
inductive Place where
  | file (path : String)
  /-- In memory; one with a name can be opened again. -/
  | memory (name : Option String)
  /-- In a file that is kept in memory. -/
  | memoryFile (name : Option String)
  /-- In a file without a name, which nobody else can open. -/
  | temporary
deriving DecidableEq

namespace Opening

/-- The start of a name that is taken apart. -/
def scheme : String := "file:"

/-- Takes over one option. An option of another name is kept, but says nothing here. -/
def withOption (o : Opening) (key value : String) : Except EngineError Opening :=
  let o := { o with options := o.options ++ [(key, value)] }
  let withMode := fun (mode : FileMode) =>
    if !o.inMemory && o.mode.rank < mode.rank then .error (.modeNotAllowed value)
    else .ok { o with mode, inMemory := false }
  if key = "vfs" then .ok { o with fileSystem := value }
  else if key = "cache" then
    if value = "shared" then .ok { o with shared := true }
    else if value = "private" then .ok { o with shared := false }
    else .error (.noSuchMode "cache" value)
  else if key = "mode" then
    if value = "ro" then withMode .readOnly
    else if value = "rw" then withMode .readWrite
    else if value = "rwc" then withMode .create
    else if value = "memory" then .ok { o with mode := .create, inMemory := true }
    else .error (.noSuchMode "access" value)
  else .ok o

/-- The bytes that a part of a name stands for, up to an encoded null character. -/
def decodePart (bytes : List UInt8) : String :=
  Text.ofUtf8Lossy ((Text.percentDecode bytes).takeWhile (· ≠ 0))

/-- The options that the part behind the question mark writes. Those without a name are left out. -/
def readOptions (bytes : List UInt8) : List (String × String) :=
  let pairs := (Text.splitAll 0x26 bytes).map fun part =>
    let (key, value) := Text.splitFirst 0x3D part
    (decodePart key, decodePart (value.getD []))
  pairs.filter fun p => !p.1.isEmpty

/-- The rest of a name behind its authority. -/
def behindAuthority (bytes : List UInt8) : Except EngineError (List UInt8) :=
  match bytes with
  | 0x2F :: 0x2F :: rest =>
    let authority := Text.ofUtf8Lossy (rest.takeWhile (· ≠ 0x2F))
    if authority.isEmpty || authority = "localhost" then .ok (rest.dropWhile (· ≠ 0x2F))
    else .error (.invalidAuthority authority)
  | _ => .ok bytes

/-- Takes a name apart, behind its start. -/
def readName (o : Opening) (name : List UInt8) : Except EngineError Opening := do
  let bytes := (← behindAuthority name).takeWhile (· ≠ 0x23)
  let (path, options) := Text.splitFirst 0x3F bytes
  (readOptions (options.getD [])).foldlM (fun (o : Opening) p => o.withOption p.1 p.2)
    { o with path := decodePart path }

/-- How the database at a location is opened. -/
def ofLocation (l : Location) : Except Fault Opening :=
  let name := l.engineName
  let mode : FileMode :=
    if l.readOnly then .readOnly else if l.create then .create else .readWrite
  let o : Opening := ⟨name, mode, l.inMemory, false, "unix", []⟩
  let bytes := Text.utf8 name
  let start := Text.utf8 scheme
  if name.toList.contains '\x00' then .error .nulInName
  else if start.isPrefixOf bytes then
    (readName { o with shared := l.shared } (bytes.drop start.length)).mapError .engine
  else .ok o

/-- Whether the words of an option say yes. Only the first option of the name counts. -/
def affirms (o : Opening) (key : String) : Bool :=
  match o.options.lookup key with
  | none => false
  | some value =>
    match value.toList.takeWhile Char.isDigit with
    | [] => ["on", "yes", "true"].contains (Text.lower value)
    | digits => Decimal.ofDigits digits % 256 ≠ 0

/-- The file system of an opening. -/
def fileSystem? (o : Opening) : Except EngineError FileSystem :=
  match FileSystem.named? o.fileSystem with
  | some fs => .ok fs
  | none => .error (.noSuchFileSystem o.fileSystem)

/-- Whether the database is taken for one that nobody changes. -/
def immutable (o : Opening) : Bool := o.affirms "immutable"

/-- Where the database is opened. -/
def place (o : Opening) (fs : FileSystem) : Place :=
  if o.inMemory || o.path = Location.memoryName then
    .memory (if o.shared && !o.path.isEmpty then some o.path else none)
  else if o.path.isEmpty then .temporary
  else if fs.inMemory then
    .memoryFile (if o.path.toList.head? = some '/' && 1 < o.path.length then some o.path else none)
  else .file o.path

end Opening

end DispatchStore
