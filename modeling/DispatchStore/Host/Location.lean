import DispatchStore.Text.Percent
import DispatchStore.Database.Fault

/-!
# Where a database is

The path of a database is written into a location, `sqlite:path?mode=rwc`, without any escaping, and
the location is read back: everything behind the first question mark are parameters, and what is
percent-encoded before it is decoded. So a path that holds such characters names another file than
the one it spells, or no location at all. What a location says is passed on to the engine as one
name, to which some parameters are appended, again without any escaping.
-/

namespace DispatchStore

/-- A location that was read. -/
structure Location where
  /-- The name of the database. -/
  name : String
  /-- Whether the database is only read. -/
  readOnly : Bool
  /-- Whether a file that is missing is created. -/
  create : Bool
  inMemory : Bool
  /-- Whether a database in memory is shared with others of its name. -/
  shared : Bool
  /-- Whether the file is taken for one that nobody changes. -/
  immutable : Bool
  /-- The file system that is asked for by name. -/
  fileSystem : Option String
deriving DecidableEq

namespace Location

/-- The name that stands for a database in memory. -/
def memoryName : String := ":memory:"

/-- The location of a path, as text.
Source: `open_pool` -/
def ofPath (path : String) : String := "sqlite:" ++ path ++ "?mode=rwc"

/-- A list without the given beginning, taken away as often as it is there. -/
def dropRepeated {α : Type} [DecidableEq α] (start : List α) (l : List α) : List α :=
  if h : start ≠ [] ∧ start.isPrefixOf l then
    have : l.length - start.length < l.length := by
      have := List.length_pos_iff.2 h.1
      have := (List.isPrefixOf_iff_prefix.1 h.2).length_le
      omega
    dropRepeated start (l.drop start.length)
  else l
termination_by l.length

/-- The location without parameters that a name is. -/
def ofName (name : String) : Location := ⟨name, false, false, false, false, false, none⟩

/-- The name that the part before the parameters says. -/
def readName (name : String) : Except Fault String :=
  match Text.ofUtf8 (Text.percentDecode (Text.utf8 name)) with
  | .error e => .error (.location (.notUtf8 e.index e.length))
  | .ok decoded => .ok decoded

/-- Takes over one parameter. -/
def withParameter (l : Location) (key value : String) : Except LocationError Location :=
  if key = "mode" then
    if value = "ro" then .ok { l with readOnly := true }
    else if value = "rw" then .ok l
    else if value = "rwc" then .ok { l with create := true }
    else if value = "memory" then .ok { l with inMemory := true, shared := true }
    else .error (.unknownValue key value)
  else if key = "cache" then
    if value = "private" then .ok { l with shared := false }
    else if value = "shared" then .ok { l with shared := true }
    else .error (.unknownValue key value)
  else if key = "immutable" then
    if value = "true" || value = "1" then .ok { l with immutable := true }
    else if value = "false" || value = "0" then .ok { l with immutable := false }
    else .error (.unknownValue key value)
  else if key = "vfs" then .ok { l with fileSystem := some value }
  else .error (.unknownParameter key)

/-- Reads a location. -/
def read (s : String) : Except Fault Location := do
  let cs := dropRepeated "sqlite:".toList (dropRepeated "sqlite://".toList s.toList)
  let (name, parameters) := Text.splitFirst '?' cs
  let name ← readName (String.ofList name)
  let pairs := (parameters.elim [] fun p => Text.formPairs (String.ofList p))
  (pairs.foldlM (fun (l : Location) p => l.withParameter p.1 p.2) (ofName name)).mapError .location

/-- The name that the engine is given. -/
def engineName (l : Location) : String :=
  let parameters := (if l.immutable then ["immutable=true"] else []) ++
    (l.fileSystem.map ("vfs=" ++ ·)).toList
  if parameters.isEmpty then l.name
  else "file:" ++ l.name ++ "?" ++ "&".intercalate parameters

end Location

end DispatchStore
