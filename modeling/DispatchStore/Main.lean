import Std.Time.DateTime.Timestamp
import DispatchStore.Host.Command
import DispatchStore.Host.Snapshot

/-!
# The program

Looks at the part of the disk that the configured path leads to, runs the command on it, and writes
back what the command made.
-/

namespace DispatchStore.Program

/-- The variables that the program reads. -/
def variableNames : List String :=
  ["TRETA_DB_PATH", "TRETA_DATA_DIR", "DB_MAX_CONNECTIONS", "DB_BUSY_TIMEOUT_MS", "STRICT_SCHEMA"]

/-- The environment of the process. -/
def environment : IO Environment := do
  let values ← variableNames.filterMapM fun name => do
    return (← IO.getEnv name).map fun value => (name, value)
  return fun name => values.lookup name

/-- The present, if the clock shows a time that can be written. -/
def present? : IO (Option Timestamp) := do
  return Timestamp.ofEpochMillis? (← Std.Time.Timestamp.now).toMillisecondsSinceUnixEpoch.val

/-- The tree with what is on the disk at a path. -/
def look (t : FileTree) (p : Path) : IO FileTree := do
  let place := (← IO.currentDir) / Path.text p
  if ← place.isDir then return t.put p .directory
  if ← place.pathExists then return t.put p (.ofContent (← IO.FS.readFile place))
  return t

/-- The tree with what is on the disk along the given names. -/
def survey (t : FileTree) (p : Path) : IO FileTree :=
  (List.range p.length).foldlM (fun t n => look t (p.take (n + 1))) t

/-- Writes a file or makes a directory. -/
def write (p : Path) (e : Entry) : IO Unit := do
  let place := (← IO.currentDir) / Path.text p
  match e.content? with
  | none => IO.FS.createDirAll place
  | some content => IO.FS.writeFile place content

/-- The session with the part of the disk that a configured path leads to. -/
def session (path : String) : IO Session := do
  let here := Path.names (← IO.currentDir).toString
  let empty : Session := ⟨⟨[]⟩, here, [], []⟩
  let written := Path.origin here path ++ Path.names path
  let tree ← survey (← survey empty.tree here) written
  let opened := ({ empty with tree } : Session).fileOf? path
  return { empty with tree := ← survey tree (opened.getD []) }

/-- Writes back what a run changed. -/
def writeBack (before after : FileTree) : IO Unit :=
  for (p, e) in after.entries do
    unless before.find? p = some e do write p e

/-- Shows a result, and gives the exit status of the process. -/
def finish (result : CommandResult) : IO UInt32 := do
  IO.eprint result.errorOutput
  if let some line := result.report then IO.println line
  return UInt32.ofNat result.exitCode

/-- Runs the command. A disk that cannot be written counts as a file that cannot be opened. -/
def run : IO UInt32 := do
  let env ← environment
  let some now ← present? | throw (IO.userError "the clock is out of range")
  let path := ((Config.read env).toOption.map Config.databasePath).getD ""
  let before ← session path
  let (after, result) := before.runCommand (fun _ => now) env
  match ← (writeBack before.tree after.tree).toBaseIO with
  | .ok () => finish result
  | .error _ => finish (.failure (.migration (.database (.engine .cannotOpen))))

end DispatchStore.Program

/-- The program. -/
def main : IO UInt32 := DispatchStore.Program.run
