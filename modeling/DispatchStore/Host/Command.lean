import DispatchStore.Host.Session
import DispatchStore.Store.Error

/-!
# The command

The program reads its configuration from the environment, brings the schema of the configured
database up to date, reports what it did and ends. If that fails it writes the error and ends with
status one.
-/

namespace DispatchStore

/-- What a run of the command shows. -/
structure CommandResult where
  exitCode : Nat
  /-- What goes to the error output. -/
  errorOutput : String
  /-- What the run did, if it succeeded. -/
  report : Option String
deriving DecidableEq

namespace Report

/-- A report as a line about the database at a path.
Source: the closing log line, specification §19 -/
def line (r : Report) (path : String) : String :=
  "path=" ++ path ++ " current_version=" ++ toString r.currentVersion ++
    " applied=[" ++ ", ".intercalate (r.applied.map toString) ++ "]"

end Report

namespace CommandResult

/-- A run that failed. -/
def failure (e : StoreError) : CommandResult := ⟨1, e.message ++ "\n", none⟩

end CommandResult

/-- Runs the command. The handle on the database is gone afterwards.
Source: `main`, specification §19 -/
def Session.runCommand (s : Session) (clock : Clock) (env : Environment) :
    Session × CommandResult :=
  match Config.read env with
  | .error e => (s, .failure (.config e))
  | .ok c =>
    match s.start clock c.databasePath c.busyTimeout c.strictSchema with
    | (s, .error e) => (s, .failure (.migration e))
    | (s, .ok (h, report)) =>
      (s.released h, ⟨0, "", some (report.line c.databasePath)⟩)

end DispatchStore
