import DispatchStore.Text.Ascii
import DispatchStore.Text.Blank
import DispatchStore.Decimal.Natural

/-!
# Configuration

Five environment variables say where the database is and how it is opened. Each is taken without
the blank characters around it. The path is looked at first, then the number of connections, the
timeout and the strictness, and the first one that is wrong is reported.
-/

namespace DispatchStore

/-- Values of environment variables by name. -/
abbrev Environment := String → Option String

/-- How the database is opened.
Source: `Config`, specification §18 -/
structure Config where
  /-- The path of the database file. -/
  databasePath : String
  /-- The most connections that are open at a time. -/
  maxConnections : Nat
  /-- How long a write waits for another connection, in milliseconds. -/
  busyTimeout : Nat
  /-- Whether the shapes of the tables are checked after every start. -/
  strictSchema : Bool
deriving DecidableEq

/-- What is wrong with the configuration.
Source: `ConfigError`, specification §18 -/
inductive ConfigError where
  | blankPath
  | badMaxConnections
  | badBusyTimeout
  /-- The setting, trimmed and in lower case. -/
  | badStrictSchema (setting : String)
deriving DecidableEq

namespace ConfigError

/-- The variable that holds the wrong value. -/
def key : ConfigError → String
  | blankPath => "TRETA_DB_PATH"
  | badMaxConnections => "DB_MAX_CONNECTIONS"
  | badBusyTimeout => "DB_BUSY_TIMEOUT_MS"
  | badStrictSchema _ => "STRICT_SCHEMA"

/-- What the value has to be. -/
def detail : ConfigError → String
  | blankPath => "must not be empty"
  | badMaxConnections => "must be a positive integer"
  | badBusyTimeout => "must be a valid u64"
  | badStrictSchema setting => "must be true, false, 1, or 0, got " ++ setting

/-- The text of the error. -/
def message (e : ConfigError) : String := "Invalid value for " ++ e.key ++ ": " ++ e.detail

end ConfigError

namespace Config

/-- The directory of the database if no variable names one. -/
def defaultDirectory : String := "./.treta_data"

/-- The number of connections if no variable gives it. -/
def defaultMaxConnections : Nat := 5

/-- The timeout if no variable gives it, in milliseconds. -/
def defaultBusyTimeout : Nat := 5000

/-- The largest number of connections. -/
def maxConnectionsBound : Nat := UInt32.size - 1

/-- The longest timeout, in milliseconds. -/
def busyTimeoutBound : Nat := UInt64.size - 1

/-- The path of `name` in a directory. -/
def joinPath (directory name : String) : String :=
  if directory.endsWith "/" then directory ++ name else directory ++ "/" ++ name

/-- The path of the database: the one that is given, or a fixed name in the data directory. A blank
directory counts as none, a blank path is an error.
Source: `resolve_database_path`, specification §18 -/
def readDatabasePath (env : Environment) : Except ConfigError String :=
  match env "TRETA_DB_PATH" with
  | some path => if Text.isBlankText path then .error .blankPath else .ok (Text.trim path)
  | none =>
    let directory := match env "TRETA_DATA_DIR" with
      | some d => if Text.isBlankText d then defaultDirectory else Text.trim d
      | none => defaultDirectory
    .ok (joinPath (joinPath directory "memory") "treta.sqlite")

/-- The number of connections, which is not zero.
Source: `DB_MAX_CONNECTIONS`, specification §18 -/
def readMaxConnections (env : Environment) : Except ConfigError Nat :=
  match env "DB_MAX_CONNECTIONS" with
  | none => .ok defaultMaxConnections
  | some raw =>
    match Decimal.readBounded? maxConnectionsBound (Text.trim raw) with
    | some n => if 0 < n then .ok n else .error .badMaxConnections
    | none => .error .badMaxConnections

/-- The timeout.
Source: `DB_BUSY_TIMEOUT_MS`, specification §18 -/
def readBusyTimeout (env : Environment) : Except ConfigError Nat :=
  match env "DB_BUSY_TIMEOUT_MS" with
  | none => .ok defaultBusyTimeout
  | some raw =>
    match Decimal.readBounded? busyTimeoutBound (Text.trim raw) with
    | some n => .ok n
    | none => .error .badBusyTimeout

/-- The strictness, as a word or a digit.
Source: `STRICT_SCHEMA`, specification §18 -/
def readStrictSchema (env : Environment) : Except ConfigError Bool :=
  match env "STRICT_SCHEMA" with
  | none => .ok false
  | some raw =>
    let setting := Text.lower (Text.trim raw)
    if setting = "true" || setting = "1" then .ok true
    else if setting = "false" || setting = "0" then .ok false
    else .error (.badStrictSchema setting)

/-- The configuration that the environment gives.
Source: `from_env_map`, specification §18 -/
def read (env : Environment) : Except ConfigError Config := do
  let databasePath ← readDatabasePath env
  let maxConnections ← readMaxConnections env
  let busyTimeout ← readBusyTimeout env
  let strictSchema ← readStrictSchema env
  return ⟨databasePath, maxConnections, busyTimeout, strictSchema⟩

end Config

end DispatchStore
