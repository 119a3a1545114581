import DispatchStore.Text.Quoted

/-!
# What can go wrong with a database

The database engine refuses a statement with a code and a text. Besides that a pool can be closed,
the place of the database can be written wrongly, and a value that was read can have another type
than the one that is asked for.
-/

namespace DispatchStore

/-- Why the engine refuses a statement. -/
inductive EngineError where
  | noSuchTable (table : String)
  | noSuchColumn (column : String)
  /-- A row is to be inserted with a column that the table does not have. -/
  | unknownColumn (table column : String)
  | tableExists (table : String)
  | nameTaken (name : String)
  | reservedName (name : String)
  | duplicateColumn (column : String)
  /-- A table of the engine itself is to be changed; the participle says how. -/
  | mayNotBe (table participle : String)
  | viewAltered
  | cannotAddKey
  | cannotAddRequired
  /-- A statement cannot go on with the given piece of text. -/
  | unexpected (text : String)
  /-- A piece of text is missing at the end. -/
  | incompleteInput
  /-- A table was created under the name of a view that takes an argument. -/
  | notAView (name : String)
  /-- The columns of a conflict clause are not the primary key. -/
  | conflictTarget
  | locked
  | readOnly
  /-- A file is there that can be neither read nor removed. -/
  | cannotRead
  | cannotRemove
  /-- The file whose permissions are to be taken over cannot be looked at. -/
  | noModel
  | nestedTransaction
  | noTransaction
  | malformed
  | cannotOpen
  | notADatabase
  | noSuchFileSystem (name : String)
  | invalidAuthority (authority : String)
  | noSuchMode (kind mode : String)
  | modeNotAllowed (mode : String)
  /-- A row number that is no whole number. -/
  | datatypeMismatch
  | nullViolation (table column : String)
  | keyViolation (table : String) (columns : List String)
  | numberViolation (table : String)
deriving DecidableEq

namespace EngineError

/-- A name in quotes; a quote inside is written twice. -/
def quotedName (name : String) : String :=
  let inside := name.toList.flatMap fun c => if c = '"' then [c, c] else [c]
  String.ofList ('"' :: inside ++ ['"'])

/-- The number of the error. -/
def code : EngineError → Nat
  | modeNotAllowed _ => 3
  | locked => 5
  | readOnly => 8
  | malformed => 11
  | cannotOpen => 14
  | datatypeMismatch => 20
  | notADatabase => 26
  | cannotRead => 266
  | nullViolation _ _ => 1299
  | keyViolation _ _ => 1555
  | noModel => 1802
  | cannotRemove => 2570
  | numberViolation _ => 2579
  | _ => 1

/-- The text of the error, without its number. -/
def text : EngineError → String
  | noSuchTable table => "no such table: " ++ table
  | noSuchColumn column => "no such column: " ++ column
  | unknownColumn table column => "table " ++ table ++ " has no column named " ++ column
  | tableExists table => "table " ++ quotedName table ++ " already exists"
  | nameTaken name => "there is already another table or index with this name: " ++ name
  | reservedName name => "object name reserved for internal use: " ++ name
  | duplicateColumn column => "duplicate column name: " ++ column
  | mayNotBe table participle => "table " ++ table ++ " may not be " ++ participle
  | viewAltered => "virtual tables may not be altered"
  | cannotAddKey => "Cannot add a PRIMARY KEY column"
  | cannotAddRequired => "Cannot add a NOT NULL column with default value NULL"
  | unexpected text => "near \"" ++ text ++ "\": syntax error"
  | incompleteInput => "incomplete input"
  | notAView name => "'" ++ name ++ "' is not a function"
  | conflictTarget => "ON CONFLICT clause does not match any PRIMARY KEY or UNIQUE constraint"
  | locked => "database is locked"
  | readOnly => "attempt to write a readonly database"
  | cannotRead => "disk I/O error"
  | cannotRemove => "disk I/O error"
  | noModel => "disk I/O error"
  | nestedTransaction => "cannot start a transaction within a transaction"
  | noTransaction => "cannot rollback - no transaction is active"
  | malformed => "database disk image is malformed"
  | cannotOpen => "unable to open database file"
  | notADatabase => "file is not a database"
  | noSuchFileSystem name => "no such vfs: " ++ name
  | invalidAuthority authority => "invalid uri authority: " ++ authority
  | noSuchMode kind mode => "no such " ++ kind ++ " mode: " ++ mode
  | modeNotAllowed mode => "access mode not allowed: " ++ mode
  | datatypeMismatch => "datatype mismatch"
  | nullViolation table column => "NOT NULL constraint failed: " ++ table ++ "." ++ column
  | keyViolation table columns =>
    "UNIQUE constraint failed: " ++ ", ".intercalate (columns.map fun c => table ++ "." ++ c)
  | numberViolation table => "UNIQUE constraint failed: " ++ table ++ ".rowid"

/-- Whether a table or a column was not found, or was found where none may be. -/
def isLookup : EngineError → Bool
  | noSuchTable _ => true
  | noSuchColumn _ => true
  | tableExists _ => true
  | unknownColumn _ _ => true
  | _ => false

end EngineError

/-- Why the place of a database cannot be used. -/
inductive LocationError where
  | unknownValue (key value : String)
  | unknownParameter (key : String)
  /-- The decoded name is not UTF-8 from the given byte on. -/
  | notUtf8 (index : Nat) (length : Option Nat)
deriving DecidableEq

/-- The text of a location error. -/
def LocationError.message : LocationError → String
  | unknownValue key value => "unknown value " ++ Text.quoted value ++ " for `" ++ key ++ "`"
  | unknownParameter key =>
    "unknown query parameter `" ++ key ++ "` while parsing connection URL"
  | notUtf8 index (some length) =>
    "invalid utf-8 sequence of " ++ toString length ++ " bytes from index " ++ toString index
  | notUtf8 index none => "incomplete utf-8 byte sequence from index " ++ toString index

/-- Why an operation on a database fails. -/
inductive Fault where
  | engine (error : EngineError)
  | poolClosed
  | location (error : LocationError)
  /-- The name of the file holds a null character. -/
  | nulInName
  /-- A whole number was asked for and a value of another type was found. -/
  | notANumber (found : String)
  /-- The named column of a row holds no text. -/
  | unreadable (column : String)
deriving DecidableEq

namespace Fault

/-- The text of a fault. -/
def message : Fault → String
  | engine e => "error returned from database: (code: " ++ toString e.code ++ ") " ++ e.text
  | poolClosed => "attempted to acquire a connection on a closed pool"
  | location e => "error with configuration: " ++ e.message
  | nulInName =>
    "error communicating with database: filename passed to SQLite must not contain nul bytes"
  | notANumber found =>
    "error occurred while decoding column 0: mismatched types; Rust type `i64` " ++
      "(as SQL type `INTEGER`) is not compatible with SQL type `" ++ found ++ "`"
  | unreadable column => "column " ++ column ++ " holds no text"

/-- Whether a row was refused because its key is there already. -/
def isKeyViolation : Fault → Bool
  | engine (.keyViolation _ _) => true
  | _ => false

end Fault

end DispatchStore
