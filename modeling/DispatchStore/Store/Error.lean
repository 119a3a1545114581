import DispatchStore.Config
import DispatchStore.Schema.Upgrade

/-!
# Errors of the store

Whatever part fails, the program reports one kind of error. A row that is refused because its key is
there already is the only failure that callers tell apart.
-/

namespace DispatchStore

/-- Why the program fails.
Source: `AppError`, specification §18 -/
inductive StoreError where
  | config (error : ConfigError)
  | migration (error : MigrationError)
  | database (fault : Fault)
  /-- The handler of an event failed for the given reason. -/
  | handler (reason : String)
deriving DecidableEq

namespace StoreError

/-- The text of the error. -/
def message : StoreError → String
  | config error => "Configuration error: " ++ error.message
  | migration error => "Migration error: " ++ error.message
  | database fault => "Database error: " ++ fault.message
  | handler reason => "Event handler failed: " ++ reason

/-- Whether the database refused a row because its key is there already.
Source: `is_unique_violation` -/
def isKeyViolation : StoreError → Bool
  | database fault => fault.isKeyViolation
  | _ => false

end StoreError

end DispatchStore
