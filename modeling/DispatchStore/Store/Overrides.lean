import DispatchStore.Override
import DispatchStore.Time.Timestamp
import DispatchStore.Store.Basic

/-!
# Overrides in the store

Setting an override replaces the value and the time of the row with its key, or adds a row.
-/

namespace DispatchStore

/-- The override in a record. -/
def Override.ofRecord (r : Record) : Except Fault Override := do
  let key ← r.text "key"
  let value ← r.text? "value"
  let updatedAt ← r.text? "updated_at"
  return ⟨key, value, updatedAt⟩

namespace Store

/-- The name of the table. -/
def overridesTable : String := "runtime_overrides"

/-- All columns of the table. -/
def overridesColumns : List String := ["key", "value", "updated_at"]

/-- Inserts or replaces an override.
Source: `set_override`, specification §15 -/
def setOverride (s : Store) (now : Timestamp) (key : String) (value : Option String) :
    Store × Except Fault Unit :=
  let values := [("key", .text key), ("value", value.elim .null .text),
    ("updated_at", .text now.iso)]
  let conflict := OnConflict.overwrite "key" ["value", "updated_at"]
  let (s, result) := s.write (.insert overridesTable values conflict)
  (s, result.map fun _ => ())

/-- The override with the given key.
Source: `get_override`, specification §15 -/
def getOverride (s : Store) (key : String) : Store × Except Fault (Option Override) :=
  s.readAs ⟨overridesTable, overridesColumns, [("key", .text key)], [], some 1⟩ fun records =>
    records.head?.mapM Override.ofRecord

/-- All overrides, by key.
Source: `list_overrides`, specification §15 -/
def listOverrides (s : Store) : Store × Except Fault (List Override) :=
  s.readAs ⟨overridesTable, overridesColumns, [], [("key", .ascending)], none⟩ fun records =>
    records.mapM Override.ofRecord

/-- Removes the override with the given key, and says whether there was one.
Source: `clear_override`, specification §15 -/
def clearOverride (s : Store) (key : String) : Store × Except Fault Bool :=
  let (s, result) := s.write (.delete overridesTable [("key", .text key)] .bare)
  (s, result.map (0 < ·))

end Store

end DispatchStore
