import DispatchStore.Json.Decoder

/-!
# Overrides

A setting that is overridden while the program runs: a key, an optional value that the store does
not interpret, and the time of the last change.
-/

namespace DispatchStore

/-- A row of the table of overrides.
Source: `RuntimeOverride`, specification §16 -/
structure Override where
  key : String
  value : Option String
  /-- The stored time, returned as it was written. -/
  updatedAt : Option String
deriving DecidableEq

namespace Override

/-- The JSON form of a row. -/
def toJson (o : Override) : Json :=
  .object [("key", .text o.key), ("value", .ofText? o.value), ("updated_at", .ofText? o.updatedAt)]

/-- The fields of a row that were read so far. -/
structure Draft where
  key : Option String := none
  value : Option (Option String) := none
  updatedAt : Option (Option String) := none

/-- The fields of the JSON form. -/
def fields : List (Json.Field Draft) :=
  [.of "key" (·.key) (fun v d => { d with key := some v }) .text false,
    .of "value" (·.value) (fun v d => { d with value := some v }) (.optional .text) false,
    .of "updated_at" (·.updatedAt) (fun v d => { d with updatedAt := some v })
      (.optional .text) false]

/-- The row of a draft. The value and the time may be missing. -/
def Draft.complete (d : Draft) : Except Json.Fault Override := do
  let key ← Json.Record.need "key" d.key
  return ⟨key, d.value.getD none, d.updatedAt.getD none⟩

/-- Reads a row from its JSON form. -/
def decoder : Json.Decoder Override :=
  Json.Record.decoder "RuntimeOverride" fields {} Draft.complete

end Override

end DispatchStore
