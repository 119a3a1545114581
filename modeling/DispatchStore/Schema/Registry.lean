import DispatchStore.Schema.Migration

/-!
# Registries of migrations

A registry is a list of migrations with positive, strictly ascending versions. `Registry.fault?`
finds out whether a list is one: a version that is not positive is reported before a wrong order,
wherever it stands.
-/

namespace DispatchStore

/-- The migrations that a database should have, in order. -/
abbrev Registry := List Migration

/-- Why a list of migrations is no registry. -/
inductive RegistryFault where
  | notPositive (version : Int) (name : String)
  /-- The version does not exceed the one before it. -/
  | notAscending (version : Int) (name : String) (previous : Int) (previousName : String)
deriving DecidableEq

/-- A version with at least three digits. -/
def versionText (version : Int) : String := Decimal.padLeft 3 (toString version)

/-- The text of a fault. -/
def RegistryFault.message : RegistryFault → String
  | notPositive version name =>
    "version " ++ toString version ++ " (" ++ name ++ ") must be positive"
  | notAscending version name previous previousName =>
    "version " ++ versionText version ++ " (" ++ name ++ ") must be greater than " ++
      versionText previous ++ " (" ++ previousName ++ ")"

namespace Registry

/-- The built-in migrations.
Source: `MIGRATIONS`, specification §11 -/
def builtIn : Registry := [.overrides, .events, .decisions]

/-- The first pair of neighbours whose versions do not ascend. -/
def disorder? : Registry → Option RegistryFault
  | a :: b :: rest =>
    if b.version ≤ a.version then some (.notAscending b.version b.name a.version a.name)
    else disorder? (b :: rest)
  | _ => none

/-- The fault of a list that is no registry.
Source: `validate_registry`, specification §11 -/
def fault? (r : Registry) : Option RegistryFault :=
  match r.find? fun m => m.version ≤ 0 with
  | some m => some (.notPositive m.version m.name)
  | none => disorder? r

end Registry

end DispatchStore
