import DispatchStore.Event

/-!
# Equality of values

Whether two JSON values are the same can be decided, member by member, and so it can of events.
-/

namespace DispatchStore

namespace Json

mutual

/-- Whether two values are the same. -/
def same : Json → Json → Bool
  | .null, .null => true
  | .bool a, .bool b => a == b
  | .number m, .number n => m == n
  | .text s, .text t => s == t
  | .array vs, .array ws => sameItems vs ws
  | .object ms, .object ns => sameMembers ms ns
  | _, _ => false

/-- Whether two arrays have the same items. -/
def sameItems : List Json → List Json → Bool
  | [], [] => true
  | v :: vs, w :: ws => same v w && sameItems vs ws
  | _, _ => false

/-- Whether two objects have the same members in the same order. -/
def sameMembers : List (String × Json) → List (String × Json) → Bool
  | [], [] => true
  | (k, v) :: ms, (l, w) :: ns => k == l && same v w && sameMembers ms ns
  | _, _ => false

end

mutual

/-- The check of two values is equality. -/
theorem same_iff (v w : Json) : same v w = true ↔ v = w := by
  cases v with
  | array vs => cases w <;> simp [same, sameItems_iff vs]
  | object ms => cases w <;> simp [same, sameMembers_iff ms]
  | _ => cases w <;> simp [same]

/-- The check of two lists of values is equality. -/
theorem sameItems_iff (vs ws : List Json) : sameItems vs ws = true ↔ vs = ws := by
  match vs, ws with
  | [], [] => simp [sameItems]
  | [], w :: ws => simp [sameItems]
  | v :: vs, [] => simp [sameItems]
  | v :: vs, w :: ws => simp [sameItems, same_iff v w, sameItems_iff vs ws]

/-- The check of two lists of members is equality. -/
theorem sameMembers_iff (ms ns : List (String × Json)) : sameMembers ms ns = true ↔ ms = ns := by
  match ms, ns with
  | [], [] => simp [sameMembers]
  | [], n :: ns => simp [sameMembers]
  | m :: ms, [] => simp [sameMembers]
  | (k, v) :: ms, (l, w) :: ns => simp [sameMembers, same_iff v w, sameMembers_iff ms ns]

end

instance : DecidableEq Json := fun v w => decidable_of_iff (same v w = true) (same_iff v w)

end Json

deriving instance DecidableEq for Event

end DispatchStore
