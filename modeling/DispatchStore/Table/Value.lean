import DispatchStore.Decimal.Extended

/-!
# Stored values

A cell of a table is null, a whole number, another number or a text. Values are ordered: null first,
then numbers by what they count, then texts by their code points, which is also the order of their
UTF-8 bytes. A whole number and another number are compared exactly, so that they can be the same
although they are written differently.
-/

namespace DispatchStore

/-- A stored value. -/
inductive Value where
  | null
  | int (n : Int)
  | real (x : Extended)
  | text (s : String)
deriving DecidableEq

namespace Value

/-- The smallest whole number that can be stored. -/
def minInt : Int := -9223372036854775808

/-- The largest whole number that can be stored. -/
def maxInt : Int := 9223372036854775807

/-- Whether `a` comes before `b` or is the same. -/
def le : Value → Value → Bool
  | null, _ => true
  | int a, int b => a ≤ b
  | int a, real y => Extended.le (.finite (.ofInt a)) y
  | real x, int b => x.le (.finite (.ofInt b))
  | real x, real y => x.le y
  | int _, text _ => true
  | real _, text _ => true
  | text a, text b => a ≤ b
  | _, _ => false

/-- Whether `a` and `b` are not told apart: they are equal, or numbers of the same size. -/
def same : Value → Value → Bool
  | int a, real y => y == .finite (.ofInt a)
  | real x, int b => x == .finite (.ofInt b)
  | a, b => a == b

/-- A value as text. Null is none. -/
def text? : Value → Option String
  | null => none
  | int n => some (toString n)
  | real x => some x.text
  | text s => some s

end Value

end DispatchStore
