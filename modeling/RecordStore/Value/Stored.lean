import RecordStore.Number.Binary64

/-!
# Storage forms

The five classes of value that the engine binds, stores and returns, and their order:
null first, then numbers by size, then text by code points, then blobs byte by byte.
Integers and reals are compared exactly, without rounding either of them.
-/

namespace RecordStore

/-- A value as the engine stores it. -/
inductive Stored where
  | null
  | integer (value : Int64)
  | real (value : Binary64)
  | text (value : String)
  | blob (bytes : List UInt8)
  deriving DecidableEq, Repr, Inhabited

namespace Stored

/-- Whether a stored value is null. -/
def isNull : Stored → Bool
  | .null => true
  | _ => false

/-- The name of a storage class. -/
def className : Stored → String
  | .null => "Null"
  | .integer _ => "Integer"
  | .real _ => "Real"
  | .text _ => "Text"
  | .blob _ => "Blob"

/-- Where a storage class stands in the order; integers and reals share a place. -/
def classRank : Stored → Nat
  | .null => 0
  | .integer _ => 1
  | .real _ => 1
  | .text _ => 2
  | .blob _ => 3

/-- The order of stored values. -/
def order : Stored → Stored → Ordering
  | .integer left, .integer right => compare left.toInt right.toInt
  | .integer left, .real right => Binary64.orderInteger left.toInt right
  | .real left, .integer right => (Binary64.orderInteger right.toInt left).swap
  | .real left, .real right => left.order right
  | .text left, .text right => compare left right
  | .blob left, .blob right => compare left right
  | left, right => compare left.classRank right.classRank

/-- Equality as the order sees it: an integer equals the real of the same size. -/
def same (left right : Stored) : Bool := left.order right == .eq

/-- What the engine receives when a value is bound: a not-a-number arrives as null. -/
def bound : Stored → Stored
  | .real value => if value.isNaN then .null else .real value
  | value => value

/-- A truth value as the engine stores it. -/
def ofBool (value : Bool) : Stored := .integer (if value then 1 else 0)

end Stored

end RecordStore
