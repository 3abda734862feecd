import RecordStore.Number.Binary64
import RecordStore.Value.Moment

/-!
# Attribute values

What an attribute of an entity, an operand of a query or a field of a record can be. The
kinds stay apart: an integer is never a bit, and a moment is never an integer, until a
field or the storage form asks for it.
-/

namespace RecordStore

/-- A single attribute value. -/
inductive Value where
  | null
  | integer (value : Int64)
  | float (value : Binary64)
  | text (value : String)
  | blob (bytes : List UInt8)
  | bit (value : Bool)
  | date (moment : Moment)
  deriving DecidableEq, Inhabited

namespace Value

/-- Whether a value is null. -/
def isNull : Value → Bool
  | .null => true
  | _ => false

/-- The short name of a value's kind. -/
def kindName : Value → String
  | .null => "null"
  | .integer _ => "integer"
  | .float _ => "float"
  | .text _ => "text"
  | .blob _ => "blob"
  | .bit _ => "bit"
  | .date _ => "date"

/-- The text of a text value. -/
def asText? : Value → Option String
  | .text value => some value
  | _ => none

/-- The integer of an integer value. -/
def asInteger? : Value → Option Int64
  | .integer value => some value
  | _ => none

/-- Equality in the sense of arithmetic: floats are compared as numbers, so a not-a-number
differs from itself and the two zeros agree; all else is compared exactly. -/
def agrees : Value → Value → Bool
  | .float left, .float right => left.sameNumber right
  | left, right => decide (left = right)

end Value

end RecordStore
