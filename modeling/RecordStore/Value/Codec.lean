import RecordStore.Error
import RecordStore.Schema.Column
import RecordStore.Value.Stored

/-!
# Storing and loading values

A value carries its own kind, and the kind alone decides the storage form: a date becomes
its whole seconds, a bit becomes zero or one, everything else stays what it is. Loading
needs the column's type, because the storage form no longer tells an integer from a bit or
a date.
-/

namespace RecordStore

/-- The storage form of a value. -/
def Value.stored : Value → Stored
  | .null => .null
  | .integer value => .integer value
  | .float value => .real value
  | .text value => .text value
  | .blob bytes => .blob bytes
  | .bit value => .ofBool value
  | .date moment => .integer (Int64.ofInt moment.seconds)

/-- The start of a stored second. -/
def Moment.load (seconds : Int64) : Except StoreError Moment :=
  match Moment.ofSeconds? seconds.toInt with
  | some moment => .ok moment
  | none => .error (.typeError ("epoch seconds out of range: " ++ toString seconds.toInt))

/-- The value that a column of a type reads from a storage form. Null is null for every
type; a float column also reads integers, and a date column also reads reals, cut to whole
seconds. -/
def Stored.load (stored : Stored) (type : ColumnType) : Except StoreError Value :=
  match type, stored with
  | _, .null => .ok .null
  | .date, .integer seconds => (Moment.load seconds).map .date
  | .date, .real seconds => (Moment.load seconds.toInt64Saturating).map .date
  | .bit, .integer value => .ok (.bit (value != 0))
  | .float, .integer value => .ok (.float (Binary64.ofInt value.toInt))
  | .float, .real value => .ok (.float value)
  | .integer, .integer value => .ok (.integer value)
  | .string, .text value => .ok (.text value)
  | .blob, .blob bytes => .ok (.blob bytes)
  | type, stored =>
    .error (.typeError ("cannot decode " ++ stored.className ++ " as " ++ type.name))

/-- The value of a storage form whose column type is not known. -/
def Stored.plain : Stored → Value
  | .null => .null
  | .integer value => .integer value
  | .real value => .float value
  | .text value => .text value
  | .blob bytes => .blob bytes

end RecordStore
