import RecordStore.Value.Codec

/-!
# Field types

A field of an entity holds nothing or a value of its type. `FieldType.convert` says which
values a field takes and what becomes of them; its result always fits the field.
-/

namespace RecordStore

/-- The type of an entity's field. An `any` field takes every value as it is. -/
inductive FieldType where
  | integer
  | float
  | text
  | blob
  | bit
  | date
  | any
  deriving DecidableEq, Repr, Inhabited

namespace FieldType

/-- The word by which messages name a field type. -/
def kindName : FieldType → String
  | .integer => "integer"
  | .float => "float"
  | .text => "text"
  | .blob => "blob"
  | .bit => "bit"
  | .date => "date"
  | .any => "any"

/-- Whether a field of the type can hold the value. -/
def holds : FieldType → Value → Bool
  | _, .null => true
  | .integer, .integer _ => true
  | .float, .float _ => true
  | .text, .text _ => true
  | .blob, .blob _ => true
  | .bit, .bit _ => true
  | .date, .date _ => true
  | .any, _ => true
  | _, _ => false

/-- A value that must be there, as a field of the type holds it. An integer serves as a
float, a bit or a date, and a bit serves as an integer. -/
def convertPresent : FieldType → Value → Except StoreError Value
  | .integer, .integer value => .ok (.integer value)
  | .integer, .bit value => .ok (.integer (if value then 1 else 0))
  | .float, .float value => .ok (.float value)
  | .float, .integer value => .ok (.float (Binary64.ofInt value.toInt))
  | .text, .text value => .ok (.text value)
  | .blob, .blob bytes => .ok (.blob bytes)
  | .bit, .bit value => .ok (.bit value)
  | .bit, .integer value => .ok (.bit (value != 0))
  | .date, .date moment => .ok (.date moment)
  | .date, .integer seconds => (Moment.load seconds).map .date
  | .any, value => .ok value
  | type, value =>
    .error (.typeError ("expected " ++ type.kindName ++ ", got " ++ value.kindName))

/-- A value as a field of the type holds it; null leaves the field empty. -/
def convert (type : FieldType) (value : Value) : Except StoreError Value :=
  if value.isNull then .ok .null else type.convertPresent value

/-- A value that is there is converted to one that the field holds. -/
theorem convert_present_holds (type : FieldType) (value converted : Value)
    (accepted : type.convertPresent value = .ok converted) : type.holds converted = true := by
  unfold convertPresent at accepted
  split at accepted
  case h_10 seconds =>
    cases loaded : Moment.load seconds with
    | error problem => simp [loaded, Except.map] at accepted
    | ok moment =>
      simp only [loaded, Except.map, Except.ok.injEq] at accepted
      subst accepted
      rfl
  case h_11 =>
    simp only [Except.ok.injEq] at accepted
    subst accepted
    unfold holds
    split <;> simp_all
  case h_12 => simp at accepted
  all_goals
    simp only [Except.ok.injEq] at accepted
    subst accepted
    rfl

/-- A converted value is one that the field holds. -/
theorem convert_holds (type : FieldType) (value converted : Value)
    (accepted : type.convert value = .ok converted) : type.holds converted = true := by
  unfold convert at accepted
  split at accepted
  · simp only [Except.ok.injEq] at accepted
    subst accepted
    unfold holds
    rfl
  · exact convert_present_holds type value converted accepted

end FieldType

end RecordStore
