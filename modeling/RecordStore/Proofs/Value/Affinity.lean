import RecordStore.Engine.Affinity

/-!
# What columns store

A value that a column of a numeric affinity has stored is no text that states a number, for
such a text was stored as the number. Comparing it as a number therefore changes nothing.
Nulls are stored as nulls, and nothing else is.
-/

namespace RecordStore

namespace Stored

/-- Whether a value is a number already. -/
def IsNumber (value : Stored) : Prop := value.classRank = 1

/-- What a text states as a number is one. -/
theorem number_of_text?_is_number {text : String} {value : Stored}
    (states : numberOfText? text = some value) : value.IsNumber := by
  unfold numberOfText? at states
  split at states
  · cases states
  · split at states <;> cases states <;> rfl
  · cases states
    rfl

/-- A number stays one when a whole one becomes an integer. -/
theorem IsNumber.whole_as_integer {value : Stored} (number : value.IsNumber) :
    value.wholeAsInteger.IsNumber := by
  cases value with
  | real value =>
    change (realAsInteger value).IsNumber
    unfold realAsInteger
    split
    · split <;> rfl
    · rfl
  | _ => exact number

/-- A number stays one when an integer becomes a real. -/
theorem IsNumber.integer_as_real {value : Stored} (number : value.IsNumber) :
    value.integerAsReal.IsNumber := by
  cases value <;> first | rfl | exact number

/-- A number is no text that states one, so it stays as it is. -/
theorem IsNumber.text_as_number {value : Stored} (number : value.IsNumber) :
    value.textAsNumber = value := by
  cases value <;> first | rfl | cases number

/-- A value that is brought to a number, if it can be, is a number or stays what it was. -/
theorem text_as_number_cases (value : Stored) :
    value.textAsNumber.IsNumber ∨
      (value.textAsNumber = value ∧ value.wholeAsInteger = value ∧
        value.integerAsReal = value) := by
  cases value with
  | null => exact .inr ⟨rfl, rfl, rfl⟩
  | integer value => exact .inl rfl
  | real value => exact .inl rfl
  | blob bytes => exact .inr ⟨rfl, rfl, rfl⟩
  | text value =>
    cases states : numberOfText? value with
    | none => exact .inr ⟨by simp [textAsNumber, states], rfl, rfl⟩
    | some number =>
      left
      simpa [textAsNumber, states] using number_of_text?_is_number states

end Stored

namespace Affinity

/-- A value that a column of an affinity can hold: a numeric one holds no text that states a
number. -/
def Settled (affinity : Affinity) (value : Stored) : Prop :=
  affinity.isNumeric = true → value.textAsNumber = value

/-- An integer is settled in every column. -/
theorem settled_integer (affinity : Affinity) (number : Int64) :
    affinity.Settled (.integer number) := fun _ => rfl

/-- Whatever a column stores is settled in it. -/
theorem settled_store (affinity : Affinity) (value : Stored) :
    affinity.Settled (affinity.store value) := by
  intro numeric
  rcases value.text_as_number_cases with number | ⟨kept, whole, real⟩
  · cases affinity with
    | text => cases numeric
    | blob => cases numeric
    | integer => exact number.whole_as_integer.text_as_number
    | numeric => exact number.whole_as_integer.text_as_number
    | real => exact number.whole_as_integer.integer_as_real.text_as_number
  · cases affinity with
    | text => cases numeric
    | blob => cases numeric
    | integer => simp only [store, kept, whole]
    | numeric => simp only [store, kept, whole]
    | real => simp only [store, kept, whole, real]

/-- No number is null. -/
theorem is_null_of_is_number {value : Stored} (number : value.IsNumber) : value.isNull = false := by
  cases value <;> first | rfl | cases number

/-- A column stores a null exactly for a null. -/
@[simp] theorem store_is_null (affinity : Affinity) (value : Stored) :
    (affinity.store value).isNull = value.isNull := by
  have asNumber : value.textAsNumber.IsNumber → value.isNull = false := by
    intro number
    cases value <;> first | rfl | cases number
  cases affinity with
  | text => cases value <;> rfl
  | blob => rfl
  | integer =>
    rcases value.text_as_number_cases with number | ⟨kept, whole, -⟩
    · rw [asNumber number]
      exact is_null_of_is_number number.whole_as_integer
    · simp only [store, kept, whole]
  | numeric =>
    rcases value.text_as_number_cases with number | ⟨kept, whole, -⟩
    · rw [asNumber number]
      exact is_null_of_is_number number.whole_as_integer
    · simp only [store, kept, whole]
  | real =>
    rcases value.text_as_number_cases with number | ⟨kept, whole, real⟩
    · rw [asNumber number]
      exact is_null_of_is_number number.whole_as_integer.integer_as_real
    · simp only [store, kept, whole, real]

/-- Settled values are compared as they are when a numeric affinity decides, and so are all
values between two columns of which none is numeric. -/
theorem compare_as_between_of_settled {affinity : Affinity} {value : Stored}
    (settled : affinity.Settled value) :
    (between (some .blob) (some affinity)).compareAs value = value := by
  cases affinity with
  | text => rfl
  | blob => rfl
  | integer => exact settled rfl
  | numeric => exact settled rfl
  | real => exact settled rfl

end Affinity

end RecordStore
