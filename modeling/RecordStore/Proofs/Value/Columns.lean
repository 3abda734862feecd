import RecordStore.Proofs.Number.Whole
import RecordStore.Proofs.Query.Demands
import RecordStore.Proofs.Schema.Layout
import RecordStore.Value.Field

/-!
# Values in columns

A field that has the type of its column gets back from the column what it put in: the same value, a
date cut to whole seconds, a float the same number. What an integer or a bit becomes in the field is
also what the column makes of it, so it does not matter that a generator's value enters the row as
it is and the field as it is converted.

As the operand of an equality a value finds what was stored for it. There the exception is a bit
that was given as an integer: the row keeps the integer, and the operand is zero or one.
-/

namespace RecordStore

/-- The type of the fields whose values a column of a type holds. -/
def ColumnType.fieldType : ColumnType → FieldType
  | .string => .text
  | .integer => .integer
  | .float => .float
  | .blob => .blob
  | .bit => .bit
  | .date => .date

/-- The start of the second of a moment. -/
def Moment.second (moment : Moment) : Moment where
  seconds := moment.seconds
  nanoseconds := 0
  notTooEarly := moment.notTooEarly
  notTooLate := moment.notTooLate
  insideSecond := by decide

namespace Value

/-- A value, a date cut to whole seconds. -/
def inSeconds : Value → Value
  | .date moment => .date moment.second
  | value => value

/-- Whether a value is a float that is not a number. -/
def isNaN : Value → Bool
  | .float number => number.isNaN
  | _ => false

/-- A value agrees with itself, unless it is a float that is not a number. -/
theorem agrees_self {value : Value} (defined : value.isNaN = false) :
    value.agrees value = true := by
  cases value with
  | float number => exact Binary64.same_number_self defined
  | _ => simp [agrees]

end Value

/-- An integer between the ends of the range is kept in sixty-four bits. -/
theorem Stored.to_int_of_int {whole : Int} (least : Int64.minValue.toInt ≤ whole)
    (greatest : whole ≤ Int64.maxValue.toInt) : (Int64.ofInt whole).toInt = whole := by
  have ends : Int64.minValue.toInt = -2 ^ 63 ∧ Int64.maxValue.toInt = 2 ^ 63 - 1 := by decide
  exact Int64.toInt_ofInt_of_le (by omega) (by omega)

/-- The seconds of a moment are read back as the start of its second. -/
theorem Moment.load_seconds (moment : Moment) :
    Moment.load (Int64.ofInt moment.seconds) = .ok moment.second := by
  have early : earliestSecond ≤ moment.seconds := moment.notTooEarly
  have late : moment.seconds ≤ latestSecond := moment.notTooLate
  have exact : (Int64.ofInt moment.seconds).toInt = moment.seconds :=
    Stored.to_int_of_int
      (Int.le_trans (show Int64.minValue.toInt ≤ earliestSecond by decide) early)
      (Int.le_trans late (show latestSecond ≤ Int64.maxValue.toInt by decide))
  have inside : (0 : Nat) < 2 * nanosecondsInSecond := by decide
  unfold Moment.load ofSeconds? of?
  rw [exact, dif_pos ⟨⟨early, late⟩, inside⟩]
  rfl

/-- A moment that is loaded for a second is the start of the second. -/
theorem Moment.seconds_of_load {seconds : Int64} {moment : Moment}
    (loaded : Moment.load seconds = .ok moment) :
    Int64.ofInt moment.seconds = seconds ∧ moment.second = moment := by
  unfold Moment.load ofSeconds? of? at loaded
  split at loaded
  · rename_i found
    split at found
    · cases found
      cases loaded
      exact ⟨Int64.ofInt_toInt seconds, rfl⟩
    · cases found
  · cases loaded

/-- A field takes the values that it can hold as they are. -/
theorem FieldType.convert_of_holds {type : FieldType} {value : Value}
    (held : type.holds value = true) : type.convert value = .ok value := by
  cases type <;> cases value <;> first | rfl | cases held

namespace Stored

/-- A real is read as an integer, or stays what it is. -/
theorem real_as_integer_cases (number : Binary64) :
    (∃ whole, number.toInt? = some whole ∧ realAsInteger number = .integer (Int64.ofInt whole) ∧
      (Int64.ofInt whole).toInt = whole) ∨ realAsInteger number = .real number := by
  unfold realAsInteger
  split
  · rename_i whole read
    split
    · rename_i inside
      exact .inl ⟨whole, read, rfl, to_int_of_int (Int.le_of_lt inside.1) (Int.le_of_lt inside.2)⟩
    · exact .inr rfl
  · exact .inr rfl

/-- What is whole becomes an integer once. -/
theorem whole_as_integer_again (value : Stored) :
    value.wholeAsInteger.wholeAsInteger = value.wholeAsInteger := by
  cases value with
  | real number =>
    change (realAsInteger number).wholeAsInteger = realAsInteger number
    rcases real_as_integer_cases number with ⟨whole, -, isInteger, -⟩ | stays
    · rw [isInteger]
      rfl
    · rw [stays]
      exact stays
  | _ => rfl

/-- What a column of floats has stored it stores again as it is. -/
theorem integer_as_real_again (value : Stored) :
    value.wholeAsInteger.integerAsReal.wholeAsInteger.integerAsReal =
      value.wholeAsInteger.integerAsReal := by
  have rounded : ∀ number : Int64, (realAsInteger (Binary64.ofInt number.toInt)).integerAsReal =
      .real (Binary64.ofInt number.toInt) := by
    intro number
    rcases real_as_integer_cases (Binary64.ofInt number.toInt) with
      ⟨whole, read, isInteger, inside⟩ | stays
    · rw [isInteger, integerAsReal, inside, Binary64.of_int_again read]
    · rw [stays]
      rfl
  cases value with
  | integer number => exact rounded number
  | real number =>
    change (realAsInteger number).integerAsReal.wholeAsInteger.integerAsReal =
      (realAsInteger number).integerAsReal
    rcases real_as_integer_cases number with ⟨whole, -, isInteger, -⟩ | stays
    · rw [isInteger]
      exact rounded _
    · rw [stays]
      change (realAsInteger number).integerAsReal = _
      rw [stays]
  | _ => rfl

end Stored

namespace Affinity

/-- What a column has stored is compared as it is. -/
theorem compare_as_store (affinity : Affinity) (value : Stored) :
    affinity.compareAs (affinity.store value) = affinity.store value := by
  cases affinity with
  | text => cases value <;> rfl
  | blob => rfl
  | integer => exact settled_store .integer value rfl
  | real => exact settled_store .real value rfl
  | numeric => exact settled_store .numeric value rfl

/-- What a column has stored it stores as it is. -/
theorem store_store (affinity : Affinity) (value : Stored) :
    affinity.store (affinity.store value) = affinity.store value := by
  have settled := settled_store affinity value
  cases affinity with
  | text => cases value <;> rfl
  | blob => rfl
  | integer => exact (congrArg _ (settled rfl)).trans (Stored.whole_as_integer_again _)
  | numeric => exact (congrArg _ (settled rfl)).trans (Stored.whole_as_integer_again _)
  | real =>
    refine (congrArg (fun stored : Stored => stored.wholeAsInteger.integerAsReal)
      (settled rfl)).trans ?_
    exact Stored.integer_as_real_again _

/-- A real in a column of reals stays the same number. -/
theorem store_real (number : Binary64) (defined : number.isNaN = false) :
    ∃ kept, Affinity.real.store (.real number) = .real kept ∧ kept.sameNumber number = true := by
  change ∃ kept, (Stored.realAsInteger number).integerAsReal = .real kept ∧ _
  rcases Stored.real_as_integer_cases number with ⟨whole, read, isInteger, inside⟩ | stays
  · refine ⟨Binary64.ofInt whole, ?_, Binary64.same_number_of_int read⟩
    rw [isInteger, Stored.integerAsReal, inside]
  · exact ⟨number, by rw [stays]; rfl, Binary64.same_number_self defined⟩

end Affinity

namespace ColumnType

variable {type : ColumnType} {given held : Value}

/-- What a column returns for a value is one that the field takes as it is, and it agrees with what
the field made of the value. -/
def GivesBack (type : ColumnType) (given held : Value) : Prop :=
  ∃ loaded, (type.affinity.store given.encoded).load type = .ok loaded ∧
    type.fieldType.convert loaded = .ok loaded ∧ loaded.agrees held.inSeconds = true

/-- A number that a field takes for a date is stored as it is, and read back as the date that the
field made of it. -/
theorem gives_back_seconds {seconds : Int64}
    (accepted : ColumnType.date.fieldType.convert (.integer seconds) = .ok held) :
    ColumnType.date.GivesBack (.integer seconds) held := by
  obtain ⟨moment, loaded, rfl⟩ : ∃ moment, Moment.load seconds = .ok moment ∧
      Value.date moment = held := Engine.map_ok accepted
  have read : (Affinity.integer.store (Value.integer seconds).encoded).load .date =
      (Moment.load seconds).map Value.date := rfl
  refine ⟨.date moment, by rw [affinity, read, loaded]; rfl, rfl, ?_⟩
  rw [Value.inSeconds, (Moment.seconds_of_load loaded).2]
  exact Value.agrees_self rfl

/-- A float that is a number comes back as the same number, since a column of reals keeps it one. -/
theorem gives_back_float {number : Binary64} (defined : number.isNaN = false) :
    ColumnType.float.GivesBack (.float number) (.float number) := by
  have bound : (Value.float number).encoded = .real number := by
    simp [Value.encoded, Value.stored, Stored.bound, defined]
  obtain ⟨kept, stores, same⟩ := Affinity.store_real number defined
  exact ⟨.float kept, by rw [bound, affinity, stores]; rfl, rfl, same⟩

/-- A date comes back as its second. -/
theorem gives_back_date (moment : Moment) :
    ColumnType.date.GivesBack (.date moment) (.date moment) := by
  have read : (Affinity.integer.store (Value.date moment).encoded).load .date =
      (Moment.load (Int64.ofInt moment.seconds)).map Value.date := rfl
  refine ⟨.date moment.second, by rw [affinity, read, Moment.load_seconds]; rfl, rfl, ?_⟩
  exact Value.agrees_self rfl

/-- What a column returns for a value agrees with what the field made of the value. A field takes
few kinds of values, and all but floats and dates come back as they were taken. -/
theorem load_store (accepted : type.fieldType.convert given = .ok held)
    (defined : held.isNaN = false) : type.GivesBack given held := by
  cases given with
  | null =>
    cases accepted
    exact ⟨.null, by cases type <;> rfl, rfl, rfl⟩
  | integer value =>
    cases type with
    | date => exact gives_back_seconds accepted
    | integer | float | bit =>
      cases accepted
      exact ⟨_, rfl, rfl, Value.agrees_self defined⟩
    | _ => cases accepted
  | float number =>
    cases type with
    | float =>
      cases accepted
      exact gives_back_float defined
    | _ => cases accepted
  | text value =>
    cases type with
    | string =>
      cases accepted
      exact ⟨_, rfl, rfl, Value.agrees_self rfl⟩
    | _ => cases accepted
  | blob bytes =>
    cases type with
    | blob =>
      cases accepted
      exact ⟨_, rfl, rfl, Value.agrees_self rfl⟩
    | _ => cases accepted
  | bit value =>
    cases type with
    | integer =>
      cases accepted
      exact ⟨_, rfl, rfl, Value.agrees_self rfl⟩
    | bit =>
      cases accepted
      exact ⟨_, rfl, rfl, by cases value <;> rfl⟩
    | _ => cases accepted
  | date moment =>
    cases type with
    | date =>
      cases accepted
      exact gives_back_date moment
    | _ => cases accepted

/-- Except for floats, a column stores for a value just what the field's value is as an operand. -/
theorem store_encoded (accepted : type.fieldType.convert given = .ok held)
    (notFloat : type ≠ .float) (bits : type = .bit → given.stored = held.stored) :
    type.affinity.store given.encoded = held.encoded := by
  cases type with
  | float => exact absurd rfl notFloat
  | bit =>
    rw [Value.encoded, bits rfl]
    cases given <;> cases accepted <;> rfl
  | date =>
    cases given with
    | integer seconds =>
      change (Moment.load seconds).map Value.date = .ok held at accepted
      cases loaded : Moment.load seconds with
      | error problem =>
        rw [loaded] at accepted
        cases accepted
      | ok moment =>
        rw [loaded] at accepted
        cases accepted
        exact congrArg Stored.integer (Moment.seconds_of_load loaded).1.symm
    | null => cases accepted; rfl
    | date moment => cases accepted; rfl
    | _ => cases accepted
  | _ => cases given <;> cases accepted <;> rfl

/-- A bit that was given as a bit, or as zero or one, is stored as the field holds it. -/
theorem bit_stored (accepted : FieldType.bit.convert given = .ok held)
    (bits : ∀ number, given = .integer number → number = 0 ∨ number = 1) :
    given.stored = held.stored := by
  cases given with
  | null => cases accepted; rfl
  | bit => cases accepted; rfl
  | integer number =>
    cases accepted
    rcases bits number rfl with rfl | rfl
    · rfl
    · rfl
  | _ => cases accepted

/-- What a field took as a value that is there reaches the engine as one. -/
theorem encoded_is_null (accepted : type.fieldType.convert given = .ok held)
    (present : held.isNull = false) (defined : held.isNaN = false) :
    given.encoded.isNull = false := by
  cases given with
  | null =>
    cases accepted
    cases present
  | float number =>
    cases type with
    | float =>
      cases accepted
      have plain : number.isNaN = false := defined
      simp [Value.encoded, Value.stored, Stored.bound, plain, Stored.isNull]
    | _ => cases accepted
  | _ => rfl

/-- As the operand of an equality, what the field made of a value finds what the column stored for
it, unless a bit was given as a number of its own. -/
theorem equal_store (accepted : type.fieldType.convert given = .ok held)
    (present : held.isNull = false) (defined : held.isNaN = false)
    (bits : type = .bit → given.stored = held.stored) :
    Operator.equal.relates type.affinity (type.affinity.store given.encoded) held = true := by
  have kept : type.fieldType.holds held = true := FieldType.convert_holds _ _ _ accepted
  have operand := encoded_is_null (FieldType.convert_of_holds kept) present defined
  by_cases float : type = .float
  · subst float
    have reals : ∃ number, held = .float number := by
      cases given <;> cases accepted <;> first | exact ⟨_, rfl⟩ | cases present
    obtain ⟨number, rfl⟩ := reals
    have plain : number.isNaN = false := defined
    have bound : (Value.float number).encoded = .real number := by
      simp [Value.encoded, Value.stored, Stored.bound, plain]
    have kept : ∃ kept, Affinity.real.store given.encoded = .real kept ∧
        kept.sameNumber number = true := by
      cases given with
      | integer value =>
        cases accepted
        exact ⟨_, rfl, Binary64.same_number_self plain⟩
      | float value =>
        cases accepted
        rw [bound]
        exact Affinity.store_real number plain
      | _ => cases accepted
    obtain ⟨kept, stores, same⟩ := kept
    have equal : kept.order number == .eq := (Bool.and_eq_true_iff.mp same).2
    rw [affinity, stores, Operator.relates, bound]
    exact equal
  · have stores := store_encoded accepted float bits
    rw [Operator.relates, stores, operand]
    simp [Operator.accepts, Engine.compareUnder]

end ColumnType

/-- Two stored values that the same operand finds are the same in the order. -/
theorem Operator.order_of_relates {affinity : Affinity} {left right : Stored} {operand : Value}
    (leftKept : affinity.compareAs left = left) (rightKept : affinity.compareAs right = right)
    (leftFound : Operator.equal.relates affinity left operand = true)
    (rightFound : Operator.equal.relates affinity right operand = true) :
    left.order right = .eq := by
  have equal : ∀ {value : Stored}, affinity.compareAs value = value →
      Operator.equal.relates affinity value operand = true →
      value.order (affinity.compareAs operand.encoded) = .eq := by
    intro value kept found
    have compared := (Bool.and_eq_true_iff.mp found).2
    simpa [Operator.accepts, Engine.compareUnder, kept] using compared
  exact Std.TransCmp.eq_trans (equal leftKept leftFound)
    (Std.OrientedCmp.eq_symm (equal rightKept rightFound))

end RecordStore
