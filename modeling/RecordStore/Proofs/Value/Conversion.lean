import RecordStore.Proofs.Value.Columns
import RecordStore.Proofs.Value.Order

/-!
# Values that a column converts

Before it compares, a column brings an operand to the class that it stores: a column of texts takes
a number as a text, and a column of numbers takes a text that states a number as the number. What
the column has stored is of that class already, so whatever equals it as it stands needs no
conversion. A comparison that converts nothing therefore finds what the column finds, except that it
never finds an operand that the column would have converted.
-/

namespace RecordStore

/-- Whether a value reaches the engine as a number. -/
def Value.isNumber : Value → Bool
  | .integer _ => true
  | .float number => !number.isNaN
  | .bit _ => true
  | .date _ => true
  | _ => false

/-- Whether a value is a text that states a number. -/
def Value.statesNumber : Value → Bool
  | .text value => (Stored.numberOfText? value).isSome
  | _ => false

/-- Whether a column of a type brings a value to another class before it compares it. -/
def ColumnType.converts (type : ColumnType) (value : Value) : Bool :=
  match type with
  | .string => value.isNumber
  | .blob => false
  | .integer | .float | .bit | .date => value.statesNumber

namespace Stored

variable {value : Stored}

/-- A column of texts takes all but numbers as they are. -/
theorem number_as_text_eq_iff : value.numberAsText = value ↔ ¬ value.IsNumber := by
  cases value <;> simp [numberAsText, IsNumber, classRank]

/-- A column of numbers takes all but texts that state one as they are. -/
theorem text_as_number_text_iff {text : String} :
    (Stored.text text).textAsNumber = .text text ↔ (numberOfText? text).isSome = false := by
  cases states : numberOfText? text with
  | none => simp [textAsNumber, states]
  | some number =>
    have other : number ≠ .text text := by
      rintro rfl
      cases number_of_text?_is_number states
    simpa [textAsNumber, states] using other

end Stored

namespace Affinity

/-- What equals a value that is taken as it is, is taken as it is. -/
theorem compare_as_of_order {affinity : Affinity} {kept value : Stored}
    (asIs : affinity.compareAs kept = kept) (same : kept.order value = .eq) :
    affinity.compareAs value = value := by
  have classes : kept.classRank = value.classRank := by
    by_contra different
    rw [Stored.order_of_classes different] at same
    exact different (Nat.compare_eq_eq.mp same)
  have numeric : kept.textAsNumber = kept → value.textAsNumber = value := by
    intro keptAsIs
    cases value with
    | text value =>
      obtain ⟨text, rfl⟩ := Stored.eq_text_of_class classes
      change compare text value = .eq at same
      rw [← Std.LawfulEqCmp.eq_of_compare same]
      exact keptAsIs
    | _ => rfl
  cases affinity with
  | text =>
    have noNumber := Stored.number_as_text_eq_iff.mp asIs
    exact Stored.number_as_text_eq_iff.mpr fun number => noNumber (classes.trans number)
  | blob => rfl
  | integer | real | numeric => exact numeric asIs

end Affinity

namespace ColumnType

variable {type : ColumnType} {operand : Value}

/-- A column takes the operands as they are that it does not convert. -/
theorem compare_as_encoded_iff :
    type.affinity.compareAs operand.encoded = operand.encoded ↔ type.converts operand = false := by
  have texts : operand.encoded.IsNumber ↔ operand.isNumber = true := by
    cases operand with
    | float number =>
      simp only [Value.encoded, Value.stored, Stored.bound, Value.isNumber]
      cases number.isNaN <;> simp [Stored.IsNumber, Stored.classRank]
    | _ => simp [Value.encoded, Value.stored, Stored.bound, Value.isNumber, Stored.IsNumber,
        Stored.classRank, Stored.ofBool]
  have numbers : operand.encoded.textAsNumber = operand.encoded ↔
      operand.statesNumber = false := by
    cases operand with
    | text value => exact Stored.text_as_number_text_iff
    | float number =>
      simp only [Value.encoded, Value.stored, Stored.bound]
      cases number.isNaN <;> exact iff_of_true rfl rfl
    | _ => exact iff_of_true rfl rfl
  cases type with
  | string =>
    refine Stored.number_as_text_eq_iff.trans ?_
    rw [texts, Bool.not_eq_true]
    rfl
  | blob => exact iff_of_true rfl rfl
  | integer | float | bit | date => exact numbers

/-- A value of the type of the column is not converted. -/
theorem converts_of_holds (typed : type.fieldType.holds operand = true) :
    type.converts operand = false := by
  cases type <;> cases operand <;> first | rfl | cases typed

/-- Where nothing is converted, an equality finds among what a column has stored what it finds in
the column, unless the column would convert its operand. Proof: what equals the operand as it stands
would not let the column convert it. -/
theorem is_met_by_blob (column : String) (given : Stored) :
    Demand.isMetBy .blob (type.affinity.store given) ⟨column, .equal, [operand]⟩ =
      (Demand.isMetBy type.affinity (type.affinity.store given) ⟨column, .equal, [operand]⟩ &&
        !type.converts operand) := by
  have kept := type.affinity.compare_as_store given
  have compared : Operator.equal.relates .blob (type.affinity.store given) operand =
      (Operator.equal.relates type.affinity (type.affinity.store given) operand &&
        !type.converts operand) := by
    unfold Operator.relates Engine.compareUnder
    rw [kept]
    cases converts : type.converts operand with
    | false =>
      rw [compare_as_encoded_iff.mpr converts, Bool.not_false, Bool.and_true]
      rfl
    | true =>
      have differs : (type.affinity.store given).order operand.encoded ≠ .eq := by
        intro same
        have asIs := compare_as_encoded_iff.mp (Affinity.compare_as_of_order kept same)
        rw [converts] at asIs
        cases asIs
      have apart : Operator.equal.accepts ((type.affinity.store given).order operand.encoded) =
          false := beq_eq_false_iff_ne.mpr differs
      rw [Bool.not_true, Bool.and_false]
      exact (congrArg (_ && ·) apart).trans (Bool.and_false _)
  cases operand with
  | null =>
    have unconverted : type.converts .null = false := by cases type <;> rfl
    rw [unconverted, Bool.not_false, Bool.and_true]
    rfl
  | _ => exact compared

end ColumnType

end RecordStore
