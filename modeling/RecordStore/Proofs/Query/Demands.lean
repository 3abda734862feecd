import RecordStore.Proofs.Engine.Checking
import RecordStore.Proofs.Engine.Objects
import RecordStore.Proofs.Sql.Spelling
import RecordStore.Query.Criteria

/-!
# What criteria demand

An attribute of a partition or an entry of criteria demands something of one column: that its value
stand in a relation to an operand, be one of several, be missing or not be missing. What is
compiled for it holds in a scope exactly if the value that the column stands for there meets the
demand.
-/

namespace RecordStore

open Engine Sql

/-- Whether a relation between two values is the one that a comparison asks for. -/
def Operator.accepts : Operator → Ordering → Bool
  | .equal, order => order == .eq
  | .unequal, order => order != .eq
  | .greater, order => order == .gt
  | .atLeast, order => order != .lt
  | .less, order => order == .lt
  | .atMost, order => order != .gt
  | .oneOf, order => order == .eq

/-- The form in which an operand reaches the engine as the value of a parameter: its storage form,
and null for a float that is not a number. -/
def Value.encoded (operand : Value) : Stored := operand.stored.bound

/-- Whether a value stands in a relation to an operand, when the affinity of its column decides how
the two are compared. A null stands in no relation. -/
def Operator.relates (operator : Operator) (affinity : Affinity) (value : Stored)
    (operand : Value) : Bool :=
  !value.isNull && !operand.encoded.isNull &&
    operator.accepts (compareUnder affinity value operand.encoded)

/-- Behind the sign of its key stands the name of a comparison. -/
theorem Operator.name_of_key?_key (operator : Operator) :
    nameOfKey? operator.key = some operator.name := by
  cases operator <;> decide +kernel

/-- What is asked of one column. -/
structure Demand where
  column : String
  operator : Operator
  operands : List Value

namespace Demand

/-- Whether the value of a column of an affinity meets a demand. To equal null is to be null, and
to differ from null is not to be null. -/
def isMetBy (affinity : Affinity) (value : Stored) : Demand → Bool
  | ⟨_, .oneOf, operands⟩ => operands.any (Operator.oneOf.relates affinity value)
  | ⟨_, .equal, [.null]⟩ => value.isNull
  | ⟨_, .unequal, [.null]⟩ => !value.isNull
  | ⟨_, operator, [operand]⟩ => operator.relates affinity value operand
  | _ => false

/-- What an entry of criteria demands. A plain key is a column that equals a value; behind a
comparison stand its column and its operands. -/
def ofEntry? (entry : String × Argument) : Option Demand :=
  match Operator.nameOfKey? entry.1, entry.2 with
  | none, .scalar value => some ⟨entry.1, .equal, [value]⟩
  | none, .list _ => none
  | some name, argument =>
    match Operator.all.find? fun operator => operator.name == name, argument.values with
    | some operator, .text column :: operands => some ⟨column, operator, operands⟩
    | _, _ => none

/-- What an attribute of a partition demands. -/
def ofAttribute (held : String × Value) : Demand := ⟨held.1, .equal, [held.2]⟩

end Demand

/-- How the engine compares two sides. -/
def Operator.binary? : Operator → Option BinaryOperator
  | .equal => some .equal
  | .unequal => some .unequal
  | .greater => some .greater
  | .atLeast => some .atLeast
  | .less => some .less
  | .atMost => some .atMost
  | .oneOf => none

namespace Demand

/-- The conditions that are compiled for demands. -/
inductive Compiled (source : Option String) : Demand → Condition → Prop where
  | isNull (column : String) :
      Compiled source ⟨column, .equal, [.null]⟩ (.unary .isNull (.column source column))
  | isNotNull (column : String) :
      Compiled source ⟨column, .unequal, [.null]⟩ (.unary .isNotNull (.column source column))
  | compares {operator : Operator} {binary : BinaryOperator} (column : String) {operand : Value}
      (known : operator.binary? = some binary) (present : operand.isNull = false) :
      Compiled source ⟨column, operator, [operand]⟩
        (.binary binary (.column source column) (.operand operand.stored))
  | oneOf (column : String) {operands : List Value} (nonempty : operands ≠ []) :
      Compiled source ⟨column, .oneOf, operands⟩
        (.oneOf false (.column source column) (operands.map Value.stored))

variable {table : Table} {source : Option String} {demand : Demand} {condition : Condition}

/-- A value is null exactly if it is said to be. -/
theorem is_null_iff {value : Value} : value.isNull = true ↔ value = .null := by
  cases value <;> simp [Value.isNull]

/-- A column that is accepted is one of the table. -/
theorem require_column_ok {column : String} (accepted : table.requireColumn column = .ok ()) :
    table.hasColumn column = true := by
  unfold Table.requireColumn at accepted
  split at accepted
  · assumption
  · cases accepted

/-! ### Compiling -/

/-- An attribute of a partition compiles to what it demands. -/
theorem equality_compiled {column : String} {value : Value}
    (accepted : Condition.equality table source column value = .ok condition) :
    table.hasColumn column = true ∧ Compiled source ⟨column, .equal, [value]⟩ condition := by
  obtain ⟨⟨⟩, required, made⟩ := bind_ok accepted
  refine ⟨require_column_ok required, ?_⟩
  by_cases null : value.isNull = true
  · cases is_null_iff.mp null
    cases made
    exact .isNull column
  · simp only [null] at made
    cases made
    exact .compares column rfl (by simpa using null)

/-- A comparison with one operand compiles to a condition for its demand. -/
theorem comparison_compiled {operator : Operator} {column : String} {operand : Value}
    (single : operator ≠ .oneOf)
    (accepted : Condition.comparison source operator column operand = .ok condition) :
    Compiled source ⟨column, operator, [operand]⟩ condition := by
  cases null : operand.isNull with
  | true =>
    cases is_null_iff.mp null
    cases operator <;> cases accepted
    · exact .isNull column
    · exact .isNotNull column
  | false =>
    unfold Condition.comparison at accepted
    simp only [null] at accepted
    cases operator <;> first
      | exact absurd rfl single
      | (cases accepted
         exact .compares column rfl null)

/-- A comparison compiles to what it demands. -/
theorem of_operator_compiled {operator : Operator} {values : List Value}
    (accepted : Condition.ofOperator table source operator values = .ok condition) :
    ∃ column operands, values = .text column :: operands ∧ table.hasColumn column = true ∧
      Compiled source ⟨column, operator, operands⟩ condition := by
  unfold Condition.ofOperator at accepted
  split at accepted
  · rename_i column operands
    obtain ⟨⟨⟩, required, made⟩ := bind_ok accepted
    refine ⟨column, operands, rfl, require_column_ok required, ?_⟩
    by_cases membership : operator = .oneOf
    · cases membership
      cases operands with
      | nil => cases made
      | cons first others =>
        cases made
        exact .oneOf column (List.cons_ne_nil first others)
    · match operands with
      | [operand] =>
        refine comparison_compiled membership ?_
        cases operator <;> first
          | exact absurd rfl membership
          | exact made
      | [] => cases operator <;> first | exact absurd rfl membership | cases made
      | _ :: _ :: _ => cases operator <;> first | exact absurd rfl membership | cases made
  · cases accepted

/-- A name that is read as an operator is the name of the operator. -/
theorem parse_ok {name : String} {operator : Operator}
    (parsed : Operator.parse name = .ok operator) :
    (Operator.all.find? fun operator => operator.name == name) = some operator := by
  unfold Operator.parse at parsed
  split at parsed
  · rename_i found
    cases parsed
    exact found
  · cases parsed

/-- An entry of criteria compiles to what it demands. -/
theorem of_entry_compiled {entry : String × Argument}
    (accepted : Condition.ofEntry table source entry = .ok condition) :
    ∃ demand, ofEntry? entry = some demand ∧ table.hasColumn demand.column = true ∧
      demand.Compiled source condition := by
  unfold Condition.ofEntry at accepted
  unfold ofEntry?
  cases key : Operator.nameOfKey? entry.1 with
  | none =>
    simp only [key] at accepted ⊢
    cases argument : entry.2 with
    | scalar value =>
      rw [argument] at accepted
      obtain ⟨known, compiled⟩ := equality_compiled accepted
      exact ⟨_, rfl, known, compiled⟩
    | list values =>
      rw [argument] at accepted
      cases accepted
  | some name =>
    simp only [key] at accepted ⊢
    obtain ⟨operator, parsed, made⟩ := bind_ok accepted
    obtain ⟨column, operands, values, known, compiled⟩ := of_operator_compiled made
    exact ⟨_, by rw [parse_ok parsed, values], known, compiled⟩

/-! ### What compiled conditions are -/

/-- A condition that is compiled for a demand reads the column of the demand only. -/
theorem Compiled.within {names : Option String → String → Prop}
    (compiled : demand.Compiled source condition) (named : names source demand.column) :
    condition.Within names := by
  cases compiled with
  | isNull column => exact named
  | isNotNull column => exact named
  | compares column known present => exact ⟨named, trivial⟩
  | oneOf column nonempty => exact named

/-- Compiled conditions are read back next to a conjunction. -/
theorem Compiled.written (compiled : demand.Compiled source condition)
    (named : AreNames source demand.column) : condition.Written 3 := by
  cases compiled with
  | isNull column => exact .isNull (by decide) (.column named)
  | isNotNull column => exact .isNotNull (by decide) (.column named)
  | @compares operator binary column operand known present =>
    cases operator <;> cases known <;>
      first
        | exact .binary (rfl : Expression.binds _ = some 4) (by decide) (.column named) (.operand _)
        | exact .binary (rfl : Expression.binds _ = some 5) (by decide) (.column named) (.operand _)
  | oneOf column nonempty =>
    exact .oneOf (by decide) (.column named) (by simpa using nonempty)

/-! ### What compiled conditions mean -/

/-- A comparison is evaluated by the relation that it asks for. -/
theorem binary_of_binary? {operator : Operator} {operation : BinaryOperator}
    (known : operator.binary? = some operation) (affinity : Affinity) (left right : Stored) :
    Engine.binary operation affinity left right =
      comparison affinity operator.accepts left right := by
  cases operator <;> cases known <;> rfl

/-- A membership is known to be true if the target is not null and equals a candidate that is not
null. -/
theorem membership_true (affinity : Affinity) (target : Stored) (candidates : List Stored) :
    (membership affinity target candidates == some true) =
      (!target.isNull && candidates.any fun candidate =>
        !candidate.isNull && compareUnder affinity target candidate == .eq) := by
  unfold membership
  cases target.isNull with
  | true => rfl
  | false =>
    by_cases found : (candidates.any fun candidate =>
        !candidate.isNull && compareUnder affinity target candidate == .eq) = true
    · simp [found]
    · simp only [found, Bool.false_eq_true, if_false]
      split <;> simp

/-- A compiled condition, with its operands as they reach the engine, holds in a scope exactly if
the value of its column meets the demand. -/
theorem Compiled.holds (compiled : demand.Compiled source condition) {scope : Scope}
    {affinity : Affinity} {value : Stored}
    (found : scope.lookup? source demand.column = some (some affinity, value)) :
    holds scope (condition.mapOperands Stored.bound) = demand.isMetBy affinity value := by
  have read : scope.value source demand.column = value := Scope.value_of_lookup? found
  have decides : scope.affinity? source demand.column = some affinity :=
    Scope.affinity_of_lookup? found
  cases compiled with
  | isNull column =>
    simp only [Engine.holds, Expression.mapOperands, evaluate, unary, read, truth?_of_bool]
    change (some value.isNull == some true) = value.isNull
    cases value.isNull <;> rfl
  | isNotNull column =>
    simp only [Engine.holds, Expression.mapOperands, evaluate, unary, read, truth?_of_bool]
    change (some (!value.isNull) == some true) = !value.isNull
    cases value.isNull <;> rfl
  | @compares operator binary column operand known present =>
    have met : Demand.isMetBy affinity value ⟨column, operator, [operand]⟩ =
        operator.relates affinity value operand := by
      cases operator <;> cases known <;> cases operand <;> first | (cases present; done) | rfl
    simp only [Engine.holds, Expression.mapOperands, evaluate, affinityOf, read, decides,
      Affinity.between]
    rw [met, binary_of_binary? known, truth?_comparison]
    rfl
  | @oneOf column operands nonempty =>
    simp only [Engine.holds, Expression.mapOperands, evaluate, affinityOf, read, decides,
      truth?_of_truth, Option.getD_some]
    change (membership affinity value ((operands.map Value.stored).map Stored.bound) ==
      some true) = operands.any (Operator.oneOf.relates affinity value)
    rw [membership_true, List.map_map, List.any_map]
    have each : ∀ operand, Operator.oneOf.relates affinity value operand =
        (!value.isNull && (!operand.encoded.isNull &&
          compareUnder affinity value operand.encoded == .eq)) := by
      intro operand
      rw [← Bool.and_assoc]
      rfl
    rw [funext each]
    cases value.isNull <;> simp [Function.comp_def, Value.encoded]

end Demand

end RecordStore
