import RecordStore.Proofs.Query.Keys
import RecordStore.Proofs.Query.Meaning
import RecordStore.Proofs.Store.SoundTables

/-!
# The rows of a key

What a key asks of the key columns is met by one row at most of a table whose rows stand apart, for
two rows that meet it have the same key. Only the nulls of a key are not told apart where the key is
one column that may be null and does not number the rows, so a key that is null there can be met by
any number of rows.
-/

namespace RecordStore

open Engine Sql

/-! ### Equal values -/

namespace Demand

variable {affinity : Affinity} {column : String} {value : Value} {left right : Stored}

/-- Only null equals null. -/
theorem value_of_is_null (met : isMetBy affinity left ⟨column, .equal, [value]⟩ = true)
    (null : left.isNull = true) : value = .null := by
  cases value with
  | null => rfl
  | _ =>
    have related := (Bool.and_eq_true_iff.mp (show Operator.equal.relates affinity left _ =
      true from met)).1
    simp [null] at related

/-- Stored values that equal the same value are the same in the order. -/
theorem order_of_is_met_by (leftKept : affinity.compareAs left = left)
    (rightKept : affinity.compareAs right = right)
    (leftMet : isMetBy affinity left ⟨column, .equal, [value]⟩ = true)
    (rightMet : isMetBy affinity right ⟨column, .equal, [value]⟩ = true) :
    left.order right = .eq := by
  cases value with
  | null =>
    have leftNull : left.isNull = true := leftMet
    have rightNull : right.isNull = true := rightMet
    cases left <;> cases leftNull
    cases right <;> cases rightNull
    rfl
  | _ => exact Operator.order_of_relates leftKept rightKept leftMet rightMet

end Demand

/-- Only a table with a key accepts one. -/
theorem Key.keyed_of_accepted {key : Key} {table : Table} {criteria : Criteria}
    (accepts : key.criteria table = .ok criteria) : table.primaryKey ≠ [] := by
  intro none
  simp [Key.criteria, none] at accepts

/-- A key that is null where nulls are not told apart: in a key of one column that may be null and
that does not number the rows. -/
def Key.NamesNull (key : Key) (table : Table) : Prop :=
  ∃ column ∈ table.columns, table.primaryKey = [column.name] ∧ column.nullable = true ∧
    column.type.affinity ≠ .integer ∧ key.value column.name = .null

namespace Table

variable {table : Table} {database : Database} {relation : Relation} {key : Key}
  {criteria : Criteria} {left right row : Row}

/-- Whether a row has in each key column what a key gives for it. -/
def hasKey (table : Table) (key : Key) (values : List Stored) : Bool :=
  table.primaryKey.all fun column =>
    Demand.isMetIn table values ⟨column, .equal, [key.value column]⟩

/-- A key that is accepted asks that a row have it. -/
theorem is_met_in_of_accepted (admitted : table.IsAdmitted) (apart : ToldApart table.columnNames)
    (accepts : key.criteria table = .ok criteria) (values : List Stored) :
    criteria.isMetIn table values = table.hasKey key values := by
  obtain ⟨distinct, known⟩ := primary_key_plain admitted apart.nodup
  obtain ⟨keyed, rfl⟩ := Key.criteria_ok distinct accepts
  exact (Criteria.equating_compiles key.value keyed known).2 values

/-- What it asks compiles. -/
theorem IsKeptIn.key_states (kept : table.IsKeptIn database relation)
    (faultless : table.fault? = none) (accepts : key.criteria table = .ok criteria) : ∃ conditions,
      statedConditions (some criteria) none table none = .ok conditions := by
  obtain ⟨distinct, known⟩ := primary_key_plain (is_admitted_of_fault? faultless) kept.distinct
  obtain ⟨keyed, rfl⟩ := Key.criteria_ok distinct accepts
  exact (Criteria.equating_compiles key.value keyed known).1

/-- The condition of criteria holds on the rows that meet the criteria. -/
theorem IsReadIn.holds_criteria (read : table.IsReadIn database relation)
    (faultless : table.fault? = none) {action : String} {condition : Condition}
    (compiled : criteria.condition table action = .ok condition) :
    ∀ row ∈ relation.rows, holds [relation.binding table.name row]
      (condition.mapOperands Stored.bound) = criteria.isMetIn table row.values := by
  obtain ⟨stated?, states, compiled⟩ := bind_ok compiled
  obtain ⟨conditions, stated, same⟩ := bind_ok states
  cases same
  let request : Request := { criteria := some criteria }
  obtain ⟨-, decides⟩ := request.condition_decides faultless read stated
  cases whole : Expression.conjunction? conditions with
  | none =>
    rw [whole] at compiled
    cases compiled
  | some single =>
    rw [whole] at compiled decides
    cases compiled
    exact decides

/-- The rows under the condition of criteria are those that meet the criteria. -/
theorem IsReadIn.rows_under_criteria (read : table.IsReadIn database relation)
    (faultless : table.fault? = none) {action : String} {condition : Condition}
    (compiled : criteria.condition table action = .ok condition) :
    table.rowsUnder relation (condition.mapOperands Stored.bound) =
      relation.rows.filter fun row => criteria.isMetIn table row.values :=
  List.filter_congr (read.holds_criteria faultless compiled)

/-- Two rows that have a key have the same key. -/
theorem IsKeptIn.key_order_of_has_key (kept : table.IsKeptIn database relation)
    (leftMember : left ∈ relation.rows) (rightMember : right ∈ relation.rows)
    (leftHas : table.hasKey key left.values = true)
    (rightHas : table.hasKey key right.values = true) :
    Relation.keyOrder (relation.project table.primaryKey left)
      (relation.project table.primaryKey right) = .eq := by
  rw [hasKey, List.all_eq_true] at leftHas rightHas
  rw [Relation.project, Relation.project, Relation.key_order_map_eq]
  intro name inKey
  obtain ⟨column, member, -, rfl⟩ := mem_primary_key.mp inKey
  rw [kept.is_read_in.value, kept.is_read_in.value]
  exact Demand.order_of_is_met_by (kept.compare_as_value member leftMember)
    (kept.compare_as_value member rightMember) (leftHas _ inKey) (rightHas _ inKey)

/-- A column that cannot be null has a value in each row. -/
theorem IsSoundIn.required (held : table.IsSoundIn database relation) {attr : Attribute}
    (member : attr ∈ relation.attributes) (required : attr.required = true)
    (rowMember : row ∈ relation.rows) : (relation.value row attr.name).isNull = false := by
  have complete := held.sound.complete row rowMember
  rw [Relation.missing?, Option.map_eq_none_iff, List.find?_eq_none] at complete
  simpa [required] using complete attr member

/-- Where the rows have numbers that no column shows, a row with a key has no null in its key,
unless the key is null where nulls are not told apart. -/
theorem IsSoundIn.keyed_of_has_key (held : table.IsSoundIn database relation)
    (keyed : table.primaryKey ≠ []) (names : ¬ key.NamesNull table) (member : row ∈ relation.rows)
    (has : table.hasKey key row.values = true) (hidden : relation.identity = .hidden) :
    relation.HasKey table.primaryKey row := by
  obtain ⟨text, made, definition, same⟩ := held.made
  have madeHidden : made.identity = .hidden := by rwa [same] at hidden
  obtain ⟨column, among, alone, notInteger⟩ := relation_of_hidden definition keyed madeHidden
  intro name inKey
  obtain rfl : name = column.name := by simpa [alone] using inKey
  rw [Bool.eq_false_iff]
  intro null
  have given : key.value column.name = .null := by
    rw [hasKey, List.all_eq_true] at has
    rw [held.is_read_in.value] at null
    exact Demand.value_of_is_null (has column.name inKey) null
  have required : column.nullable = false :=
    eq_false_of_ne_true fun nullable => names ⟨column, among, alone, nullable, notInteger, given⟩
  have listed : column.attribute ∈ relation.attributes := by
    have single : table.hasCompositeKey = false := by simp [hasCompositeKey, alone]
    rw [held.attributes, attributes, single]
    exact List.mem_map_of_mem among
  have present := held.required listed (by simp [Column.attribute, required]) member
  cases null.symm.trans present

/-- A key is had by one row at most. -/
theorem IsSoundIn.one_has_key (held : table.IsSoundIn database relation)
    (keyed : table.primaryKey ≠ []) (names : ¬ key.NamesNull table) :
    (relation.rows.filter fun row => table.hasKey key row.values).length ≤ 1 := by
  refine few_of_pairwise (held.sound.apart.filter _) fun left leftIn right rightIn apart => ?_
  obtain ⟨leftMember, leftHas⟩ := List.mem_filter.mp leftIn
  obtain ⟨rightMember, rightHas⟩ := List.mem_filter.mp rightIn
  have different := apart.key_order (held.keyed keyed)
    (fun column again shown => ⟨(held.rows left leftMember).numbered column again shown,
      (held.rows right rightMember).numbered column again shown⟩)
    (held.keyed_of_has_key keyed names leftMember leftHas)
  exact different (held.key_order_of_has_key leftMember rightMember leftHas rightHas)

section Accepted

variable (held : table.IsSoundIn database relation) (faultless : table.fault? = none)
  (accepts : key.criteria table = .ok criteria) (names : ¬ key.NamesNull table)

include held faultless accepts names

/-- What a key that is accepted asks is met by one row at most. -/
theorem IsSoundIn.few :
    (relation.rows.filter fun row => criteria.isMetIn table row.values).length ≤ 1 := by
  have keyed := Key.keyed_of_accepted accepts
  simp only [is_met_in_of_accepted (is_admitted_of_fault? faultless) held.apart accepts]
  exact held.one_has_key keyed names

/-- So its condition holds of one row at most. -/
theorem IsSoundIn.few_under {action : String} {condition : Condition}
    (compiled : criteria.condition table action = .ok condition) :
    (table.rowsUnder relation (condition.mapOperands Stored.bound)).length ≤ 1 := by
  rw [held.is_read_in.rows_under_criteria faultless compiled]
  exact held.few faultless accepts names

end Accepted

end Table

end RecordStore
