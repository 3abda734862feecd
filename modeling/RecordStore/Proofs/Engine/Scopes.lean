import RecordStore.Proofs.Engine.Attributes

/-!
# What names stand for

A column of a row stands for its value with the affinity of its attribute. In a scope a name
with a source is looked up in the rows under the name of the source, and a name without one in
the first row that has it.
-/

namespace RecordStore.Engine

open Sql

/-- A row of a relation stands for its values, under whatever name. -/
theorem Relation.lookup?_binding {relation : Relation} {row : Row} {column : String}
    {attr : Attribute} (name : String)
    (lengths : row.values.length = relation.attributes.length)
    (means : meant? relation.attributes column = some attr) :
    (relation.binding name row).lookup? column =
      some (some attr.affinity, relation.value row column) := by
  unfold Binding.lookup? Relation.binding
  rw [among_eq lengths means]
  rfl

/-- So does a row of a full-text table. -/
theorem FullTextTable.lookup?_binding {table : FullTextTable} {row : Row} {column : String}
    {attr : Attribute} (name : String) (rank : Stored)
    (lengths : row.values.length = table.attributes.length)
    (means : Relation.meant? table.attributes column = some attr) :
    (table.binding name row rank).lookup? column =
      some (some attr.affinity, Relation.valueIn table.attributes row.values column) := by
  unfold Binding.lookup? FullTextTable.binding
  rw [Relation.among_eq lengths means]

/-- The columns of a full-text table have no affinity that converts. -/
theorem FullTextTable.affinity_of_meant? {table : FullTextTable} {column : String}
    {attr : Attribute} (means : Relation.meant? table.attributes column = some attr) :
    attr.affinity = .blob := by
  obtain ⟨declared, -, rfl⟩ := List.mem_map.mp (List.mem_of_find?_eq_some means)
  rfl

namespace Scope

variable {binding : Binding} {rest : Scope} {column : String}
  {found : Option Affinity × Stored}

/-- A name without a source is found in the first row that has it. -/
theorem lookup?_first (has : binding.lookup? column = some found) :
    Scope.lookup? (binding :: rest) none column = some found := by
  simp [Scope.lookup?, has]

/-- A name with a source is found in the row of the source. -/
theorem lookup?_named {source : String} (named : sameName binding.name source = true)
    (has : binding.lookup? column = some found) :
    Scope.lookup? (binding :: rest) (some source) column = some found := by
  simp [Scope.lookup?, named, has]

/-- A row under another name is passed over. -/
theorem lookup?_skip {source : String} (other : sameName binding.name source = false) :
    Scope.lookup? (binding :: rest) (some source) column =
      Scope.lookup? rest (some source) column := by
  simp [Scope.lookup?, other]

/-- The value under a name is the one that is found there. -/
theorem value_of_lookup? {scope : Scope} {source : Option String}
    (has : scope.lookup? source column = some found) : scope.value source column = found.2 := by
  simp [Scope.value, has]

/-- The affinity under a name is the one that is found there. -/
theorem affinity_of_lookup? {scope : Scope} {source : Option String}
    (has : scope.lookup? source column = some found) :
    scope.affinity? source column = found.1 := by
  simp [Scope.affinity?, has]

end Scope

/-! ### Conditions -/

/-- A truth value is read back from its number. -/
@[simp] theorem truth?_of_bool (value : Bool) : (Stored.ofBool value).truth? = some value := by
  cases value <;> rfl

/-- A truth value that may be unknown is read back, too. -/
@[simp] theorem truth?_of_truth (value : Option Bool) : (Stored.ofTruth value).truth? = value := by
  cases value with
  | none => rfl
  | some value => exact truth?_of_bool value

/-- A comparison is known to be true if neither side is null and their order under the affinity
is right. -/
theorem truth?_comparison (affinity : Affinity) (decided : Ordering → Bool)
    (left right : Stored) : ((comparison affinity decided left right).truth? == some true) =
      (!left.isNull && !right.isNull && decided (compareUnder affinity left right)) := by
  unfold comparison
  by_cases null : (left.isNull || right.isNull) = true
  · rw [if_pos null]
    cases leftNull : left.isNull <;> simp_all [Stored.truth?]
  · rw [if_neg null, truth?_of_bool]
    cases leftNull : left.isNull <;> simp_all

/-- Two values that are known to be equal: neither is null, and the order under the affinity
does not tell them apart. -/
theorem truth?_equal (affinity : Affinity) (left right : Stored) :
    ((binary .equal affinity left right).truth? == some true) =
      (!left.isNull && !right.isNull && compareUnder affinity left right == .eq) :=
  truth?_comparison affinity (· == .eq) left right

end RecordStore.Engine
