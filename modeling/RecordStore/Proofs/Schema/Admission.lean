import RecordStore.Proofs.Schema.Layout
import RecordStore.Schema.Registry

/-!
# Tables that a schema admits

What a table without a fault is like: its name and the names of its columns are identifiers, a
column that the engine numbers by itself is the whole integer key, an analyzed column is a text, and
where columns are analyzed there is a key. The relation of such a table shows the numbers of its
rows in the column that is to be numbered.
-/

namespace RecordStore

open Engine

/-- What a column without a fault is like by itself. -/
structure Column.IsAdmitted (column : Column) : Prop where
  identifier : isIdentifier column.name = true
  numbered : column.autoincrement = true → column.type = .integer ∧ column.primaryKey = true
  analyzed : column.analyzed = true → column.type = .string

namespace Table

/-- A column in which no fault is found is one that is admitted. -/
theorem column_fault?_none {before : List String} {column : Column}
    (faultless : columnFault? before column = none) : column.IsAdmitted := by
  unfold columnFault? at faultless
  repeat' split at faultless
  all_goals cases faultless
  rename_i identifier _ integer key text
  refine ⟨by simpa using identifier, fun numbered => ⟨?_, ?_⟩, fun analyzed => ?_⟩
  · simpa [numbered] using integer
  · simpa [numbered] using key
  · simpa [analyzed] using text

/-- Where no fault is found in columns, each of them is admitted. By induction on the columns. -/
theorem columns_fault?_none {columns : List Column} {before : List String}
    (faultless : columnsFault? before columns = none) : ∀ column ∈ columns, column.IsAdmitted := by
  induction columns generalizing before with
  | nil => exact nofun
  | cons first rest inductionHypothesis =>
    unfold columnsFault? at faultless
    cases fault : columnFault? before first with
    | some reason => simp [fault] at faultless
    | none =>
      rw [fault] at faultless
      intro column member
      rcases List.mem_cons.mp member with rfl | later
      · exact column_fault?_none fault
      · exact inductionHypothesis faultless column later

/-- What a table without a fault is like. -/
structure IsAdmitted (table : Table) : Prop where
  identifier : isIdentifier table.name = true
  some_column : table.columns ≠ []
  columns : ∀ column ∈ table.columns, column.IsAdmitted
  numbers_alone : table.autoincrementColumns ≠ [] → table.primaryKey.length ≤ 1
  keyed : table.isAnalyzed = true → table.primaryKey ≠ []

variable {table : Table}

/-- A faultless table is admitted: all its columns are, and there is no other fault. -/
theorem is_admitted_of_fault? (faultless : table.fault? = none) : table.IsAdmitted := by
  unfold fault? at faultless
  split at faultless
  · cases faultless
  · split at faultless
    · cases faultless
    · split at faultless
      · cases faultless
      · repeat' split at faultless
        all_goals cases faultless
        rename_i identifier some _ columns _ alone keyed
        refine ⟨by simpa using identifier, by simpa using some, columns_fault?_none columns,
          fun numbers => ?_, fun analyzed keyless => ?_⟩
        · simpa [numbers] using alone
        · simp [keyless, analyzed] at keyed

/-- A column that the engine numbers by itself is the whole key. -/
theorem IsAdmitted.autoincrement_key? (admitted : table.IsAdmitted)
    (apart : ToldApart table.columnNames) {column : Column} (member : column ∈ table.columns)
    (numbered : column.autoincrement = true) : table.autoincrementKey? = some column.name := by
  have isKey := ((admitted.columns column member).numbered numbered).2
  have inKey : column.name ∈ table.primaryKey := mem_primary_key.mpr ⟨column, member, isKey, rfl⟩
  have few : table.primaryKey.length ≤ 1 := by
    refine admitted.numbers_alone (List.ne_nil_of_mem (a := column.name) ?_)
    exact List.mem_map_of_mem (List.mem_filter.mpr ⟨member, numbered⟩)
  obtain ⟨key, alone⟩ : ∃ key, table.primaryKey = [key] :=
    List.length_eq_one_iff.mp (Nat.le_antisymm few (List.length_pos_of_mem inKey))
  have named : column.name = key := by simpa [alone] using inKey
  have found : table.column? key = some column := named ▸ column?_of_mem apart member
  unfold Table.autoincrementKey?
  rw [alone]
  simp [found, numbered, named]

end Table

namespace Engine

/-- The relation of a table shows the numbers of its rows in the column that the engine is to number
by itself. -/
theorem relation_of_autoincrement {table : Table} {text key : String} {relation : Relation}
    (admitted : table.IsAdmitted) (numbered : table.autoincrementKey? = some key)
    (made : relationOf table.definition text = .ok relation) :
    relation.identity = .shown key true := by
  obtain ⟨apart, -⟩ := relation_of_ok made
  obtain ⟨alone, column, member, numbers, rfl⟩ := autoincrement_key?_column apart numbered
  have integer : column.type = .integer :=
    ((admitted.columns column member).numbered (Bool.and_eq_true_iff.mp numbers).1).1
  rcases relation_of_single made member alone with ⟨-, shown⟩ | ⟨other, -⟩
  · rw [shown, numbered, Option.isSome_some]
  · exact absurd (by rw [integer, ColumnType.affinity]) other

end Engine

end RecordStore
