import Mathlib
import RecordStore.Proofs.Schema.Names

/-!
# Valid schemas

What a valid list of declarations is, said without the checks: about the characters of each name,
the words that the engine keeps for itself in any case, and what columns and tables have to do with
one another. A schema is made of exactly the valid lists, and of a valid list it is the list itself.
Whatever else is wrong is reported as a fault of one of the declared tables.
-/

namespace RecordStore

open Engine

/-! ### Names -/

/-- A letter of the ASCII alphabet, in either case. -/
def IsLetter (char : Char) : Prop :=
  ('A' ≤ char ∧ char ≤ 'Z') ∨ ('a' ≤ char ∧ char ≤ 'z')

/-- A digit of ASCII. -/
def IsDigit (char : Char) : Prop := '0' ≤ char ∧ char ≤ '9'

/-- A name that the engine reads as one word of its own: letters, digits and underscores, no digit
first, and no word that is kept in any case. -/
structure IsPlainName (name : String) : Prop where
  word : ∃ first rest, name.toList = first :: rest ∧ (IsLetter first ∨ first = '_') ∧
    ∀ char ∈ rest, IsLetter char ∨ IsDigit char ∨ char = '_'
  free : ∀ kept ∈ reservedWords, sameName name kept = false

/-- A name may start with a letter or an underscore. -/
theorem is_name_start_iff (char : Char) :
    isNameStart char = true ↔ IsLetter char ∨ char = '_' := by
  simp [isNameStart, Char.isAlpha, Char.isUpper, Char.isLower, IsLetter, Char.le_def]

/-- It may go on with letters, digits and underscores. -/
theorem is_name_rest_iff (char : Char) :
    isNameRest char = true ↔ IsLetter char ∨ IsDigit char ∨ char = '_' := by
  simp [isNameRest, Char.isAlphanum, Char.isAlpha, Char.isUpper, Char.isLower, Char.isDigit,
    IsLetter, IsDigit, Char.le_def, or_assoc]

/-- A word in capitals is a name in capitals exactly if the two are the same in any case. -/
theorem upper_eq_iff {name kept : String} (capitals : kept.map Char.toUpper = kept) :
    name.map Char.toUpper = kept ↔ sameName name kept = true := by
  rw [sameName, beq_iff_eq]
  constructor
  · rintro rfl
    simp [String.map_map, Function.comp_def, Char.toLower_toUpper_eq_toLower]
  · intro same
    have raised := congrArg (String.map Char.toUpper) same
    simpa [String.map_map, Function.comp_def, Char.toUpper_toLower_eq_toUpper,
      capitals] using raised

/-- A name is reserved exactly if it is a kept word in some case. -/
theorem is_reserved_iff (name : String) :
    isReserved name = true ↔ ∃ kept ∈ reservedWords, sameName name kept = true := by
  have raised : ∀ kept ∈ reservedWords, kept.toList.map Char.toUpper = kept.toList := by
    decide +kernel
  have capitals : ∀ kept ∈ reservedWords, kept.map Char.toUpper = kept := fun kept member =>
    String.toList_inj.mp (String.toList_map.trans (raised kept member))
  rw [isReserved, List.contains_iff_mem]
  constructor
  · intro member
    exact ⟨_, member, (upper_eq_iff (capitals _ member)).mp rfl⟩
  · rintro ⟨kept, member, same⟩
    rwa [(upper_eq_iff (capitals kept member)).mpr same]

/-- The check of a name accepts the plain names. -/
theorem is_identifier_iff (name : String) : isIdentifier name = true ↔ IsPlainName name := by
  have free : isReserved name = false ↔ ∀ kept ∈ reservedWords, sameName name kept = false := by
    rw [← Bool.not_eq_true, is_reserved_iff]
    simp
  rw [isIdentifier, Bool.and_eq_true, Bool.not_eq_true', free]
  constructor
  · rintro ⟨shape, unkept⟩
    cases letters : name.toList with
    | nil => simp [letters] at shape
    | cons first rest =>
      simp only [letters, Bool.and_eq_true, List.all_eq_true, is_name_start_iff,
        is_name_rest_iff] at shape
      exact ⟨⟨first, rest, letters, shape⟩, unkept⟩
  · rintro ⟨⟨first, rest, letters, shape⟩, unkept⟩
    simpa only [letters, Bool.and_eq_true, List.all_eq_true, is_name_start_iff,
      is_name_rest_iff] using And.intro shape unkept

/-! ### Valid declarations -/

/-- What a column of a valid table keeps to. -/
structure Column.IsValidIn (column : Column) (table : Table) : Prop where
  named : IsPlainName column.name
  /-- A column that the engine numbers is an integer, and no other column is in the key. -/
  numbered : column.autoincrement = true → column.type = .integer ∧ column.primaryKey = true ∧
    ∀ other ∈ table.columns, other.primaryKey = true → other.name = column.name
  /-- A column that is searched is a text of a table with a key. -/
  analyzed : column.analyzed = true →
    column.type = .string ∧ ∃ key ∈ table.columns, key.primaryKey = true

/-- A table that can be declared by itself. -/
structure Table.IsValid (table : Table) : Prop where
  named : IsPlainName table.name
  some_column : table.columns ≠ []
  distinct : (table.columns.map Column.name).Nodup
  columns : ∀ column ∈ table.columns, column.IsValidIn table

/-- Tables that can be declared together. -/
structure AreValid (tables : List Table) : Prop where
  distinct : (tables.map Table.name).Nodup
  each : ∀ table ∈ tables, table.IsValid
  /-- No table is called what the full-text table of an analyzed table is called. -/
  clear : ∀ table ∈ tables, (∃ column ∈ table.columns, column.analyzed = true) →
    ∀ other ∈ tables, other.name ≠ "fts_" ++ table.name

/-- The names of the key columns, in the order in which the columns are declared. -/
structure IsKeyOf (key : List String) (table : Table) : Prop where
  ordered : key.Sublist (table.columns.map Column.name)
  complete : ∀ column ∈ table.columns, column.name ∈ key ↔ column.primaryKey = true

namespace Table

/-- The key of a table is the list of its key columns in the order of their declaration. -/
theorem primary_key_is_key_of {table : Table} (distinct : (table.columns.map Column.name).Nodup) :
    IsKeyOf table.primaryKey table := by
  refine ⟨List.filter_sublist.map Column.name, fun column member => ?_⟩
  rw [mem_primary_key]
  constructor
  · rintro ⟨other, among, isKey, named⟩
    rwa [← List.inj_on_of_nodup_map distinct among member named]
  · intro isKey
    exact ⟨column, member, isKey, rfl⟩

/-! ### What the checks accept -/

/-- A column by itself is faultless if it is admitted and its name is new. -/
theorem column_fault?_eq_none {before : List String} {column : Column}
    (admitted : column.IsAdmitted) (new : column.name ∉ before) :
    columnFault? before column = none := by
  have integer : (column.autoincrement && column.type != .integer) = false := by
    cases numbered : column.autoincrement with
    | false => rfl
    | true => simp [(admitted.numbered numbered).1]
  have key : (column.autoincrement && !column.primaryKey) = false := by
    cases numbered : column.autoincrement with
    | false => rfl
    | true => simp [(admitted.numbered numbered).2]
  have text : (column.analyzed && column.type != .string) = false := by
    cases analyzed : column.analyzed with
    | false => rfl
    | true => simp [admitted.analyzed analyzed]
  simp [columnFault?, admitted.identifier, new, integer, key, text]

/-- Admitted columns with names of their own have no fault. By induction on the columns. -/
theorem columns_fault?_eq_none {columns : List Column} {before : List String}
    (admitted : ∀ column ∈ columns, column.IsAdmitted)
    (distinct : (before ++ columns.map Column.name).Nodup) :
    columnsFault? before columns = none := by
  induction columns generalizing before with
  | nil => rfl
  | cons column rest inductionHypothesis =>
    have shifted : before ++ (column :: rest).map Column.name =
        (before ++ [column.name]) ++ rest.map Column.name := by simp
    have new : column.name ∉ before := by
      intro taken
      exact (List.nodup_append.mp distinct).2.2 column.name taken column.name (by simp) rfl
    rw [shifted] at distinct
    have later := inductionHypothesis (fun other member => admitted other (.tail _ member)) distinct
    simp only [columnsFault?, column_fault?_eq_none (admitted column List.mem_cons_self) new, later]

/-- A table has no fault exactly if it is admitted and its columns have different names. -/
theorem fault?_eq_none_iff {table : Table} :
    table.fault? = none ↔ table.IsAdmitted ∧ table.columnNames.Nodup := by
  constructor
  · intro faultless
    exact ⟨is_admitted_of_fault? faultless, column_names_nodup faultless⟩
  · rintro ⟨admitted, distinct⟩
    have some : table.columns.isEmpty = false := by simpa using admitted.some_column
    have columns : columnsFault? [] table.columns = none :=
      columns_fault?_eq_none admitted.columns distinct
    have few : ¬ 1 < table.autoincrementColumns.length := by
      simpa [autoincrementColumns] using admitted.numbered_few
    have alone : (!table.autoincrementColumns.isEmpty && decide (1 < table.primaryKey.length)) =
        false := by
      by_cases none : table.autoincrementColumns = []
      · simp [none]
      · simpa [none] using admitted.numbers_alone none
    have keyed : (table.primaryKey.isEmpty && table.isAnalyzed) = false := by
      cases analyzed : table.isAnalyzed with
      | false => simp
      | true => simpa using admitted.keyed analyzed
    simp only [fault?, admitted.identifier, some, columns, few, alone, keyed]
    simp

/-- The key has one column at most exactly if no two columns of different names are in it. -/
theorem primary_key_alone {table : Table} {column : Column} (member : column ∈ table.columns)
    (isKey : column.primaryKey = true) (distinct : table.columnNames.Nodup) :
    table.primaryKey.length ≤ 1 ↔
      ∀ other ∈ table.columns, other.primaryKey = true → other.name = column.name := by
  have inKey : column.name ∈ table.primaryKey := mem_primary_key.mpr ⟨column, member, isKey, rfl⟩
  constructor
  · intro few other among otherKey
    have second : other.name ∈ table.primaryKey := mem_primary_key.mpr ⟨other, among, otherKey, rfl⟩
    obtain ⟨key, alone⟩ : ∃ key, table.primaryKey = [key] :=
      List.length_eq_one_iff.mp (Nat.le_antisymm few (List.length_pos_of_mem inKey))
    rw [alone, List.mem_singleton] at inKey second
    exact second.trans inKey.symm
  · intro alone
    have nodup : table.primaryKey.Nodup := distinct.sublist (List.filter_sublist.map Column.name)
    have within : table.primaryKey ⊆ [column.name] := by
      intro name inside
      obtain ⟨other, among, otherKey, rfl⟩ := mem_primary_key.mp inside
      exact List.mem_singleton.mpr (alone other among otherKey)
    simpa using (nodup.subperm within).length_le

/-- The checks of a table accept the valid tables. -/
theorem fault?_eq_none_iff_is_valid {table : Table} : table.fault? = none ↔ table.IsValid := by
  rw [fault?_eq_none_iff]
  constructor
  · rintro ⟨admitted, distinct⟩
    refine ⟨(is_identifier_iff _).mp admitted.identifier, admitted.some_column, distinct,
      fun column member => ⟨(is_identifier_iff _).mp (admitted.columns column member).identifier,
        fun numbered => ?_, fun analyzed => ⟨(admitted.columns column member).analyzed analyzed,
          ?_⟩⟩⟩
    · obtain ⟨integer, isKey⟩ := (admitted.columns column member).numbered numbered
      have some : table.autoincrementColumns ≠ [] :=
        List.ne_nil_of_mem (List.mem_map_of_mem (List.mem_filter.mpr ⟨member, numbered⟩))
      exact ⟨integer, isKey,
        (primary_key_alone member isKey distinct).mp (admitted.numbers_alone some)⟩
    · have searched : table.isAnalyzed = true := List.any_eq_true.mpr ⟨column, member, analyzed⟩
      obtain ⟨name, inKey⟩ := List.exists_mem_of_ne_nil _ (admitted.keyed searched)
      obtain ⟨key, among, isKey, -⟩ := mem_primary_key.mp inKey
      exact ⟨key, among, isKey⟩
  · intro valid
    refine ⟨⟨(is_identifier_iff _).mpr valid.named, valid.some_column, fun column member => ?_,
      fun some => ?_, fun searched => ?_⟩, valid.distinct⟩
    · have rules := valid.columns column member
      exact ⟨(is_identifier_iff _).mpr rules.named,
        fun numbered => ⟨(rules.numbered numbered).1, (rules.numbered numbered).2.1⟩,
        fun analyzed => (rules.analyzed analyzed).1⟩
    · obtain ⟨name, inside⟩ := List.exists_mem_of_ne_nil _ some
      obtain ⟨column, found, -⟩ := List.mem_map.mp inside
      obtain ⟨member, numbered⟩ := List.mem_filter.mp found
      obtain ⟨-, isKey, alone⟩ := (valid.columns column member).numbered numbered
      exact (primary_key_alone member isKey valid.distinct).mpr alone
    · obtain ⟨column, member, analyzed⟩ := List.any_eq_true.mp searched
      obtain ⟨-, key, among, isKey⟩ := (valid.columns column member).analyzed analyzed
      exact List.ne_nil_of_mem (mem_primary_key.mpr ⟨key, among, isKey, rfl⟩)

end Table

namespace Schema

/-- Faultless tables with names of their own are declared without a fault. By induction on the
tables. -/
theorem declaration_fault?_eq_none {tables : List Table} {before : List String}
    (faultless : ∀ table ∈ tables, table.fault? = none)
    (distinct : (before ++ tables.map Table.name).Nodup) :
    declarationFault? before tables = none := by
  induction tables generalizing before with
  | nil => rfl
  | cons table rest inductionHypothesis =>
    have shifted : before ++ (table :: rest).map Table.name =
        (before ++ [table.name]) ++ rest.map Table.name := by simp
    have new : table.name ∉ before := by
      intro taken
      exact (List.nodup_append.mp distinct).2.2 table.name taken table.name (by simp) rfl
    rw [shifted] at distinct
    have later := inductionHypothesis (fun other member =>
      faultless other (.tail _ member)) distinct
    simp [declarationFault?, new, faultless table List.mem_cons_self, later]

/-- Where no full-text table has the name of a declared table, no collision is found. -/
theorem collision?_eq_none {names : List String} {tables : List Table}
    (clear : ∀ table ∈ tables, table.isAnalyzed = true → table.shadowName ∉ names) :
    collision? names tables = none := by
  induction tables with
  | nil => rfl
  | cons table rest inductionHypothesis =>
    have later := inductionHypothesis fun other member => clear other (.tail _ member)
    cases analyzed : table.isAnalyzed with
    | false => simpa [collision?, Table.shadowName?, analyzed] using later
    | true =>
      have absent := clear table List.mem_cons_self analyzed
      simpa [collision?, Table.shadowName?, analyzed, absent] using later

/-- A fault of the declarations is a fault of one of them. -/
theorem declaration_fault?_some {tables : List Table} {before : List String} {problem : StoreError}
    (found : declarationFault? before tables = some problem) :
    ∃ table ∈ tables, ∃ reason, problem = .schemaConfiguration table.name reason := by
  induction tables generalizing before with
  | nil => cases found
  | cons table rest inductionHypothesis =>
    rw [declarationFault?] at found
    split at found
    · exact ⟨table, List.mem_cons_self, _, (Option.some.inj found).symm⟩
    · split at found
      · exact ⟨table, List.mem_cons_self, _, (Option.some.inj found).symm⟩
      · obtain ⟨other, member, reason, cause⟩ := inductionHypothesis found
        exact ⟨other, .tail _ member, reason, cause⟩

/-- A collision is reported as the fault of one of the tables. -/
theorem collision?_some {names : List String} {tables : List Table} {problem : StoreError}
    (found : collision? names tables = some problem) :
    ∃ table ∈ tables, ∃ reason, problem = .schemaConfiguration table.name reason := by
  induction tables with
  | nil => cases found
  | cons table rest inductionHypothesis =>
    have later : collision? names rest = some problem →
        ∃ other ∈ table :: rest, ∃ reason, problem = .schemaConfiguration other.name reason := by
      intro behind
      obtain ⟨other, member, cause⟩ := inductionHypothesis behind
      exact ⟨other, .tail _ member, cause⟩
    rw [collision?] at found
    split at found
    · split at found
      · exact ⟨table, List.mem_cons_self, _, (Option.some.inj found).symm⟩
      · exact later found
    · exact later found

/-- The checks of declarations accept the valid lists. -/
theorem of_tables_is_ok_iff (tables : List Table) :
    ofTables tables = .ok ⟨tables⟩ ↔ AreValid tables := by
  constructor
  · intro accepted
    obtain ⟨distinct, -, clear⟩ := of_tables_names accepted
    refine ⟨distinct, fun table member =>
      Table.fault?_eq_none_iff_is_valid.mp (of_tables_fault? accepted table member), ?_⟩
    rintro table member ⟨column, among, analyzed⟩ other declared same
    exact clear table member (List.any_eq_true.mpr ⟨column, among, analyzed⟩)
      (List.mem_map.mpr ⟨other, declared, same⟩)
  · intro valid
    have faultless : declarationFault? [] tables = none :=
      declaration_fault?_eq_none
        (fun table member => Table.fault?_eq_none_iff_is_valid.mpr (valid.each table member))
        valid.distinct
    have clear : collision? (tables.map Table.name) tables = none := by
      refine collision?_eq_none fun table member searched taken => ?_
      obtain ⟨other, declared, same⟩ := List.mem_map.mp taken
      exact valid.clear table member (List.any_eq_true.mp searched) other declared same
    simp only [ofTables, faultless, clear]

/-- What a schema refuses is the configuration of one of its tables. -/
theorem of_tables_error {tables : List Table} {problem : StoreError}
    (refused : ofTables tables = .error problem) :
    ∃ table ∈ tables, ∃ reason, problem = .schemaConfiguration table.name reason := by
  rw [ofTables] at refused
  split at refused
  · cases refused
    exact declaration_fault?_some ‹_›
  · split at refused
    · cases refused
      exact collision?_some ‹_›
    · cases refused

end Schema

/-- Of declarations a schema can be made exactly if they are valid. It then consists of these
tables, in the order in which they were declared and as they were declared, and the key of each of
them is made of its key columns in their order. What cannot be made a schema is refused for the
configuration of one of the tables.

Proof: each check finds no fault exactly if its part of the declarations is valid, by induction on
the columns and on the tables. -/
theorem schema_takes_exactly_the_valid (tables : List Table) :
    ((∃ schema, Schema.ofTables tables = .ok schema) ↔ AreValid tables) ∧
      (∀ schema, Schema.ofTables tables = .ok schema → schema.tables = tables ∧
        ∀ table ∈ schema.tables, IsKeyOf table.primaryKey table) ∧
      ∀ problem, Schema.ofTables tables = .error problem →
        ∃ table ∈ tables, ∃ reason, problem = .schemaConfiguration table.name reason := by
  refine ⟨⟨?_, fun valid => ⟨_, (Schema.of_tables_is_ok_iff tables).mpr valid⟩⟩, ?_,
    fun problem refused => Schema.of_tables_error refused⟩
  · rintro ⟨schema, accepted⟩
    have same : schema = ⟨tables⟩ := by rw [← Schema.of_tables_tables accepted]
    exact (Schema.of_tables_is_ok_iff tables).mp (same ▸ accepted)
  · intro schema accepted
    exact ⟨Schema.of_tables_tables accepted, fun table member =>
      Table.primary_key_is_key_of ((Schema.of_tables_names accepted).2.1 table member)⟩

/-- A keyword is no name in any case, also in one that nobody writes. -/
example : isIdentifier "gRoUp" = false ∧ isIdentifier "groups_1" = true := by decide +kernel

end RecordStore
