import RecordStore.Proofs.Engine.Namesakes
import RecordStore.Proofs.Store.Tables

/-!
# The names of a schema

A schema has no table twice and no column of a table twice, and the full-text table of no table has
the name of a declared one; all of that is checked letter by letter. The engine compares names
whatever their case. It makes the relation of a table that a schema admits exactly if the names of
its columns are told apart, and otherwise complains about one of them.
-/

namespace RecordStore

open Engine Sql

/-! ### Names that are checked -/

namespace Table

/-- Columns without a fault have names of their own, beside those before. By induction on the
columns. -/
theorem columns_fault?_names {columns : List Column} {before : List String}
    (distinct : before.Nodup)
    (faultless : columnsFault? before columns = none) :
    (before ++ columns.map Column.name).Nodup := by
  induction columns generalizing before with
  | nil => rwa [List.map_nil, List.append_nil]
  | cons column rest inductionHypothesis =>
    unfold columnsFault? at faultless
    cases fault : columnFault? before column with
    | some reason => simp [fault] at faultless
    | none =>
      rw [fault] at faultless
      have new : column.name ∉ before := by
        intro taken
        unfold columnFault? at fault
        rw [if_pos (List.contains_iff_mem.mpr taken)] at fault
        split at fault <;> cases fault
      have next : ((before ++ [column.name]) ++ rest.map Column.name).Nodup :=
        inductionHypothesis (List.nodup_append.mpr ⟨distinct, by simp, by
          rintro name member other isColumn rfl
          exact new (List.mem_singleton.mp isColumn ▸ member)⟩) faultless
      simpa using next

/-- No two columns of a faultless table have one name. -/
theorem column_names_nodup {table : Table} (faultless : table.fault? = none) :
    table.columnNames.Nodup := by
  unfold fault? at faultless
  split at faultless
  · cases faultless
  · split at faultless
    · cases faultless
    · split at faultless
      · cases faultless
      · rename_i columns
        exact columns_fault?_names .nil columns

end Table

namespace Schema

/-- Tables that are declared without a fault have names of their own, beside those before. By
induction on the tables. -/
theorem declaration_fault?_names {tables : List Table} {before : List String}
    (distinct : before.Nodup) (accepted : declarationFault? before tables = none) :
    (before ++ tables.map Table.name).Nodup := by
  induction tables generalizing before with
  | nil => rwa [List.map_nil, List.append_nil]
  | cons table rest inductionHypothesis =>
    unfold declarationFault? at accepted
    split at accepted
    · cases accepted
    · rename_i new
      split at accepted
      · cases accepted
      · have absent : table.name ∉ before := fun taken => new (List.contains_iff_mem.mpr taken)
        have next : ((before ++ [table.name]) ++ rest.map Table.name).Nodup :=
          inductionHypothesis (List.nodup_append.mpr ⟨distinct, by simp, by
            rintro name member other isTable rfl
            exact absent (List.mem_singleton.mp isTable ▸ member)⟩) accepted
        simpa using next

/-- Where no collision is found, no full-text table has the name of a declared table. -/
theorem collision?_none {names : List String} {tables : List Table}
    (clear : collision? names tables = none) :
    ∀ table ∈ tables, table.isAnalyzed = true → table.shadowName ∉ names := by
  induction tables with
  | nil => exact nofun
  | cons first rest inductionHypothesis =>
    have both : (first.isAnalyzed = true → first.shadowName ∉ names) ∧
        collision? names rest = none := by
      unfold collision? Table.shadowName? at clear
      by_cases analyzed : first.isAnalyzed = true
      · simp only [analyzed, if_true] at clear
        split at clear
        · cases clear
        · rename_i absent
          exact ⟨fun _ member => absent (List.contains_iff_mem.mpr member), clear⟩
      · simp only [analyzed, Bool.false_eq_true, if_false] at clear
        exact ⟨fun isAnalyzed => absurd isAnalyzed analyzed, clear⟩
    exact List.forall_mem_cons.mpr ⟨both.1, inductionHypothesis both.2⟩

/-- What a schema promises of the names in it. -/
theorem of_tables_names {tables : List Table} {schema : Schema}
    (accepted : ofTables tables = .ok schema) :
    (schema.tables.map Table.name).Nodup ∧ (∀ table ∈ schema.tables, table.columnNames.Nodup) ∧
      ∀ table ∈ schema.tables, table.isAnalyzed = true →
        table.shadowName ∉ schema.tables.map Table.name := by
  have columns := fun table member => Table.column_names_nodup
    (of_tables_fault? accepted table member)
  rw [of_tables_tables accepted] at columns ⊢
  unfold ofTables at accepted
  split at accepted
  · cases accepted
  · rename_i faultless
    split at accepted
    · cases accepted
    · rename_i clear
      exact ⟨declaration_fault?_names .nil faultless, columns, collision?_none clear⟩

end Schema

/-! ### Relations that can be made -/

namespace Engine

variable {table : Table}

/-- A column of an admitted table is declared under a name that is new, or refused for its name. -/
theorem declare_column_cases (name : String) {declared : Declared} {column : Column}
    (admitted : column.IsAdmitted) (unkeyed : column.autoincrement = true → declared.key = none) :
    ((∀ attr ∈ declared.attributes, sameName attr.name column.name = false) ∧
      ∃ next, declareColumn name declared column.definition = .ok next) ∨
    ((∃ attr ∈ declared.attributes, sameName attr.name column.name = true) ∧
      declareColumn name declared column.definition = .error (.duplicateColumn column.name)) := by
  unfold declareColumn Column.definition
  by_cases taken : (declared.attributes.any fun attr => sameName attr.name column.name) = true
  · refine .inr ⟨List.any_eq_true.mp taken, ?_⟩
    simp only [taken, if_true]
    rfl
  · refine .inl ⟨by simpa using taken, ?_⟩
    simp only [taken, Bool.false_eq_true, if_false]
    cases numbered : column.autoincrement with
    | false => exact ⟨_, rfl⟩
    | true =>
      obtain ⟨integer, isKey⟩ := admitted.numbered numbered
      have isNumber : isNumberType ColumnType.integer.typeWord = true :=
        ColumnType.is_number_type_type_word .integer
      simp only [isKey, integer, isNumber, unkeyed numbered]
      exact ⟨_, rfl⟩

/-- Names that are told apart stay so when a column is declared under a new one. -/
theorem declare_column_apart {name : String} {declared next : Declared} {column : Column}
    (apart : ToldApart (declared.attributes.map Attribute.name))
    (made : declareColumn name declared column.definition = .ok next) :
    ToldApart (next.attributes.map Attribute.name) := by
  obtain ⟨fresh, attributes, -, -⟩ := declare_column_ok made
  rw [attributes, List.map_append]
  refine List.pairwise_append.mpr ⟨apart, List.pairwise_singleton _ _, ?_⟩
  intro left leftMember right rightMember
  obtain ⟨attr, among, rfl⟩ := List.mem_map.mp leftMember
  have named : right = column.name := by simpa [Column.attribute] using rightMember
  rw [named]
  exact fresh attr among

/-- If one column at most is numbered by the engine, the key is still to be declared after the
first column, or no later column is numbered. -/
theorem declare_column_unkeyed {name : String} {declared next : Declared} {column : Column}
    {rest : List Column} (made : declareColumn name declared column.definition = .ok next)
    (unkeyed : declared.key = none ∨ ∀ other ∈ column :: rest, other.autoincrement = false)
    (few : ((column :: rest).filter Column.autoincrement).length ≤ 1) :
    next.key = none ∨ ∀ other ∈ rest, other.autoincrement = false := by
  obtain ⟨-, -, -, key⟩ := declare_column_ok made
  cases numbered : column.autoincrement with
  | false =>
    rw [key, numbered, Bool.false_and, if_neg Bool.false_ne_true]
    exact unkeyed.imp_right fun nothing other later =>
      nothing other (List.mem_cons_of_mem column later)
  | true =>
    rw [List.filter_cons, numbered, if_pos rfl, List.length_cons] at few
    have none : rest.filter Column.autoincrement = [] := List.length_eq_zero_iff.mp (by omega)
    exact .inr fun other later => by simpa using List.filter_eq_nil_iff.mp none other later

/-- So are the columns one after the other, of which one at most is numbered by the engine. By
induction on the columns. -/
theorem declare_columns_cases (name : String) (columns : List Column) {declared : Declared}
    (apart : ToldApart (declared.attributes.map Attribute.name))
    (admitted : ∀ column ∈ columns, column.IsAdmitted)
    (unkeyed : declared.key = none ∨ ∀ column ∈ columns, column.autoincrement = false)
    (few : (columns.filter Column.autoincrement).length ≤ 1) :
    (ToldApart (declared.attributes.map Attribute.name ++ columns.map Column.name) ∧
      ∃ last, (columns.map Column.definition).foldlM (declareColumn name) declared = .ok last) ∨
    (¬ ToldApart (declared.attributes.map Attribute.name ++ columns.map Column.name) ∧
      ∃ column ∈ columns, (columns.map Column.definition).foldlM (declareColumn name) declared =
        .error (.duplicateColumn column.name)) := by
  induction columns generalizing declared with
  | nil => exact .inl ⟨by simpa using apart, declared, rfl⟩
  | cons column rest inductionHypothesis =>
    have noKey : column.autoincrement = true → declared.key = none := by
      intro numbered
      rcases unkeyed with none | nothing
      · exact none
      · cases (nothing column List.mem_cons_self).symm.trans numbered
    rw [List.map_cons, List.map_cons, List.foldlM_cons]
    rcases declare_column_cases name (admitted column List.mem_cons_self) noKey with
      ⟨-, next, first⟩ | ⟨⟨attr, member, same⟩, refused⟩
    · obtain ⟨-, attributes, -, -⟩ := declare_column_ok first
      have names : next.attributes.map Attribute.name ++ rest.map Column.name =
          declared.attributes.map Attribute.name ++ column.name :: rest.map Column.name := by
        rw [attributes, List.map_append, List.append_assoc]
        rfl
      have fewNext : (rest.filter Column.autoincrement).length ≤ 1 :=
        Nat.le_trans ((List.sublist_cons_self column rest).filter _).length_le few
      have rest' := inductionHypothesis (declare_column_apart apart first)
        (fun other later => admitted other (List.mem_cons_of_mem column later))
        (declare_column_unkeyed first unkeyed few) fewNext
      rw [names] at rest'
      rw [first]
      refine rest'.imp_right (.imp_right fun ran => ?_)
      obtain ⟨other, later, refused⟩ := ran
      exact ⟨other, List.mem_cons_of_mem column later, refused⟩
    · rw [refused]
      refine .inr ⟨fun told => ?_, column, List.mem_cons_self, rfl⟩
      have differs := (List.pairwise_append.mp told).2.2 attr.name (List.mem_map_of_mem member)
        column.name List.mem_cons_self
      cases same.symm.trans differs

end Engine

/-- The engine is to number one column of an admitted table at most. -/
theorem Table.IsAdmitted.numbered_few {table : Table} (admitted : table.IsAdmitted) :
    (table.columns.filter Column.autoincrement).length ≤ 1 := by
  by_cases none : table.autoincrementColumns = []
  · have nothing : table.columns.filter Column.autoincrement = [] := List.map_eq_nil_iff.mp none
    simp [nothing]
  · have few := admitted.numbers_alone none
    rw [Table.primaryKey, List.length_map] at few
    refine Nat.le_trans ?_ few
    rw [← List.countP_eq_length_filter, ← List.countP_eq_length_filter]
    exact List.countP_mono_left fun column member numbered =>
      ((admitted.columns column member).numbered numbered).2

/-- The engine numbers no key of several columns. -/
theorem Table.autoincrement_key?_composite {table : Table}
    (composite : table.hasCompositeKey = true) :
    table.primaryKey ≠ [] ∧ table.autoincrementKey? = none := by
  unfold hasCompositeKey at composite
  have several : 1 < table.primaryKey.length := by simpa using composite
  constructor
  · intro none
    rw [none, List.length_nil] at several
    omega
  · unfold autoincrementKey?
    split
    · rename_i alone
      rw [alone, List.length_singleton] at several
      omega
    · rfl

namespace Engine

/-- The key constraint of an admitted table is declared behind its columns, and it is the key of the
table. -/
theorem declared_keys_cases {table : Table} (admitted : table.IsAdmitted) {declared : Declared}
    (apart : ToldApart table.columnNames)
    (ran : (table.columns.map Column.definition).foldlM (declareColumn table.name) {} =
      .ok declared) :
    ∃ keyed, table.keyConstraints.foldlM (declareKey table.name) declared = .ok keyed ∧
      (table.hasCompositeKey = true → keyed.key = some (table.primaryKey, false)) := by
  have nothing : ToldApart (({} : Declared).attributes.map Attribute.name) := .nil
  obtain ⟨-, attributes, -, columnKey⟩ := declare_columns_ok table.columns nothing ran
  have names : declared.attributes.map Attribute.name = table.columnNames := by
    rw [attributes]
    simp [Table.columnNames, Column.attribute]
  unfold Table.keyConstraints
  split
  · rename_i constrained
    have free : declared.key = none := by
      rcases columnKey with ⟨none, -⟩ | ⟨column, member, numbers, -⟩
      · exact none
      · have numbered := admitted.autoincrement_key? apart member
          (Bool.and_eq_true_iff.mp numbers).1
        simp [numbered] at constrained
    have key : table.primaryKey.mapM (keyColumn table.name declared.attributes) =
        .ok table.primaryKey := key_columns_ok (names ▸ apart) (names ▸ table.primary_key_subset)
    simp only [List.foldlM_cons, List.foldlM_nil, declareKey, free, Option.isSome_none, key]
    exact ⟨_, rfl, fun _ => rfl⟩
  · rename_i unconstrained
    refine ⟨declared, rfl, fun composite => absurd ?_ unconstrained⟩
    obtain ⟨some, unnumbered⟩ := Table.autoincrement_key?_composite composite
    simp [some, unnumbered]

/-- The relation of an admitted table can be made exactly if the names of its columns are told
apart. -/
theorem relation_of_cases {table : Table} (admitted : table.IsAdmitted) (text : String) :
    (ToldApart table.columnNames ∧ ∃ relation, relationOf table.definition text = .ok relation) ∨
    (¬ ToldApart table.columnNames ∧ ∃ column ∈ table.columnNames,
      relationOf table.definition text = .error (.duplicateColumn column)) := by
  have nothing : ToldApart (({} : Declared).attributes.map Attribute.name) := .nil
  rcases declare_columns_cases table.name table.columns nothing admitted.columns (.inl rfl)
    admitted.numbered_few with ⟨apart, declared, ran⟩ | ⟨together, column, member, refused⟩
  · refine .inl ⟨apart, ?_⟩
    obtain ⟨keyed, declaredKeys, composite⟩ := declared_keys_cases admitted apart ran
    unfold relationOf
    rw [show table.definition.columns.foldlM (declareColumn table.definition.name) {} = _ from ran]
    simp only [bind, Except.bind]
    rw [show table.definition.keys.foldlM (declareKey table.definition.name) declared = _
      from declaredKeys]
    simp only
    rw [show table.definition.uniques = [] from rfl, List.foldlM_nil]
    simp only [pure, Except.pure]
    cases several : table.definition.withoutRowid with
    | true =>
      rw [composite several]
      exact ⟨_, rfl⟩
    | false =>
      simp only [Bool.false_eq_true, if_false]
      split
      · exact ⟨_, rfl⟩
      · split <;> exact ⟨_, rfl⟩
      · exact ⟨_, rfl⟩
  · refine .inr ⟨together, column.name, List.mem_map_of_mem member, ?_⟩
    unfold relationOf
    rw [show table.definition.columns.foldlM (declareColumn table.definition.name) {} = _
      from refused]
    rfl

end Engine

end RecordStore
