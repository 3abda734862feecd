import RecordStore.Proofs.Query.Tables
import RecordStore.Proofs.Schema.Names
import RecordStore.Proofs.Sql.Declarations

/-!
# Texts that create tables

The text that creates a table of a schema is read as the table that the schema declares, although no
name in it is quoted: the names are words of their own and none of those that the engine keeps. So
the text tells the name, the columns and the key of its table, and the key stands in it once, with a
column or behind all of them.
-/

namespace RecordStore

open Sql Sql.Parser Sql.Token

/-! ### Texts that are read back -/

/-- The text of the statement that creates a table. -/
def Table.creationText (table : Table) : String := table.definition.render

/-- An identifier is none of the words that are kept. -/
theorem upper_ne_of_is_identifier {name keyword : String} (identifier : isIdentifier name = true)
    (kept : keyword ∈ reservedWords) : upper name ≠ keyword := by
  rintro rfl
  have reserved : isReserved name = true := List.contains_iff_mem.mpr kept
  simp [isIdentifier, reserved] at identifier

example : isIdentifier "Primary" = false := by decide +kernel

/-- The word of every type is a name. -/
theorem ColumnType.is_name_type_word (type : ColumnType) : IsName type.typeWord := by
  unfold IsName
  cases type <;> decide +kernel

namespace Table

variable {table : Table}

/-- What is declared behind the columns is the key of the table. -/
theorem eq_of_mem_key_constraints {key : List String} (member : key ∈ table.keyConstraints) :
    key = table.primaryKey ∧ key ≠ [] := by
  unfold keyConstraints at member
  split at member
  · rename_i keyed
    obtain rfl := List.mem_singleton.mp member
    refine ⟨rfl, ?_⟩
    rintro none
    simp [none] at keyed
  · cases member

/-- What a faultless table declares is read back from its text. -/
theorem definition_written (faultless : table.fault? = none) : table.definition.Written := by
  obtain ⟨identifier, some_column, names⟩ := identifiers_of_fault? faultless
  refine ⟨is_name_of_is_identifier identifier,
    upper_ne_of_is_identifier identifier (by decide +kernel), rfl,
    by simpa [definition] using some_column, fun column member => ?_, fun key member => ?_, rfl⟩
  · obtain ⟨declared, among, rfl⟩ := List.mem_map.mp member
    have named : IsName declared.name := names declared.name (List.mem_map_of_mem among)
    exact ⟨named, declared.type.is_name_type_word, rfl, rfl, rfl⟩
  · obtain ⟨rfl, some_column⟩ := eq_of_mem_key_constraints member
    exact ⟨some_column, fun name inKey => names name (table.primary_key_subset inKey)⟩

/-- The text of a faultless table is read as its definition. -/
theorem creation_text_parse (faultless : table.fault? = none) :
    ∃ text, parse table.creationText = .ok ⟨.createTable table.definition, 0, text⟩ :=
  (definition_written faultless).parse

/-- The tokens of this text are those of the definition. -/
theorem tokens_creation_text (faultless : table.fault? = none) :
    tokens table.creationText = table.definition.spell :=
  (definition_written faultless).laid.tokens_eq (definition_written faultless).made

end Table

/-! ### Where a key is declared -/

/-- A place where a text declares a key. -/
inductive KeyClause where
  /-- With a column; and whether the engine numbers the column. -/
  | inline (column : String) (numbered : Bool)
  /-- Behind the columns. -/
  | trailing (columns : List String)
  deriving DecidableEq

namespace KeyClause

/-- The columns that a clause makes the key. -/
def columns : KeyClause → List String
  | inline column _ => [column]
  | trailing columns => columns

/-- The column that a clause has numbered. -/
def numbered? : KeyClause → Option String
  | inline column true => some column
  | _ => none

/-- The words of a clause, without names and brackets. -/
def words : KeyClause → List Token
  | inline _ numbered => ColumnDefinition.keyWords (some numbered)
  | trailing _ => [word "\n" "PRIMARY", word " " "KEY"]

end KeyClause

/-- The places where the text of a table declares its key, from the first to the last. -/
def Sql.TableDefinition.keyClauses (definition : TableDefinition) : List KeyClause :=
  definition.columns.filterMap (fun column => column.inlineKey.map (.inline column.name)) ++
    definition.keys.map .trailing

namespace Table

variable {table : Table}

/-- The columns that declare the key themselves are those that are numbered and in the key. -/
theorem inline_clauses_eq (columns : List Column) :
    (columns.map Column.definition).filterMap
        (fun column => column.inlineKey.map (KeyClause.inline column.name)) =
      ((columns.filter Column.primaryKey).filter Column.autoincrement).map
        fun column => .inline column.name true := by
  induction columns with
  | nil => rfl
  | cons column rest inductionHypothesis =>
    cases isKey : column.primaryKey <;> cases numbered : column.autoincrement <;>
      simp [Column.definition, isKey, numbered] at inductionHypothesis ⊢ <;>
      exact inductionHypothesis

/-- A column of a faultless table declares the key itself if and only if the engine numbers it.
Proof: the only key column is found under its name, and no column of a key of several columns is
numbered. -/
theorem inline_clauses_of_fault? (faultless : table.fault? = none) :
    table.definition.columns.filterMap
        (fun column => column.inlineKey.map (KeyClause.inline column.name)) =
      table.autoincrementKey?.toList.map fun key => .inline key true := by
  have admitted := is_admitted_of_fault? faultless
  have distinct := column_names_nodup faultless
  rw [definition, inline_clauses_eq]
  rcases keys : table.columns.filter Column.primaryKey with _ | ⟨column, _ | ⟨second, more⟩⟩
  · simp [autoincrementKey?, primaryKey, keys]
  · have member : column ∈ table.columns.filter Column.primaryKey :=
      keys ▸ List.mem_singleton_self _
    have found : table.column? column.name = some column :=
      column?_of_nodup distinct (List.mem_filter.mp member).1
    cases numbered : column.autoincrement <;>
      simp [autoincrementKey?, primaryKey, keys, found, numbered]
  · have several : 1 < table.primaryKey.length := by simp [primaryKey, keys]
    have none : table.autoincrementColumns = [] := by
      by_contra some_column
      exact absurd (admitted.numbers_alone some_column) (Nat.not_le.mpr several)
    have unnumbered : ∀ column ∈ table.columns, column.autoincrement = false := by
      simpa [autoincrementColumns, List.filter_eq_nil_iff] using none
    have nothing : (column :: second :: more).filter Column.autoincrement = [] := by
      rw [← keys, List.filter_filter, List.filter_eq_nil_iff]
      intro column member
      simp [unnumbered column member]
    have composite := (autoincrement_key?_composite (decide_eq_true several)).2
    simp [nothing, composite]

/-- The key of a faultless table is declared with the column that the engine numbers, or else behind
the columns, if there is a key at all. -/
theorem key_clauses_of_fault? (faultless : table.fault? = none) :
    table.definition.keyClauses =
      match table.autoincrementKey? with
      | some key => [.inline key true]
      | none => if table.primaryKey = [] then [] else [.trailing table.primaryKey] := by
  have keys : table.definition.keys = table.keyConstraints := rfl
  rw [TableDefinition.keyClauses, inline_clauses_of_fault? faultless, keys, keyConstraints]
  cases numbered : table.autoincrementKey? with
  | some key => simp
  | none => by_cases none : table.primaryKey = [] <;> simp [none]

end Table

/-! ### What a text says of its table -/

/-- What the engine is told of a table: its name, its columns with the words of their types and
whether they may be empty, its key, and the key column that is numbered. -/
structure Outline where
  name : String
  columns : List (String × String × Bool)
  primaryKey : List String
  autoincrementKey? : Option String
  deriving DecidableEq

/-- A column as the engine is told of it. -/
def Column.outline (column : Column) : String × String × Bool :=
  (column.name, column.type.typeWord, column.nullable)

/-- What the engine should be told of a table. -/
def Table.outline (table : Table) : Outline where
  name := table.name
  columns := table.columns.map Column.outline
  primaryKey := table.primaryKey
  autoincrementKey? := table.autoincrementKey?

/-- What a definition tells of its table. -/
def Sql.TableDefinition.outline (definition : TableDefinition) : Outline where
  name := definition.name
  columns := definition.columns.map fun column =>
    (column.name, column.typeWords, column.required == some false)
  primaryKey := definition.keyClauses.flatMap KeyClause.columns
  autoincrementKey? := definition.keyClauses.findSome? KeyClause.numbered?

/-- What a text says of the table that it creates, if it creates one. -/
def outlineOf? (text : String) : Option Outline :=
  match parse text with
  | .ok ⟨.createTable definition, _, _⟩ => some definition.outline
  | _ => none

namespace Table

variable {table : Table}

/-- The declaration of a faultless table says of it what there is to say. -/
theorem definition_outline (faultless : table.fault? = none) :
    table.definition.outline = table.outline := by
  have columns : table.definition.columns.map (fun column =>
      (column.name, column.typeWords, column.required == some false)) =
      table.columns.map Column.outline := by
    rw [definition, List.map_map]
    refine List.map_congr_left fun column _ => ?_
    cases nullable : column.nullable <;> simp [Column.definition, Column.outline, nullable]
  have clauses := key_clauses_of_fault? faultless
  obtain ⟨key, numbered⟩ :
      table.definition.keyClauses.flatMap KeyClause.columns = table.primaryKey ∧
        table.definition.keyClauses.findSome? KeyClause.numbered? = table.autoincrementKey? := by
    rw [clauses]
    cases numbered : table.autoincrementKey? with
    | some key => exact ⟨(Engine.autoincrement_key?_named numbered).1.symm, rfl⟩
    | none =>
      by_cases none : table.primaryKey = [] <;> simp [none, KeyClause.columns, KeyClause.numbered?]
  rw [TableDefinition.outline, outline, columns, key, numbered]
  rfl

/-- The text of a faultless table tells what it should. -/
theorem outline_of?_creation_text (faultless : table.fault? = none) :
    outlineOf? table.creationText = some table.outline := by
  obtain ⟨text, read⟩ := creation_text_parse faultless
  rw [outlineOf?, read, ← definition_outline faultless]

end Table

/-- The text that creates a table of a schema carries what the engine is told of the table: it can
be read back from the text, so that two tables are created by one text only if they have the same
name, the same columns in the same order, each with the same type word and alike in whether it may
be empty, the same key in the same order and the same numbered key column.

Proof: the text is read back as the definition of the table, and the definition tells the
outline. -/
theorem creation_text_carries_the_table {tables others : List Table} {schema otherSchema : Schema}
    (accepted : Schema.ofTables tables = .ok schema)
    (otherAccepted : Schema.ofTables others = .ok otherSchema) {table other : Table}
    (member : table ∈ schema.tables) (otherMember : other ∈ otherSchema.tables) :
    outlineOf? table.creationText = some table.outline ∧
      (table.creationText = other.creationText →
        table.name = other.name ∧
        table.columns.map Column.outline = other.columns.map Column.outline ∧
        table.primaryKey = other.primaryKey ∧
        table.autoincrementKey? = other.autoincrementKey?) := by
  have read := Table.outline_of?_creation_text (Schema.of_tables_fault? accepted table member)
  have otherRead :=
    Table.outline_of?_creation_text (Schema.of_tables_fault? otherAccepted other otherMember)
  refine ⟨read, fun same => ?_⟩
  rw [same, otherRead] at read
  obtain ⟨name, columns, key, numbered⟩ := Outline.mk.inj (Option.some.inj read)
  exact ⟨name.symm, columns.symm, key.symm, numbered.symm⟩

/-- A task that is done or not. -/
def task : Table :=
  ⟨"task", [{ name := "id", type := .integer, autoincrement := true, primaryKey := true },
    { name := "done", type := .bit, nullable := true }]⟩

/-- A task that is done so many times. -/
def countedTask : Table :=
  ⟨"task", [{ name := "id", type := .integer, autoincrement := true, primaryKey := true },
    { name := "done", type := .integer, nullable := true, generator := some .counter }]⟩

/-- Two tables of one text differ at most in what the engine is not told. -/
theorem task_text_carries_task :
    Schema.ofTables [task] = .ok ⟨[task]⟩ ∧ Schema.ofTables [countedTask] = .ok ⟨[countedTask]⟩ ∧
      task.creationText = countedTask.creationText ∧
      outlineOf? task.creationText =
        some ⟨"task", [("id", "INTEGER", false), ("done", "INTEGER", true)], ["id"], some "id"⟩ ∧
      task.primaryKey = countedTask.primaryKey := by
  have accepted : Schema.ofTables [task] = .ok ⟨[task]⟩ :=
    Schema.of_tables_ok (by decide +kernel) (by decide +kernel)
  have otherAccepted : Schema.ofTables [countedTask] = .ok ⟨[countedTask]⟩ :=
    Schema.of_tables_ok (by decide +kernel) (by decide +kernel)
  have same : task.creationText = countedTask.creationText := rfl
  obtain ⟨read, told⟩ := creation_text_carries_the_table accepted otherAccepted
    (List.mem_singleton_self task) (List.mem_singleton_self countedTask)
  obtain ⟨-, -, key, -⟩ := told same
  exact ⟨accepted, otherAccepted, same, read, key⟩

/-! ### Counting keywords -/

/-- How often a keyword stands in a text. -/
def occurrences (keyword text : String) : Nat := (tokens text).countP (isWord · keyword)

/-- Keywords that stand in a table's text only to declare its key or to have it kept by that key. -/
def keyKeywords : List String := ["PRIMARY", "AUTOINCREMENT", "WITHOUT"]

/-- What is counted in groups is counted among them, unless it is a comma. -/
theorem comma_list_count_p {p : Token → Bool} (comma : p (sign "" ",") = false)
    (groups : List (List Token)) : (commaList groups).countP p = groups.flatten.countP p := by
  induction groups with
  | nil => rfl
  | cons first rest inductionHypothesis =>
    cases rest with
    | nil => simp [commaList]
    | cons second others =>
      rw [List.flatten_cons, List.countP_append, ← inductionHypothesis]
      simp [commaList, comma]

section Counts

variable {keyword : String}

/-- The keywords of keys are words that no column may have as its name. -/
theorem kept_of_key_keyword (member : keyword ∈ keyKeywords) : keyword ∈ reservedWords := by
  have all : ∀ keyword ∈ keyKeywords, keyword ∈ reservedWords := by decide +kernel
  exact all keyword member

/-- A word that is written otherwise is not counted. -/
theorem count_p_word_cons {gap written : String} {rest : List Token}
    (other : upper written ≠ keyword) :
    (word gap written :: rest).countP (isWord · keyword) = rest.countP (isWord · keyword) := by
  simp [other]

/-- In a column such a keyword stands only where the column is made the key. -/
theorem Column.count_p_definition {column : Column} (identifier : isIdentifier column.name = true)
    (member : keyword ∈ keyKeywords) :
    column.definition.spell.countP (isWord · keyword) =
      (ColumnDefinition.keyWords column.definition.inlineKey).countP (isWord · keyword) := by
  have types : ∀ keyword ∈ keyKeywords, upper column.type.typeWord ≠ keyword := by
    cases column.type <;> decide +kernel
  have required : ∀ required, ∀ keyword ∈ keyKeywords,
      (ColumnDefinition.requiredWords required).countP (isWord · keyword) = 0 := by
    rintro (_ | _ | _) <;> decide +kernel
  have named : upper column.definition.name ≠ keyword :=
    upper_ne_of_is_identifier identifier (kept_of_key_keyword member)
  have typed : upper column.definition.typeWords ≠ keyword := types keyword member
  rw [ColumnDefinition.spell, count_p_word_cons named, count_p_word_cons typed, List.countP_append,
    required _ keyword member, Nat.add_zero]

/-- In a key behind the columns it is no name. -/
theorem count_p_spell_key {key : List String} (free : ∀ name ∈ key, upper name ≠ keyword) :
    (spellKey key).countP (isWord · keyword) =
      (KeyClause.trailing key).words.countP (isWord · keyword) := by
  have names : (commaList (key.map fun name => [word "" name])).countP (isWord · keyword) = 0 := by
    rw [comma_list_count_p rfl, List.countP_eq_zero]
    intro token member
    obtain ⟨group, among, inside⟩ := List.mem_flatten.mp member
    obtain ⟨name, inKey, rfl⟩ := List.mem_map.mp among
    obtain rfl := List.mem_singleton.mp inside
    simpa using free name inKey
  simp [spellKey, KeyClause.words, List.countP_cons, names]

/-- The words of all places that declare a key. -/
theorem Sql.TableDefinition.key_clauses_words (definition : TableDefinition) :
    definition.keyClauses.flatMap KeyClause.words =
      (definition.columns.flatMap fun column => ColumnDefinition.keyWords column.inlineKey) ++
        definition.keys.flatMap fun key => (KeyClause.trailing key).words := by
  have inline : (definition.columns.filterMap fun column =>
      column.inlineKey.map (KeyClause.inline column.name)).flatMap KeyClause.words =
      definition.columns.flatMap fun column => ColumnDefinition.keyWords column.inlineKey := by
    induction definition.columns with
    | nil => rfl
    | cons column rest inductionHypothesis =>
      cases inline : column.inlineKey <;>
        simp [inline, KeyClause.words, ColumnDefinition.keyWords, inductionHypothesis]
  rw [TableDefinition.keyClauses, List.flatMap_append, inline, List.flatMap_map]

/-- Such a keyword stands in the text of a table as often as in the places that declare its key, and
in the words that have it kept by that key. -/
theorem Table.occurrences_creation_text {table : Table} (faultless : table.fault? = none)
    (member : keyword ∈ keyKeywords) :
    occurrences keyword table.creationText =
      (table.definition.keyClauses.flatMap KeyClause.words).countP (isWord · keyword) +
        table.definition.optionWords.countP (isWord · keyword) := by
  have admitted := is_admitted_of_fault? faultless
  have kept := kept_of_key_keyword member
  have opening : ∀ keyword ∈ keyKeywords, upper "CREATE" ≠ keyword ∧ upper "TABLE" ≠ keyword := by
    decide +kernel
  obtain ⟨noCreate, noTable⟩ := opening keyword member
  have named : upper table.definition.name ≠ keyword :=
    upper_ne_of_is_identifier admitted.identifier kept
  have columns :
      (table.definition.columns.flatMap ColumnDefinition.spell).countP (isWord · keyword) =
        (table.definition.columns.flatMap fun column =>
          ColumnDefinition.keyWords column.inlineKey).countP (isWord · keyword) := by
    rw [List.countP_flatMap, List.countP_flatMap]
    refine congrArg List.sum (List.map_congr_left fun column among => ?_)
    obtain ⟨declared, inTable, rfl⟩ := List.mem_map.mp among
    exact declared.count_p_definition (admitted.columns declared inTable).identifier member
  have keys : (table.definition.keys.flatMap spellKey).countP (isWord · keyword) =
      (table.definition.keys.flatMap fun key => (KeyClause.trailing key).words).countP
        (isWord · keyword) := by
    rw [List.countP_flatMap, List.countP_flatMap]
    refine congrArg List.sum (List.map_congr_left fun key among =>
      count_p_spell_key fun name inKey => ?_)
    obtain ⟨rfl, -⟩ := eq_of_mem_key_constraints among
    obtain ⟨column, inTable, -, rfl⟩ := mem_primary_key.mp inKey
    exact upper_ne_of_is_identifier (admitted.columns column inTable).identifier kept
  rw [occurrences, tokens_creation_text faultless, TableDefinition.spell,
    count_p_word_cons noCreate, count_p_word_cons noTable, count_p_word_cons named,
    TableDefinition.key_clauses_words]
  simp only [List.countP_cons, is_word_sign, List.countP_append, TableDefinition.spellLines,
    comma_list_count_p (p := (isWord · keyword)) rfl, List.flatten_append, ← List.flatMap_def,
    columns, keys]
  rfl

end Counts

/-! ### The key of a text -/

/-- A text declares the key of a table: not at all without a key, with the column that the engine
numbers when there is one, and otherwise behind the columns. A table is kept by its key if that has
several columns. -/
structure DeclaresKeyOf (definition : TableDefinition) (table : Table) : Prop where
  absent : table.primaryKey = [] → definition.keyClauses = []
  inline : ∀ key, table.autoincrementKey? = some key →
    table.primaryKey = [key] ∧ definition.keyClauses = [.inline key true]
  trailing : table.primaryKey ≠ [] → table.autoincrementKey? = none →
    definition.keyClauses = [.trailing table.primaryKey]
  keptByKey : definition.withoutRowid = true ↔ 2 ≤ table.primaryKey.length
  apart : definition.withoutRowid = true → ∀ column numbered,
    .inline column numbered ∉ definition.keyClauses

/-- The definition of a faultless table declares its key. -/
theorem Table.definition_declares_key_of {table : Table} (faultless : table.fault? = none) :
    DeclaresKeyOf table.definition table := by
  have clauses := key_clauses_of_fault? faultless
  have composite : table.definition.withoutRowid = true ↔ 2 ≤ table.primaryKey.length :=
    decide_eq_true_iff
  refine ⟨fun none => ?_, fun key numbered => ?_, fun some_key unnumbered => ?_, composite,
    fun several column numbered member => ?_⟩
  · simpa [autoincrementKey?, none] using clauses
  · rw [clauses, numbered]
    exact ⟨(Engine.autoincrement_key?_named numbered).1, rfl⟩
  · rw [clauses, unnumbered]
    exact if_neg some_key
  · obtain ⟨some_key, unnumbered⟩ := autoincrement_key?_composite several
    rw [clauses, unnumbered] at member
    simp [some_key] at member

/-- How often the keywords stand in what has a table kept by its key. -/
theorem Sql.TableDefinition.option_words_counts (definition : TableDefinition) :
    definition.optionWords.countP (isWord · "PRIMARY") = 0 ∧
      definition.optionWords.countP (isWord · "AUTOINCREMENT") = 0 ∧
      definition.optionWords.countP (isWord · "WITHOUT") =
        (if definition.withoutRowid then 1 else 0) := by
  unfold optionWords
  cases definition.withoutRowid <;> decide +kernel

/-- How often they stand in the places that declare the key of a faultless table. -/
theorem Table.clause_words_counts {table : Table} (faultless : table.fault? = none) :
    (table.definition.keyClauses.flatMap KeyClause.words).countP (isWord · "PRIMARY") =
        (if table.primaryKey = [] then 0 else 1) ∧
      (table.definition.keyClauses.flatMap KeyClause.words).countP (isWord · "AUTOINCREMENT") =
        (if table.autoincrementKey?.isSome then 1 else 0) ∧
      (table.definition.keyClauses.flatMap KeyClause.words).countP (isWord · "WITHOUT") = 0 := by
  rw [key_clauses_of_fault? faultless]
  cases numbered : table.autoincrementKey? with
  | some key =>
    have words : [KeyClause.inline key true].flatMap KeyClause.words =
        ColumnDefinition.keyWords (some true) := rfl
    have some_key : table.primaryKey ≠ [] := by
      rw [(Engine.autoincrement_key?_named numbered).1]
      exact List.cons_ne_nil key []
    simp only [words, some_key, if_false, Option.isSome_some]
    decide +kernel
  | none =>
    by_cases none : table.primaryKey = []
    · simp [none]
    · have words : [KeyClause.trailing table.primaryKey].flatMap KeyClause.words =
          [word "\n" "PRIMARY", word " " "KEY"] := rfl
      simp only [none, if_false, words]
      decide +kernel

/-- The text that creates a table of a schema declares the key once: it reads as a table that
declares the key in one place at most, and the words for a key, for numbering it and for keeping the
table by it stand in the text as often as that takes and no more.

Proof: the words of the text are the tokens of the definition; those for a key are counted clause by
clause, and no name is one of them. -/
theorem key_is_declared_once {tables : List Table} {schema : Schema}
    (accepted : Schema.ofTables tables = .ok schema) {table : Table}
    (member : table ∈ schema.tables) : ∃ definition text,
      parse table.creationText = .ok ⟨.createTable definition, 0, text⟩ ∧
      DeclaresKeyOf definition table ∧
      occurrences "PRIMARY" table.creationText = (if table.primaryKey = [] then 0 else 1) ∧
      occurrences "AUTOINCREMENT" table.creationText =
        (if table.autoincrementKey?.isSome then 1 else 0) ∧
      occurrences "WITHOUT" table.creationText =
        (if 2 ≤ table.primaryKey.length then 1 else 0) := by
  have faultless := Schema.of_tables_fault? accepted table member
  obtain ⟨text, read⟩ := Table.creation_text_parse faultless
  have declares := Table.definition_declares_key_of faultless
  obtain ⟨primary, numbering, without⟩ := Table.clause_words_counts faultless
  obtain ⟨noPrimary, noNumbering, keptByKey⟩ := table.definition.option_words_counts
  have composite : table.definition.withoutRowid = decide (2 ≤ table.primaryKey.length) := rfl
  refine ⟨table.definition, text, read, declares, ?_, ?_, ?_⟩
  · rw [Table.occurrences_creation_text faultless (by decide), primary, noPrimary, Nat.add_zero]
  · rw [Table.occurrences_creation_text faultless (by decide), numbering, noNumbering, Nat.add_zero]
  · rw [Table.occurrences_creation_text faultless (by decide), without, keptByKey, Nat.zero_add,
      composite]
    simp

/-- Who belongs to what, by two columns that make the key together. -/
def enrolment : Table :=
  ⟨"enrolment", [{ name := "tenant", type := .string, primaryKey := true },
    { name := "since", type := .date }, { name := "user", type := .integer, primaryKey := true }]⟩

/-- A key of two columns is declared behind them, in their order. -/
theorem enrolment_key_is_declared_once :
    Schema.ofTables [task, enrolment] = .ok ⟨[task, enrolment]⟩ ∧
      (∃ definition text,
        parse enrolment.creationText = .ok ⟨.createTable definition, 0, text⟩ ∧
        definition.keyClauses = [.trailing ["tenant", "user"]] ∧ definition.withoutRowid = true) ∧
      occurrences "PRIMARY" enrolment.creationText = 1 ∧
      occurrences "AUTOINCREMENT" enrolment.creationText = 0 := by
  have accepted : Schema.ofTables [task, enrolment] = .ok ⟨[task, enrolment]⟩ :=
    Schema.of_tables_ok (by decide +kernel) (by decide +kernel)
  obtain ⟨definition, text, read, declares, primary, numbering, -⟩ :=
    key_is_declared_once accepted (.tail task (.head []) : enrolment ∈ [task, enrolment])
  exact ⟨accepted, ⟨definition, text, read, declares.trailing (by decide) rfl,
    declares.keptByKey.mpr (by decide)⟩, primary, numbering⟩

end RecordStore
