import RecordStore.Error
import RecordStore.Model
import RecordStore.Schema.Identifier

/-!
# Schemas

A schema is a list of tables that fit together. `Schema.ofTables` admits a list of
declarations or says what is wrong with the first bad one: the name of a table, then the
table itself, and last whether the full-text tables keep clear of the declared ones. A
typed handle ties a table of the schema to the model of that name.
-/

namespace RecordStore

namespace Table

/-- What a single column does wrong, given the names of the columns before it. -/
def columnFault? (before : List String) (column : Column) : Option String :=
  if !isIdentifier column.name then
    some ("column name `" ++ column.name ++ "` is not a valid identifier")
  else if before.contains column.name then
    some ("column `" ++ column.name ++ "` is declared twice")
  else if column.autoincrement && column.type != .integer then
    some ("autoincrement column `" ++ column.name ++ "` must be Integer")
  else if column.autoincrement && !column.primaryKey then
    some ("autoincrement column `" ++ column.name ++ "` must be the primary key")
  else if column.analyzed && column.type != .string then
    some ("analyzed column `" ++ column.name ++ "` must be String")
  else none

/-- What the first faulty column does wrong. -/
def columnsFault? (before : List String) : List Column → Option String
  | [] => none
  | column :: rest =>
    match columnFault? before column with
    | some reason => some reason
    | none => columnsFault? (before ++ [column.name]) rest

/-- The names of the columns that the engine is to number by itself. -/
def autoincrementColumns (table : Table) : List String :=
  (table.columns.filter Column.autoincrement).map Column.name

/-- What is wrong with a table, the first fault first. -/
def fault? (table : Table) : Option String :=
  if !isIdentifier table.name then some "table name is not a valid identifier"
  else if table.columns.isEmpty then some "table declares no columns"
  else
    match columnsFault? [] table.columns with
    | some reason => some reason
    | none =>
      if 1 < table.autoincrementColumns.length then
        some ("more than one autoincrement column: " ++
          String.intercalate ", " table.autoincrementColumns)
      else if !table.autoincrementColumns.isEmpty && decide (1 < table.primaryKey.length) then
        some "an autoincrement key cannot be part of a composite primary key"
      else if table.primaryKey.isEmpty && table.isAnalyzed then
        some "analyzed columns need a primary key to join the full-text table"
      else none

end Table

/-- Tables that fit together, in the order of their declaration. -/
structure Schema where
  tables : List Table

namespace Schema

/-- The first fault of the declarations one by one, given the names before them. -/
def declarationFault? (before : List String) : List Table → Option StoreError
  | [] => none
  | table :: rest =>
    if before.contains table.name then
      some (.schemaConfiguration table.name "table is registered more than once")
    else
      match table.fault? with
      | some reason => some (.schemaConfiguration table.name reason)
      | none => declarationFault? (before ++ [table.name]) rest

/-- The first table whose full-text table would take the name of a declared one. -/
def collision? (names : List String) : List Table → Option StoreError
  | [] => none
  | table :: rest =>
    match table.shadowName? with
    | some shadow =>
      if names.contains shadow then
        some (.schemaConfiguration table.name
          ("full-text table `" ++ shadow ++ "` collides with a registered table"))
      else collision? names rest
    | none => collision? names rest

/-- Declarations as a schema, if they fit together. -/
def ofTables (tables : List Table) : Except StoreError Schema :=
  match declarationFault? [] tables with
  | some problem => .error problem
  | none =>
    match collision? (tables.map Table.name) tables with
    | some problem => .error problem
    | none => .ok ⟨tables⟩

/-- The table of a name. -/
def table (schema : Schema) (name : String) : Except StoreError Table :=
  match schema.tables.find? fun table => table.name == name with
  | some table => .ok table
  | none => .error (.tableNotFound name)

end Schema

/-- A table under which the entities of a model are kept. -/
structure Handle (model : Model) where
  table : Table
  named : table.name = model.tableName

/-- The handle of a model's table in a schema. -/
def Schema.handle (schema : Schema) (model : Model) : Except StoreError (Handle model) :=
  match schema.table model.tableName with
  | .error problem => .error problem
  | .ok table =>
    if named : table.name = model.tableName then .ok ⟨table, named⟩
    else .error (.invalidArgument ("table `" ++ table.name ++ "` cannot hold models of table `" ++
      model.tableName ++ "`"))

end RecordStore
