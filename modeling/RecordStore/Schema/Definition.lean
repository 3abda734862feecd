import RecordStore.Schema.Column
import RecordStore.Sql.Render

/-!
# Creating a table

The statements that create a table: the table itself and, when a column is analyzed, the
full-text table that shadows it and three triggers that keep the two alike. A single key
that the engine numbers is declared with its column; every other key is declared behind
the columns, and a table with several key columns is kept by that key alone. An updated row
leaves the full-text table and enters it anew, so that it never matches twice.
-/

namespace RecordStore

open Sql

/-- A column as the creating statement declares it. -/
def Column.definition (column : Column) : ColumnDefinition where
  name := column.name
  typeWords := column.type.typeWord
  inlineKey := if column.autoincrement && column.primaryKey then some true else none
  required := some (!column.nullable)

namespace Table

/-- The key constraint behind the columns, for a key that no column declares itself. -/
def keyConstraints (table : Table) : List (List String) :=
  if !table.primaryKey.isEmpty && table.autoincrementKey?.isNone then [table.primaryKey] else []

/-- The table as the creating statement declares it. -/
def definition (table : Table) : TableDefinition where
  name := table.name
  columns := table.columns.map Column.definition
  keys := table.keyConstraints
  withoutRowid := table.hasCompositeKey

/-- The full-text table that shadows a table. Key columns that are not analyzed are carried
without being searched. -/
def shadowDefinition (table : Table) : FullTextDefinition where
  name := table.shadowName
  columns := table.carriedColumns.map fun name =>
    ⟨name, (table.column? name).any Column.analyzed⟩

/-- Copies a new row into the full-text table. -/
def shadowInsertion (table : Table) : Change Stored :=
  .insert {
    table := table.shadowName
    columns := some table.carriedColumns
    rows := .values [table.carriedColumns.map fun name => .column (some "new") name] }

/-- Removes the copy of an old row from the full-text table, by its key. -/
def shadowDeletion (table : Table) : Change Stored :=
  .delete {
    table := table.shadowName
    conditions := some (table.primaryKey.map fun key =>
      .binary .equal (.column none key) (.column (some "old") key)) }

/-- A trigger that keeps the full-text table of a table in step. -/
def shadowTrigger (table : Table) (suffix : String) (event : RowEvent)
    (body : List (Change Stored)) : TriggerDefinition Stored where
  name := table.shadowName ++ suffix
  event := event
  table := table.name
  body := body

/-- The triggers that keep the full-text table like its table. -/
def shadowTriggers (table : Table) : List (TriggerDefinition Stored) :=
  [table.shadowTrigger "_ai" .insertion [table.shadowInsertion],
   table.shadowTrigger "_ad" .deletion [table.shadowDeletion],
   table.shadowTrigger "_au" .modification [table.shadowDeletion, table.shadowInsertion]]

/-- The statements that create the full-text side of a table; none without analyzed
columns. -/
def shadowStatements (table : Table) : List (Statement Stored) :=
  if table.isAnalyzed then
    .createFullText table.shadowDefinition :: table.shadowTriggers.map .createTrigger
  else []

/-- Every statement that creates a table, in the order in which they run. -/
def creationStatements (table : Table) : List (Statement Stored) :=
  .createTable table.definition :: table.shadowStatements

end Table

end RecordStore
