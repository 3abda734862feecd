import RecordStore.Config.Basic
import RecordStore.Schema.Registry
import RecordStore.Text.Quoted

/-!
# Diagnostic texts

What a schema and its parts look like in diagnostic output: the name of the kind, then its
fields by name.
-/

namespace RecordStore.Diagnostic

/-- A value with named parts. -/
def structureText (name : String) (fields : List (String × String)) : String :=
  name ++ " \x7b " ++
    String.intercalate ", " (fields.map fun field => field.1 ++ ": " ++ field.2) ++ " \x7d"

/-- A list of parts. -/
def listText (items : List String) : String := "[" ++ String.intercalate ", " items ++ "]"

/-- A truth value as it is shown. -/
def boolText (value : Bool) : String := if value then "true" else "false"

/-- A part that may be missing. -/
def optionText : Option String → String
  | some text => "Some(" ++ text ++ ")"
  | none => "None"

/-- A column as it is shown. A generator is a function and shown as a mark. -/
def column (column : Column) : String :=
  structureText "Column"
    [("column_type", column.type.name),
     ("nullable", boolText column.nullable),
     ("autoincrement", boolText column.autoincrement),
     ("primary_key", boolText column.primaryKey),
     ("generator", optionText (column.generator.map fun _ => quoted "<fn>")),
     ("analyzed", boolText column.analyzed)]

/-- A table as it is shown. -/
def table (table : Table) : String :=
  structureText "TableMetadata"
    [("name", quoted table.name),
     ("columns", listText (table.columns.map fun declared =>
        "(" ++ quoted declared.name ++ ", " ++ column declared ++ ")")),
     ("primary_key", listText (table.primaryKey.map quoted))]

/-- A validated schema, and whether something runs once its tables exist. -/
def schema (schema : Schema) (initialized : Bool) : String :=
  structureText "ModelMetadata"
    [("tables", listText (schema.tables.map table)), ("initializer", boolText initialized)]

/-- Declarations that are still to be validated. -/
def declarations (names : List String) (initialized : Bool) : String :=
  structureText "ModelRegistry"
    [("tables", listText (names.map quoted)), ("initializer", boolText initialized)]

/-- A handle as it is shown. -/
def handle {model : Model} (handle : Handle model) : String :=
  "Table(" ++ quoted handle.table.name ++ ")"

/-- A configuration as it is shown. -/
def config (config : Config) : String :=
  structureText "DriverConfig"
    [("db_file", optionText (config.dbFile.map quoted)),
     ("max_page_size", toString config.maxPageSize.toInt),
     ("busy_timeout_ms", toString config.busyTimeout.toNat)]

/-- A driver: how it is configured and where it stands. -/
def driver (configured : Config) (opened inTransaction : Bool) : String :=
  structureText "SqliteDriver"
    [("config", config configured),
     ("state", if opened then "Open" else "Closed"),
     ("in_transaction", boolText inTransaction)]

end RecordStore.Diagnostic
