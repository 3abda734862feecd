import RecordStore.Value.Basic

/-!
# Columns and tables

A table is a name and its columns in the order of their declaration. What follows from
the columns alone is computed here: the primary key, the key that the engine numbers by
itself, and the full-text table that shadows the analyzed columns.
-/

namespace RecordStore

/-- The type that a column declares. -/
inductive ColumnType where
  | string
  | integer
  | float
  | blob
  | bit
  | date
  deriving DecidableEq, Repr, Inhabited

namespace ColumnType

/-- The name that messages use for a column type. -/
def name : ColumnType → String
  | .string => "String"
  | .integer => "Integer"
  | .float => "Float"
  | .blob => "Blob"
  | .bit => "Bit"
  | .date => "Date"

/-- The engine's type word. Bits and dates are stored as integers. -/
def typeWord : ColumnType → String
  | .string => "TEXT"
  | .integer => "INTEGER"
  | .float => "REAL"
  | .blob => "BLOB"
  | .bit => "INTEGER"
  | .date => "INTEGER"

end ColumnType

/-- A producer of values. It is asked anew on every insertion and update, and it may count:
it is given the number that producers share and hands back the next one. -/
abbrev Generator := Nat → Value × Nat

namespace Generator

/-- Produces one value forever. -/
def constant (value : Value) : Generator := fun count => (value, count)

/-- Produces the shared number itself. -/
def counter : Generator := fun count => (.integer (Int64.ofNat count), count + 1)

end Generator

/-- A column declaration. -/
structure Column where
  name : String
  type : ColumnType
  nullable : Bool := false
  autoincrement : Bool := false
  primaryKey : Bool := false
  generator : Option Generator := none
  /-- Whether the column's words can be searched for. -/
  analyzed : Bool := false

/-- A table declaration. -/
structure Table where
  name : String
  columns : List Column

namespace Table

/-- The names of the columns, in the order of their declaration. -/
def columnNames (table : Table) : List String := table.columns.map Column.name

/-- The first column of a name. -/
def column? (table : Table) (name : String) : Option Column :=
  table.columns.find? fun column => column.name == name

/-- Whether a table has a column of a name. -/
def hasColumn (table : Table) (name : String) : Bool := (table.column? name).isSome

/-- The names of the key columns, in the order of their declaration. -/
def primaryKey (table : Table) : List String :=
  (table.columns.filter Column.primaryKey).map Column.name

/-- Whether the key of a table has several columns. -/
def hasCompositeKey (table : Table) : Bool := decide (1 < table.primaryKey.length)

/-- The key column that the engine numbers by itself: the only key column, when it is
declared so. -/
def autoincrementKey? (table : Table) : Option String :=
  match table.primaryKey with
  | [key] => if (table.column? key).any Column.autoincrement then some key else none
  | _ => none

/-- The names of the columns whose words can be searched for. -/
def analyzedColumns (table : Table) : List String :=
  (table.columns.filter Column.analyzed).map Column.name

/-- Whether a column of the table is searched. -/
def isAnalyzed (table : Table) : Bool := table.columns.any Column.analyzed

/-- The name of the full-text table that shadows a table. -/
def shadowName (table : Table) : String := "fts_" ++ table.name

/-- The full-text table, for a table that needs one. -/
def shadowName? (table : Table) : Option String :=
  if table.isAnalyzed then some table.shadowName else none

/-- The columns that the full-text table carries: the key columns, then those analyzed
columns that are not key columns, each once. -/
def carriedColumns (table : Table) : List String :=
  table.analyzedColumns.foldl
    (fun carried name => if name ∈ carried then carried else carried ++ [name])
    table.primaryKey

end Table

end RecordStore
