import RecordStore.Value.Stored

/-!
# Statements

The syntax of the statements that the engine runs. A statement is data: its text is one
rendering of it, and the engine runs the data. An operand stands where the text has a
placeholder or a literal. While a text is being read an operand is a reference to a
parameter or a constant; once the parameters are known it is a stored value. Nothing else
in a statement can carry a value.
-/

namespace RecordStore.Sql

/-- An operation on one operand. The later ones are written as function calls. -/
inductive UnaryOperator where
  | negative
  | positive
  | not
  | isNull
  | isNotNull
  | length
  | upper
  | lower
  | typeOf
  | absolute
  | hexadecimal
  | quoted
  | trimmed
  | asText
  | asInteger
  | asReal
  | asNumeric
  | asBlob
  deriving DecidableEq, Repr

/-- An operation on two operands. The last ones are written as function calls. -/
inductive BinaryOperator where
  | equal
  | unequal
  | less
  | atMost
  | greater
  | atLeast
  | is
  | isNot
  | and
  | or
  | add
  | subtract
  | multiply
  | divide
  | remainder
  | concatenate
  | like
  | notLike
  | coalesce
  | nullIf
  deriving DecidableEq, Repr

/-- A function of the rows of a group. -/
inductive Aggregate where
  | count
  | sum
  | total
  | average
  | least
  | greatest
  deriving DecidableEq, Repr

/-- An expression over the columns of a row. -/
inductive Expression (Operand : Type) where
  | operand (value : Operand)
  /-- A whole number that is part of the statement itself. -/
  | number (value : Int64)
  | column (source : Option String) (name : String)
  | unary (operator : UnaryOperator) (inner : Expression Operand)
  | binary (operator : BinaryOperator) (left right : Expression Operand)
  | oneOf (negated : Bool) (target : Expression Operand) (candidates : List Operand)
  | grouped (inner : Expression Operand)
  /-- The words of a full-text table, or of one of its columns, match a pattern. -/
  | matching (source : Option String) (name : String) (pattern : Operand)
  | countRows
  | aggregate (function : Aggregate) (distinct : Bool) (argument : Expression Operand)
  deriving DecidableEq, Repr

/-- A direction of ordering. -/
inductive Direction where
  | ascending
  | descending
  deriving DecidableEq, Repr

/-- What a query returns for each row. A computed column is named by its alias, else by
the column that it is, else by its own text. -/
inductive ResultColumn (Operand : Type) where
  | everything
  | everythingOf (source : String)
  | computed (expression : Expression Operand) (newName : Option String) (text : String)
  deriving Repr

/-- A table in a query, with the name under which the query knows it. -/
structure Source where
  table : String
  newName : Option String
  deriving DecidableEq, Repr

/-- The name under which a query knows a source. -/
def Source.name (source : Source) : String := source.newName.getD source.table

/-- A further table of a query, and the conditions under which its rows are joined. -/
structure Join (Operand : Type) where
  source : Source
  conditions : Option (List (Expression Operand))
  deriving Repr

/-- A key of an ordering. -/
structure OrderKey (Operand : Type) where
  expression : Expression Operand
  direction : Option Direction
  deriving Repr

/-- A query. All conditions of a clause hold at once. -/
structure Select (Operand : Type) where
  distinct : Bool := false
  columns : List (ResultColumn Operand)
  source : Option Source
  joins : List (Join Operand) := []
  conditions : Option (List (Expression Operand)) := none
  grouping : List (Expression Operand) := []
  having : Option (Expression Operand) := none
  ordering : List (OrderKey Operand) := []
  limit : Option (Expression Operand) := none
  offset : Option (Expression Operand) := none
  deriving Repr

/-- What happens when a row offends a constraint. -/
inductive Conflict where
  | abort
  | ignore
  | replace
  deriving DecidableEq, Repr

/-- Where the rows of an insertion come from. -/
inductive Rows (Operand : Type) where
  | defaults
  | values (rows : List (List (Expression Operand)))
  | selected (query : Select Operand)
  deriving Repr

/-- An insertion; without a list of columns it fills all of them. -/
structure Insert (Operand : Type) where
  conflict : Conflict := .abort
  table : String
  columns : Option (List String)
  rows : Rows Operand
  deriving Repr

/-- An update of the rows that satisfy all conditions. -/
structure Update (Operand : Type) where
  conflict : Conflict := .abort
  table : String
  assignments : List (String × Expression Operand)
  conditions : Option (List (Expression Operand))
  deriving Repr

/-- A deletion of the rows that satisfy all conditions. -/
structure Delete (Operand : Type) where
  table : String
  conditions : Option (List (Expression Operand))
  deriving Repr

/-- A statement that changes rows. -/
inductive Change (Operand : Type) where
  | insert (insertion : Insert Operand)
  | update (modification : Update Operand)
  | delete (deletion : Delete Operand)
  deriving Repr

/-- A column of a new table, as its text declares it. -/
structure ColumnDefinition where
  name : String
  /-- The words of the declared type; none is allowed. -/
  typeWords : String
  /-- Whether the column itself is declared to be the key, and then whether its numbers
  are never reused. -/
  inlineKey : Option Bool := none
  /-- Whether the column is declared to be with or without a value. -/
  required : Option Bool := none
  unique : Bool := false
  defaultValue : Option Stored := none
  deriving DecidableEq, Repr

/-- A new table. -/
structure TableDefinition where
  name : String
  ifMissing : Bool := false
  columns : List ColumnDefinition
  /-- The key constraints behind the columns. -/
  keys : List (List String)
  uniques : List (List String) := []
  withoutRowid : Bool
  deriving DecidableEq, Repr

/-- A column of a full-text table; the words of an unindexed one are carried only. -/
structure FullTextColumn where
  name : String
  indexed : Bool
  deriving DecidableEq, Repr

/-- A new full-text table. -/
structure FullTextDefinition where
  name : String
  ifMissing : Bool := false
  columns : List FullTextColumn
  deriving DecidableEq, Repr

/-- What happens to a row. -/
inductive RowEvent where
  | insertion
  | deletion
  | modification
  deriving DecidableEq, Repr

/-- A new trigger: what follows each change of a row of a table. -/
structure TriggerDefinition (Operand : Type) where
  name : String
  ifMissing : Bool := false
  event : RowEvent
  table : String
  body : List (Change Operand)
  deriving Repr

/-- How early a transaction takes its locks. -/
inductive TransactionMode where
  | deferred
  | immediate
  | exclusive
  deriving DecidableEq, Repr

/-- A statement. -/
inductive Statement (Operand : Type) where
  | select (query : Select Operand)
  | change (change : Change Operand)
  | createTable (definition : TableDefinition)
  | createFullText (definition : FullTextDefinition)
  | createTrigger (definition : TriggerDefinition Operand)
  | dropTable (name : String) (ifPresent : Bool)
  | dropTrigger (name : String) (ifPresent : Bool)
  | begin (mode : TransactionMode)
  | commit
  | rollback
  | savepoint (name : String)
  | release (name : String)
  | rollbackTo (name : String)
  deriving Repr

/-- Whether a statement can end a transaction. -/
def Statement.endsTransaction {Operand : Type} : Statement Operand → Bool
  | .commit => true
  | .rollback => true
  | .release _ => true
  | _ => false

end RecordStore.Sql
