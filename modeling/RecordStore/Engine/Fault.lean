/-!
# Faults of the engine

Why the engine refuses a statement. Each cause has one wording.
-/

namespace RecordStore

/-- A reason for which the engine refuses a statement. -/
inductive Fault where
  /-- There is no statement in the text. -/
  | noStatement
  | syntaxError (near : String)
  | incompleteInput
  | unrecognizedToken (token : String)
  | wrongParameterCount (given needed : Nat)
  /-- A statement that was run for its effect produced a row. -/
  | unexpectedRow
  | noSuchTable (name : String)
  | noSuchColumn (name : String)
  | ambiguousColumn (name : String)
  | noSuchFunction (name : String)
  | wrongArgumentCount (function : String)
  | misusedAggregate (function : String)
  | noTablesSpecified
  | matchOutOfPlace
  | unknownInsertColumn (table column : String)
  | valueCountMismatch (table : String) (columns values : Nat)
  | rowValueCountMismatch (values columns : Nat)
  | unevenValues
  | tableExists (name : String)
  | triggerExists (name : String)
  | noSuchTrigger (name : String)
  | duplicateColumn (name : String)
  | severalPrimaryKeys (table : String)
  | misplacedAutoincrement
  | autoincrementWithoutRowid
  | missingPrimaryKey (table : String)
  | reservedName (name : String)
  | tableCannotChange (name : String)
  | tableCannotGo (name : String)
  | triggerOnVirtualTable
  | variableInTrigger
  | uniqueViolation (table : String) (columns : List String)
  | notNullViolation (table column : String)
  | datatypeMismatch
  | storageFull
  | locked
  | nestedBegin
  | nothingToCommit
  | nothingToRollBack
  | noSuchSavepoint (name : String)
  | reservedFullTextColumn (name : String)
  | partExists (name : String)
  | constructorFailed (name : String)
  | noSuchModule (name : String)
  | unterminatedString
  | fullTextSyntax (near : String)
  | expectedInteger (found : String)
  | unknownSpecialQuery (word : String)
  | fullTextNearName (found : String)
  | unableToOpen (path : String)
  deriving DecidableEq, Repr

namespace Fault

/-- The wording of a fault. -/
def message : Fault → String
  | .noStatement => "not an error"
  | .syntaxError near => "near \"" ++ near ++ "\": syntax error"
  | .incompleteInput => "incomplete input"
  | .unrecognizedToken token => "unrecognized token: \"" ++ token ++ "\""
  | .wrongParameterCount given needed =>
    "Wrong number of parameters passed to query. Got " ++ toString given ++ ", needed " ++
      toString needed
  | .unexpectedRow => "Execute returned results - did you mean to call query?"
  | .noSuchTable name => "no such table: " ++ name
  | .noSuchColumn name => "no such column: " ++ name
  | .ambiguousColumn name => "ambiguous column name: " ++ name
  | .noSuchFunction name => "no such function: " ++ name
  | .wrongArgumentCount function =>
    "wrong number of arguments to function " ++ function ++ "()"
  | .misusedAggregate function => "misuse of aggregate: " ++ function ++ "()"
  | .noTablesSpecified => "no tables specified"
  | .matchOutOfPlace => "unable to use function MATCH in the requested context"
  | .unknownInsertColumn table column =>
    "table " ++ table ++ " has no column named " ++ column
  | .valueCountMismatch table columns values =>
    "table " ++ table ++ " has " ++ toString columns ++ " columns but " ++ toString values ++
      " values were supplied"
  | .rowValueCountMismatch values columns =>
    toString values ++ " values for " ++ toString columns ++ " columns"
  | .unevenValues => "all VALUES must have the same number of terms"
  | .tableExists name => "table " ++ name ++ " already exists"
  | .triggerExists name => "trigger " ++ name ++ " already exists"
  | .noSuchTrigger name => "no such trigger: " ++ name
  | .duplicateColumn name => "duplicate column name: " ++ name
  | .severalPrimaryKeys table => "table \"" ++ table ++ "\" has more than one primary key"
  | .misplacedAutoincrement => "AUTOINCREMENT is only allowed on an INTEGER PRIMARY KEY"
  | .autoincrementWithoutRowid => "AUTOINCREMENT not allowed on WITHOUT ROWID tables"
  | .missingPrimaryKey table => "PRIMARY KEY missing on table " ++ table
  | .reservedName name => "object name reserved for internal use: " ++ name
  | .tableCannotChange name => "table " ++ name ++ " may not be modified"
  | .tableCannotGo name => "table " ++ name ++ " may not be dropped"
  | .triggerOnVirtualTable => "cannot create triggers on virtual tables"
  | .variableInTrigger => "trigger cannot use variables"
  | .uniqueViolation table columns =>
    "UNIQUE constraint failed: " ++ String.intercalate ", " (columns.map (table ++ "." ++ ·))
  | .notNullViolation table column => "NOT NULL constraint failed: " ++ table ++ "." ++ column
  | .datatypeMismatch => "datatype mismatch"
  | .storageFull => "database or disk is full"
  | .locked => "database is locked"
  | .nestedBegin => "cannot start a transaction within a transaction"
  | .nothingToCommit => "cannot commit - no transaction is active"
  | .nothingToRollBack => "cannot rollback - no transaction is active"
  | .noSuchSavepoint name => "no such savepoint: " ++ name
  | .reservedFullTextColumn name => "reserved fts5 column name: " ++ name
  | .partExists name =>
    "fts5: error creating shadow table " ++ name ++ ": table '" ++ name ++ "' already exists"
  | .constructorFailed name => "vtable constructor failed: " ++ name
  | .noSuchModule name => "no such module: " ++ name
  | .unterminatedString => "unterminated string"
  | .fullTextSyntax near => "fts5: syntax error near \"" ++ near ++ "\""
  | .expectedInteger found => "expected integer, got \"" ++ found ++ "\""
  | .unknownSpecialQuery word => "unknown special query: " ++ word
  | .fullTextNearName found => "fts5: syntax error near \"" ++ found ++ "\""
  | .unableToOpen path => "unable to open database file: " ++ path

end Fault

end RecordStore
