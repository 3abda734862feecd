import RecordStore.Engine.Fault

/-!
# Errors of the store

Why an operation of the store does not answer. The wording of each cause is fixed by
`StoreError.message`; a malformed configuration document has none, since all that is said
about it is that it is malformed.
-/

namespace RecordStore

/-- Whether a driver holds a connection. -/
inductive ConnectionState where
  | closed
  | opened
  deriving DecidableEq, Repr

/-- The word for a connection state. -/
def ConnectionState.text : ConnectionState → String
  | .closed => "closed"
  | .opened => "open"

/-- A reason for which an operation fails. -/
inductive StoreError where
  | schemaConfiguration (table reason : String)
  | driverNotSupported (name : String)
  | alreadyConnected
  | invalidConnectionState (expected actual : ConnectionState)
  | alreadyInTransaction
  | notInTransaction
  /-- Every column that must hold a value and does not. -/
  | dataValidation (table : String) (columns : List String)
  | unaffectedRows
  | invalidQuery (reason : String)
  /-- The engine refused a statement. -/
  | engine (fault : Fault) (statement : String)
  /-- The engine refused something that is not a statement. -/
  | connection (fault : Fault)
  | tableNotFound (name : String)
  | unknownColumn (table column : String)
  | typeError (reason : String)
  | invalidArgument (reason : String)
  | malformedDocument
  deriving DecidableEq, Repr

namespace StoreError

/-- The wording of an error. -/
def message : StoreError → String
  | .schemaConfiguration table reason =>
    "Schema configuration error: table `" ++ table ++ "`: " ++ reason
  | .driverNotSupported name => "The driver `" ++ name ++ "` is not supported"
  | .alreadyConnected => "Driver is already connected"
  | .invalidConnectionState expected actual =>
    "Invalid connection state. Expected: " ++ expected.text ++ "; actual: " ++ actual.text
  | .alreadyInTransaction => "A transaction is already open on this connection"
  | .notInTransaction => "Not in transaction"
  | .dataValidation table columns =>
    "Data validation failed for collection `" ++ table ++ "`:\n" ++
      String.intercalate "\n" (columns.map fun column =>
        "Column `" ++ column ++ "` is not nullable")
  | .unaffectedRows => "Update affected 0 rows"
  | .invalidQuery reason => "Invalid query: " ++ reason
  | .engine fault statement =>
    "SQL statement failed: " ++ fault.message ++ "\nsql: " ++ statement
  | .connection fault => "SQLite error: " ++ fault.message
  | .tableNotFound name => "Table not found: " ++ name
  | .unknownColumn table column =>
    "Column `" ++ column ++ "` not found in table `" ++ table ++ "`"
  | .typeError reason => "Type error: " ++ reason
  | .invalidArgument reason => "Invalid argument: " ++ reason
  | .malformedDocument => "malformed document"

end StoreError

end RecordStore
