import RecordStore.Schema.Definition
import RecordStore.Schema.Registry
import RecordStore.Store.Transaction

/-!
# Tables of a store

Creating the tables of a schema. A table is created with its full-text side in one
transaction, and a whole schema in one transaction with whatever the caller puts into the
fresh tables: either all of it is there afterwards or nothing.

The statements of a table are data, and for a table that a schema would admit the engine runs
the data. The names of any other table can make their statements say something else, so the
engine is given the text of those and reads it for itself.
-/

namespace RecordStore

open Engine

namespace Operation

variable {m : Type → Type} [Monad m] {α : Type}

/-- Runs one of the statements that create a table. -/
def creating (table : Table) (statement : Sql.Statement Stored) : Operation Nat :=
  if table.fault?.isNone then executing statement else executingText statement.render []

/-- Creates a table and its full-text side. -/
def createTable (table : Table) : Operation Unit :=
  atomically (table.creationStatements.forM fun statement => do
    let _ ← creating table statement)

/-- The statement that counts the tables of a name. -/
def tableCountText : String :=
  "SELECT COUNT(*) FROM sqlite_master WHERE type = 'table' AND name = ?"

/-- Whether there is a table of a name. -/
def tableExists (name : String) : Operation Bool := do
  let answer ← answeringText tableCountText [.text name]
  return decide (0 < answer.number)

/-- Creates all tables of a schema in their order. -/
def createTables (schema : Schema) : Operation Unit := schema.tables.forM createTable

/-- Creates all tables of a schema and then lets the caller put something into them, in one
transaction. Any failure rolls everything back and is the failure of the whole. -/
def createDatabase (schema : Schema) (initializer : OperationT m Unit := pure ()) :
    OperationT m Unit := do
  begin.within
  let created ← attempt do
    (createTables schema).within
    initializer
  match created with
  | .ok _ => commit.within
  | .error problem =>
    tryRollback.within
    throw problem

end Operation

end RecordStore
