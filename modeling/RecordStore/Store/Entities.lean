import RecordStore.Query.Mutation
import RecordStore.Query.Request
import RecordStore.Schema.Registry
import RecordStore.Store.Row
import RecordStore.Store.Transaction

/-!
# Entities in a store

Adding, changing, removing and finding the entities of a model under a handle, and statements
of the caller's own.

Adding and changing also change the entity: what generators gave and the number that the
engine gave is in it afterwards, also when the operation fails. They answer the entity beside
the outcome.
-/

namespace RecordStore

open Engine

/-- An entity after it was to be saved, and whether it was. -/
structure Saved (model : Model) where
  entity : Entity model
  outcome : Except StoreError Unit

/-- A page of a search, and how many rows were found in all. -/
structure SearchPage (model : Model) where
  entities : List (Entity model)
  total : Int64
  offset : Int64
  pageSize : Int64

variable {model : Model}

namespace Store

/-- Puts the number that the engine gave to the last row into the entity. -/
def numbered (store : Store) (table : Table) (entity : Entity model) : Saved model :=
  match table.autoincrementKey? with
  | none => ⟨entity, .ok ()⟩
  | some key =>
    match store.driver.connection with
    | none => ⟨entity, .error Operation.notConnected⟩
    | some connection =>
      match entity.set key (.integer connection.lastNumber) with
      | .ok entity => ⟨entity, .ok ()⟩
      | .error problem => ⟨entity, .error problem⟩

/-- Adds an entity. Where the engine numbers the key, the number is put into the entity. -/
def add (handle : Handle model) (entity : Entity model) (store : Store) : Saved model × Store :=
  let draft := entity.row handle.table false store.host.count
  let store := store.withCount draft.count
  match draft.outcome with
  | .error problem => (⟨draft.entity, .error problem⟩, store)
  | .ok row =>
    match (Operation.executing (.change (handle.table.insertion row))).apply store with
    | (.error problem, store) => (⟨draft.entity, .error problem⟩, store)
    | (.ok _, store) => (store.numbered handle.table draft.entity, store)

/-- Writes a drawn row over the row of a key. -/
def overwrite (table : Table) (criteria : Criteria) (row : List (String × Stored)) :
    Operation Unit := do
  if row.isEmpty then
    throw (.invalidQuery ("table `" ++ table.name ++ "` has no non-key columns to update"))
  let condition ← Operation.ofExcept (criteria.condition table "update")
  let changed ← Operation.executing (.change (table.modification row condition))
  if changed = 0 then throw .unaffectedRows

/-- Writes every column of an entity that is not a key column over the row of its key. -/
def update (handle : Handle model) (entity : Entity model) (store : Store) :
    Saved model × Store :=
  match (entity.key handle.table).criteria handle.table with
  | .error problem => (⟨entity, .error problem⟩, store)
  | .ok criteria =>
    let draft := entity.row handle.table true store.host.count
    let store := store.withCount draft.count
    match draft.outcome with
    | .error problem => (⟨draft.entity, .error problem⟩, store)
    | .ok row =>
      let (outcome, store) := (overwrite handle.table criteria row).apply store
      (⟨draft.entity, outcome⟩, store)

end Store

namespace Operation

/-- Removes the row of a key and answers how many rows that were. -/
def remove (handle : Handle model) (key : Key) : Operation Nat := do
  let criteria ← ofExcept (key.criteria handle.table)
  let condition ← ofExcept (criteria.condition handle.table "remove")
  executing (.change (handle.table.deletion condition))

/-- The entities of an answer's rows; the first row that is none of the model's fails. -/
def loadAll (table : Table) (answer : Answer) : Except StoreError (List (Entity model)) :=
  answer.rows.mapM (Entity.load table)

/-- Runs a query for all columns of a table and answers its rows as entities. -/
def fetching (table : Table) (query : Sql.Select Stored) : Operation (List (Entity model)) := do
  let answer ← answering (.select query)
  ofExcept (loadAll table answer)

/-- The entity of a key, if there is one. -/
def findOne (handle : Handle model) (key : Key) : Operation (Option (Entity model)) := do
  let criteria ← ofExcept (key.criteria handle.table)
  let query ← ofExcept (Request.findingOne handle.table criteria)
  let found ← fetching handle.table query
  return found.head?

/-- One page of the entities that a request means. -/
def findPage (handle : Handle model) (request : Request) (page : Page) :
    Operation (List (Entity model)) := do
  let query ← ofExcept (request.finding handle.table page)
  fetching handle.table query

/-- The page that a request means for the driver. -/
def pageOf (request : Request) : Operation Page := do
  let largest := (← get).driver.config.maxPageSize
  ofExcept (Page.resolve request.limit request.offset largest)

/-- The entities that a request means. -/
def find (handle : Handle model) (request : Request) : Operation (List (Entity model)) := do
  let page ← pageOf request
  findPage handle request page

/-- How many rows a request means, whatever its page. -/
def count (handle : Handle model) (request : Request) : Operation Int64 := do
  let query ← ofExcept (request.counting handle.table)
  let answer ← answering (.select query)
  return answer.number

/-- A page of the entities that a request means, and how many there are in all. A page behind
the last row is empty. -/
def search (handle : Handle model) (request : Request) : Operation (SearchPage model) := do
  let page ← pageOf request
  let total ← count handle request
  let entities ← if total ≤ page.offset then pure [] else findPage handle request page
  return ⟨entities, total, page.offset, page.limit⟩

/-- The rows of an answer with the names of their columns. -/
def records (answer : Answer) : List Record :=
  answer.rows.map fun values => ⟨answer.names.zip (values.map Stored.plain)⟩

/-- Runs a statement of the caller's own and answers its rows. -/
def query (text : String) (parameters : List Value) : Operation (List Record) := do
  let answer ← answeringText text (parameters.map Value.stored)
  return records answer

/-- Runs a statement of the caller's own for its effect and answers how many rows the last
change changed. The transaction flag follows the engine, since the statement may have opened
or ended a transaction. -/
def execute (text : String) (parameters : List Value) : Operation Nat := do
  let result ← attempt (executingText text (parameters.map Value.stored))
  syncTransaction
  ofExcept result

end Operation

end RecordStore
