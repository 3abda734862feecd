import RecordStore.Store.Basic

/-!
# Connections and transactions of a store

Connecting, closing, and the transactions of a driver. The driver remembers whether it takes a
transaction to be open and refuses what does not fit. Ending a transaction asks the engine
whether it is over, for a refused end can leave it open.

`atomically` gives an operation a transaction of its own unless one is open. `onOwnDriver` gives
work a driver of its own: on every way out its connection is given back and nothing
uncommitted stays behind.
-/

namespace RecordStore

open Engine

namespace Operation

variable {m : Type → Type} [Monad m] {α : Type}

/-- Connects the driver to its database. -/
def connect : Operation Unit := of fun store =>
  if store.driver.isConnected then (.error .alreadyConnected, store)
  else
    match store.host.outage? with
    | some outage => (.error (.connection outage.fault), store.called)
    | none =>
      match store.host.disk.connect store.driver.config.dbFile with
      | .error fault => (.error (.connection fault), store.called)
      | .ok access => (.ok (), store.called.connectedBy access)

/-- Makes the transaction flag say what the engine says. -/
def syncTransaction : Operation Unit := of fun store =>
  match store.driver.connection with
  | none => (.error notConnected, store)
  | some connection => (.ok (), store.flagged (!connection.isIdle))

/-- Refuses to go on inside a transaction. -/
def requireNoTransaction : Operation Unit := of fun store =>
  if store.driver.inTransaction then (.error .alreadyInTransaction, store) else (.ok (), store)

/-- Refuses to go on outside a transaction. -/
def requireTransaction : Operation Unit := of fun store =>
  if store.driver.inTransaction then (.ok (), store) else (.error .notInTransaction, store)

/-- Opens a transaction. -/
def begin : Operation Unit := do
  requireConnection
  requireNoTransaction
  let _ ← answering (.begin .deferred)
  of fun store => (.ok (), store.flagged true)

/-- Ends the transaction by a statement. The flag follows the engine even when the statement
is refused. -/
def ending (statement : Sql.Statement Stored) : Operation Unit := do
  requireConnection
  requireTransaction
  let result ← attempt (answering statement)
  syncTransaction
  let _ ← ofExcept result

/-- Ends the transaction and keeps what it did. -/
def commit : Operation Unit := ending .commit

/-- Ends the transaction and forgets what it did. -/
def rollback : Operation Unit := ending .rollback

/-- Rolls back an open transaction, whatever comes of it. -/
def tryRollback : Operation Unit := of fun store =>
  (.ok (), if store.driver.inTransaction then (rollback.apply store).2 else store)

/-- Gives the connection back. A driver that cannot give it back keeps it. -/
def disconnect : Operation Unit := of fun store =>
  match store.host.outage? with
  | some outage => (.error (.connection outage.fault), store.called)
  | none => (.ok (), store.called.disconnected)

/-- Closes the connection and rolls back an open transaction first. -/
def close : Operation Unit := do
  requireConnection
  if (← get).driver.inTransaction then rollback
  disconnect

/-- Runs an operation inside a transaction: inside the one that is open, or inside one of its
own, which is committed when the operation answers and rolled back when it fails. -/
def atomically (operation : Operation α) : Operation α := do
  if (← get).driver.inTransaction then operation
  else
    begin
    match ← attempt operation with
    | .ok answer =>
      commit
      return answer
    | .error problem =>
      tryRollback
      throw problem

end Operation

/-- Runs work with a driver of its own: connects, works and closes. When the work fails, an
open transaction is rolled back before the connection is given back, and the failure of the
work counts for more than a failure to close. -/
def onOwnDriver {m : Type → Type} [Monad m] {α : Type} (config : Config) (work : OperationT m α) :
    ExceptT StoreError (StateT Host m) α := ExceptT.mk fun host =>
  match Driver.new config with
  | .error problem => pure (.error problem, host)
  | .ok driver =>
    match Operation.connect.apply ⟨driver, host⟩ with
    | (.error problem, store) => pure (.error problem, store.host)
    | (.ok _, store) => do
      let (result, store) ← (work.run).run store
      match result with
      | .error problem =>
        let (_, store) := Operation.tryRollback.apply store
        let (_, store) := Operation.close.apply store
        return (.error problem, store.abandoned.host)
      | .ok answer =>
        if store.driver.isConnected then
          let (closed, store) := Operation.close.apply store
          return (closed.map fun _ => answer, store.abandoned.host)
        else return (.ok answer, store.abandoned.host)

end RecordStore
