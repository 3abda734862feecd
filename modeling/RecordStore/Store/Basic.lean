import RecordStore.Config.Basic
import RecordStore.Engine.Connection
import RecordStore.Error

/-!
# Stores

A store is a driver in its surroundings. The driver has a configuration, holds at most one
connection and remembers whether it takes a transaction to be open. The surroundings are
what drivers share: the disk, the number that counting generators give next, the log of the
statements that were run, and the outages that keep the engine from answering.

An operation on a store answers or fails, and either way it leaves a store behind. Operations
that run the work of a caller accept work in any monad, so that a caller can do more in it
than use the store; all others are operations of the store alone.
-/

namespace RecordStore

open Engine

/-- A statement that was run, and whether the engine accepted it. -/
structure Execution where
  accepted : Bool
  statement : String
  deriving DecidableEq, Repr

/-- A driver. -/
structure Driver where
  config : Config
  /-- The connection, if the driver is open. -/
  connection : Option Connection := none
  /-- Whether the driver takes a transaction to be open. -/
  inTransaction : Bool := false
  deriving Repr

namespace Driver

/-- Whether a driver has a connection. -/
def isConnected (driver : Driver) : Bool := driver.connection.isSome

/-- The state in which a driver says it is. -/
def state (driver : Driver) : ConnectionState :=
  if driver.isConnected then .opened else .closed

/-- A closed driver; its configuration must be one under which a page can hold a row. -/
def new (config : Config) : Except StoreError Driver := do
  config.validate
  return { config }

end Driver

/-- What drivers share. -/
structure Host where
  disk : Disk := {}
  /-- What a counting generator gives next. -/
  count : Nat := 0
  /-- The statements that were run, the first one first. -/
  log : List Execution := []
  /-- What befalls the next calls to the engine, the next call first. Calls behind the end of
  the list go undisturbed. -/
  outages : List (Option Outage) := []
  deriving Repr

/-- What befalls the next call to the engine. -/
def Host.outage? (host : Host) : Option Outage := host.outages.head?.join

/-- A driver in its surroundings. -/
structure Store where
  driver : Driver
  host : Host
  deriving Repr

namespace Store

/-- The store with another count for its generators. -/
def withCount (store : Store) (count : Nat) : Store :=
  { store with host := { store.host with count } }

/-- The store when its transaction flag says this. -/
def flagged (store : Store) (inTransaction : Bool) : Store :=
  { store with driver := { store.driver with inTransaction } }

/-- The store after a call to the engine. -/
def called (store : Store) : Store :=
  { store with host := { store.host with outages := store.host.outages.tail } }

/-- The store after its connection was used. -/
def used (store : Store) (access : Access) (execution : Execution) : Store where
  driver := { store.driver with connection := some access.connection }
  host := { store.host with
    disk := access.disk
    log := store.host.log ++ [execution]
    outages := store.host.outages.tail }

/-- The store when its driver has taken a new connection. -/
def connectedBy (store : Store) (access : Access) : Store where
  driver := { store.driver with connection := some access.connection, inTransaction := false }
  host := { store.host with disk := access.disk }

/-- The store when its driver has given its connection back. -/
def disconnected (store : Store) : Store :=
  match store.driver.connection with
  | none => store
  | some connection =>
    { driver := { store.driver with connection := none }
      host := { store.host with disk := Access.close ⟨connection, store.host.disk⟩ } }

/-- The store when its driver is thrown away and replaced by a closed one. Whatever was not
committed is lost. -/
def abandoned (store : Store) : Store := store.disconnected.flagged false

end Store

/-- An operation on a store inside of other work. -/
abbrev OperationT (m : Type → Type) (α : Type) := ExceptT StoreError (StateT Store m) α

/-- An operation on a store. -/
abbrev Operation (α : Type) := OperationT Id α

namespace Operation

variable {m : Type → Type} [Monad m] {α : Type}

/-- An operation from what it does to a store. -/
def of (act : Store → Except StoreError α × Store) : Operation α := ExceptT.mk act

/-- What an operation does to a store. -/
def apply (operation : Operation α) (store : Store) : Except StoreError α × Store :=
  (operation.run).run store

/-- The operation that has this outcome and leaves the store alone. -/
def ofExcept (outcome : Except StoreError α) : Operation α := of fun store => (outcome, store)

/-- An operation as a part of other work. -/
def within (operation : Operation α) : OperationT m α :=
  ExceptT.mk fun store => pure (operation.apply store)

/-- Work whose failure is part of its answer. -/
def attempt (work : OperationT m α) : OperationT m (Except StoreError α) :=
  ExceptT.mk fun store => do
    let (result, store) ← (work.run).run store
    return (.ok result, store)

/-- What a closed driver answers. -/
def notConnected : StoreError := .invalidConnectionState .opened .closed

/-- Refuses to go on without a connection. -/
def requireConnection : Operation Unit := of fun store =>
  if store.driver.isConnected then (.ok (), store) else (.error notConnected, store)

/-- Uses the connection for a statement, which may be one that ends the transaction, and logs
it. -/
def onConnection (statement : String) (isEnd : Bool) (act : Access → Outcome α) :
    Operation α := of fun store =>
  match store.driver.connection with
  | none => (.error notConnected, store)
  | some connection =>
    let access : Access := ⟨connection, store.host.disk⟩
    let outcome := match store.host.outage? with
      | some outage => access.struck outage isEnd
      | none => act access
    match outcome.answer with
    | .ok answer => (.ok answer, store.used outcome.access ⟨true, statement⟩)
    | .error fault =>
      (.error (.engine fault statement), store.used outcome.access ⟨false, statement⟩)

/-- Runs a statement and answers its rows. -/
def answering (statement : Sql.Statement Stored) : Operation Answer :=
  onConnection statement.render statement.endsTransaction fun access => access.run statement

/-- Runs a statement for its effect and answers how many rows the last change changed. -/
def executing (statement : Sql.Statement Stored) : Operation Nat :=
  onConnection statement.render statement.endsTransaction fun access =>
    Access.counted (access.run statement)

/-- Runs the first statement of a text and answers its rows. -/
def answeringText (text : String) (parameters : List Stored) : Operation Answer :=
  onConnection text (Access.textEndsTransaction text) fun access =>
    access.runText text parameters

/-- Runs the first statement of a text for its effect. -/
def executingText (text : String) (parameters : List Stored) : Operation Nat :=
  onConnection text (Access.textEndsTransaction text) fun access =>
    Access.counted (access.runText text parameters)

end Operation

end RecordStore
