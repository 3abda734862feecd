import RecordStore.Engine.Changes
import RecordStore.Engine.Definitions
import RecordStore.Engine.Disk
import RecordStore.Sql.Parameters

/-!
# Connections

A connection runs statements on one volume of a disk. A statement runs in three steps: every
name in it must stand for something, the connection must be able to take the hold that the
statement needs, and then it takes effect or leaves no trace.

Outside a transaction a statement that writes commits at once, for which nobody else may hold
the volume. In a transaction the first write starts a draft that only this connection sees;
committing replaces the committed database by the draft, and rolling back forgets it. A
commit that others stand in the way of is refused and leaves the transaction open.

A connection counts the rows that its last change changed. Statements of other kinds leave
the count alone, except where they make the engine write to a full-text index.
-/

namespace RecordStore.Engine

open Sql

/-- A point of a transaction to which it can return: the draft at that point. -/
structure Savepoint where
  name : String
  draft : Option Database
  deriving Repr

/-- A transaction that is open. -/
structure Transaction where
  /-- The database with all that was written, once something was. -/
  draft : Option Database := none
  /-- The savepoints, the last one first. -/
  savepoints : List Savepoint := []
  /-- Whether a savepoint opened the transaction, so that releasing it commits. -/
  isNamed : Bool := false
  /-- Whether written words still wait to enter a full-text index. -/
  hasWaitingWords : Bool := false
  deriving Repr, Inhabited

/-- A connection to a volume. -/
structure Connection where
  number : Nat
  location : Location
  transaction : Option Transaction := none
  /-- How many rows the last change changed. -/
  changes : Nat := 0
  /-- The number of the last row that was put into a table with numbered rows. -/
  lastNumber : Int64 := 0
  deriving Repr

/-- Whether no transaction is open. -/
def Connection.isIdle (connection : Connection) : Bool := connection.transaction.isNone

/-- A connection with the disk on which it works. -/
structure Access where
  connection : Connection
  disk : Disk
  deriving Repr

/-- What a statement answers and what it leaves behind. -/
structure Outcome (α : Type) where
  access : Access
  answer : Except Fault α

/-- A call to the engine that fails for a reason outside of the database: the disk fails, the
memory is used up, another program stands in the way. Such a call leaves no trace, except
that a transaction that it was to end may be over all the same. -/
structure Outage where
  fault : Fault
  /-- Whether a transaction that the call was to end is over. -/
  ends : Bool
  deriving DecidableEq, Repr

namespace Access

/-- The volume on which a connection works. -/
def volume (access : Access) : Volume := access.disk.volume access.connection.location

/-- The number of the connection. -/
def number (access : Access) : Nat := access.connection.number

/-- The database as the connection sees it: its own draft, else what is committed. -/
def visible (access : Access) : Database :=
  (access.connection.transaction.bind Transaction.draft).getD access.volume.content

/-- The access with another volume in its place. -/
def withVolume (access : Access) (volume : Volume) : Access :=
  { access with disk := access.disk.put access.connection.location volume }

/-- The access with another transaction, or with none. -/
def withTransaction (access : Access) (transaction : Option Transaction) : Access :=
  { access with connection := { access.connection with transaction } }

/-- The access when a number of rows was changed last. -/
def counting (access : Access) (changes : Nat) : Access :=
  { access with connection := { access.connection with changes } }

/-- The access when the transaction is over, if one was open. -/
def ended (access : Access) : Access :=
  (access.withVolume (access.volume.release access.number)).withTransaction none

/-- The access when waiting words have entered the index. The engine counts the row of the
index that it writes last. -/
def indexed (access : Access) : Access :=
  match access.connection.transaction with
  | none => access
  | some transaction =>
    if transaction.hasWaitingWords then
      (access.withTransaction (some { transaction with hasWaitingWords := false })).counting 1
    else access

/-- What a statement that reads holds. In a transaction the hold lasts until its end. -/
def forReading (access : Access) : Except Fault Access :=
  let volume := access.volume
  match access.connection.transaction, volume.hold? access.number with
  | some _, some _ => .ok access
  | some _, none =>
    if volume.mayRead access.number then
      .ok (access.withVolume (volume.grant access.number .reading))
    else .error .locked
  | none, _ => if volume.mayRead access.number then .ok access else .error .locked

/-- The hold with which a transaction writes: a stronger one stays. -/
def writingHold : Option Hold → Hold
  | some .closing => .closing
  | some .alone => .alone
  | _ => .writing

/-- What a statement that writes holds. In a transaction it also starts the draft. -/
def forWriting (access : Access) : Except Fault Access :=
  let volume := access.volume
  if volume.mayWrite access.number then
    match access.connection.transaction with
    | none => .ok access
    | some transaction =>
      let hold := writingHold (volume.hold? access.number)
      .ok ((access.withVolume (volume.grant access.number hold)).withTransaction
        (some { transaction with draft := some access.visible }))
  else .error .locked

/-- Keeps what a statement wrote: in the draft of the transaction, or else for everybody. -/
def keep (access : Access) (database : Database) : Except Fault Access :=
  match access.connection.transaction with
  | some transaction =>
    .ok (access.withTransaction (some { transaction with draft := some database }))
  | none =>
    let volume := access.volume
    if volume.mayClose access.number then
      .ok (access.withVolume { volume with content := database })
    else .error .locked

/-- Answers a query. A query without sources reads nothing and needs no hold. -/
def runSelect (access : Access) (query : Select Stored) : Outcome Answer :=
  if query.source.isNone then ⟨access, select access.visible query⟩
  else
    match access.forReading with
    | .error fault => ⟨access, .error fault⟩
    | .ok access => ⟨access, select access.visible query⟩

/-- Whether a change reaches a full-text table, itself or through a trigger. -/
def reachesWords (database : Database) (change : Change Stored) : Bool :=
  (database.fullText? (tableOf change)).isSome ||
    (database.triggersOn (tableOf change) (eventOf change)).any fun trigger =>
      trigger.body.any fun step => (database.fullText? (tableOf step)).isSome

/-- Whether a change can fail after a part of it was done, so that the engine marks the place
to which it may have to return: it does more than one thing, and one of them can fail. -/
def isGuarded (database : Database) (change : Change Stored) : Bool :=
  if !(database.triggersOn (tableOf change) (eventOf change)).isEmpty then true
  else
    match change with
    | .insert insertion =>
      match insertion.rows with
      | .values rows => decide (1 < rows.length)
      | .selected _ => true
      | .defaults => false
    | .update _ => true
    | .delete _ => false

/-- The access after a change failed. A full table that fails an unguarded change in a
transaction takes the whole transaction back. -/
def failed (access : Access) (guarded : Bool) (fault : Fault) : Access :=
  (if fault = .storageFull && !guarded then access.ended else access).counting 0

/-- The access after a change was kept. -/
def changed (access : Access) (effect : Effect) (reaches : Bool) : Access :=
  let connection := { access.connection with
    changes := effect.changed
    lastNumber := effect.lastNumber.getD access.connection.lastNumber
    transaction := access.connection.transaction.map fun transaction =>
      { transaction with
        hasWaitingWords := transaction.hasWaitingWords || (reaches && effect.changed != 0) } }
  { access with connection }

/-- Runs a change. -/
def runChange (access : Access) (change : Change Stored) : Outcome Answer :=
  let guarded := isGuarded access.visible change
  let reaches := reachesWords access.visible change
  match access.forWriting with
  | .error fault => ⟨access.counting 0, .error fault⟩
  | .ok access =>
    let access := if guarded then access.indexed else access
    match access.visible.change change with
    | .error fault => ⟨access.failed guarded fault, .error fault⟩
    | .ok effect =>
      match access.keep effect.database with
      | .error fault => ⟨access.counting 0, .error fault⟩
      | .ok access => ⟨access.changed effect reaches, .ok default⟩

/-- Makes or removes an object. -/
def runDefinition (access : Access) (define : Database → Except Fault Database) :
    Outcome Answer :=
  match define access.visible with
  | .error fault => ⟨access, .error fault⟩
  | .ok database =>
    match access.forWriting with
    | .error fault => ⟨access, .error fault⟩
    | .ok access =>
      match access.keep database with
      | .error fault => ⟨access, .error fault⟩
      | .ok access => ⟨access, .ok default⟩

/-- The access with a transaction, a new one if none is open. -/
def opened (access : Access) : Access :=
  match access.connection.transaction with
  | some _ => access
  | none => access.withTransaction (some {})

/-- What a transaction holds from its start on. -/
def forMode (access : Access) : TransactionMode → Except Fault Access
  | .deferred => .ok access.opened
  | .immediate => access.opened.forWriting
  | .exclusive => do
    let held ← access.opened.forWriting
    let volume := held.volume
    if volume.mayClose held.number then return held.withVolume (volume.grant held.number .alone)
    else throw .locked

/-- Opens a transaction. Inside a transaction that is refused, but only once the holds of the
new one were taken. -/
def runBegin (access : Access) (mode : TransactionMode) : Outcome Answer :=
  match access.forMode mode with
  | .error fault => ⟨access, .error fault⟩
  | .ok held =>
    if access.connection.isIdle then ⟨held, .ok default⟩ else ⟨held, .error .nestedBegin⟩

/-- Ends a transaction and keeps what it wrote. -/
def conclude (access : Access) (draft : Option Database) : Outcome Answer :=
  match draft with
  | none => ⟨access.ended, .ok default⟩
  | some database =>
    let volume := access.volume
    if volume.mayClose access.number then
      ⟨(access.withVolume { volume with content := database }).ended, .ok default⟩
    else ⟨access.withVolume (volume.grant access.number .closing), .error .locked⟩

/-- Commits the open transaction, of which the waiting words enter the index first. -/
def runCommit (access : Access) : Outcome Answer :=
  match access.connection.transaction with
  | none => ⟨access, .error .nothingToCommit⟩
  | some transaction => access.indexed.conclude transaction.draft

/-- Rolls the open transaction back. -/
def runRollback (access : Access) : Outcome Answer :=
  match access.connection.transaction with
  | none => ⟨access, .error .nothingToRollBack⟩
  | some _ => ⟨access.ended, .ok default⟩

/-- Marks a point of a transaction; outside of one it opens a transaction. -/
def runSavepoint (access : Access) (name : String) : Outcome Answer :=
  match access.connection.transaction with
  | none =>
    ⟨access.withTransaction (some { savepoints := [⟨name, none⟩], isNamed := true }), .ok default⟩
  | some transaction =>
    let marked := { transaction with
      savepoints := ⟨name, transaction.draft⟩ :: transaction.savepoints
      hasWaitingWords := false }
    ⟨access.indexed.withTransaction (some marked), .ok default⟩

/-- The savepoints from the last one of a name on. -/
def savepointsFrom (transaction : Transaction) (name : String) : List Savepoint :=
  transaction.savepoints.dropWhile fun savepoint => !sameName savepoint.name name

/-- Forgets a savepoint and all later ones. Releasing the savepoint that opened the
transaction commits. -/
def runRelease (access : Access) (name : String) : Outcome Answer :=
  match access.connection.transaction with
  | none => ⟨access, .error (.noSuchSavepoint name)⟩
  | some transaction =>
    match savepointsFrom transaction name with
    | [] => ⟨access, .error (.noSuchSavepoint name)⟩
    | _ :: earlier =>
      if earlier.isEmpty && transaction.isNamed then access.indexed.conclude transaction.draft
      else
        let released := { transaction with savepoints := earlier, hasWaitingWords := false }
        ⟨access.indexed.withTransaction (some released), .ok default⟩

/-- Returns to a savepoint, which stays. -/
def runRollbackTo (access : Access) (name : String) : Outcome Answer :=
  match access.connection.transaction with
  | none => ⟨access, .error (.noSuchSavepoint name)⟩
  | some transaction =>
    match savepointsFrom transaction name with
    | [] => ⟨access, .error (.noSuchSavepoint name)⟩
    | savepoint :: earlier =>
      let returned := { transaction with
        draft := transaction.draft.map fun _ => savepoint.draft.getD access.volume.content
        savepoints := savepoint :: earlier
        hasWaitingWords := false }
      ⟨access.withTransaction (some returned), .ok default⟩

/-- What a statement that makes or removes an object does to a database. The text is what the
catalog shows for an object that the statement makes. -/
def definition? (text : String) : Statement Stored → Option (Database → Except Fault Database)
  | .createTable definition => some fun database => createTable database definition text
  | .createFullText definition => some fun database => createFullText database definition text
  | .createTrigger definition => some fun database => createTrigger database definition text
  | .dropTable name ifPresent => some fun database => dropTable database name ifPresent
  | .dropTrigger name ifPresent => some fun database => dropTrigger database name ifPresent
  | _ => none

/-- Refuses a statement in which a name stands for nothing, or which makes what cannot be
made. -/
def check (access : Access) (statement : Statement Stored) : Except Fault Unit :=
  match statement with
  | .select query => checkSelect access.visible query
  | .change step => do
    checkChange access.visible [] step
    checkTriggers access.visible step
  | statement =>
    match definition? "" statement with
    | some define => (define access.visible).map fun _ => ()
    | none => .ok ()

/-- What a definition leaves in the count of changed rows. Making a full-text table makes the
engine write the first row of its index; everything else leaves the count alone. -/
def countingIndex (statement : Statement Stored) (outcome : Outcome Answer) : Outcome Answer :=
  match statement, outcome.answer with
  | .createFullText _, .ok _ => ⟨outcome.access.counting 1, outcome.answer⟩
  | _, _ => outcome

/-- Lets a statement take effect that has been checked. The text is that of the statement. -/
def perform (access : Access) (text : String) (statement : Statement Stored) : Outcome Answer :=
  match statement with
  | .select query => access.runSelect query
  | .change step => access.runChange step
  | .begin mode => access.runBegin mode
  | .commit => access.runCommit
  | .rollback => access.runRollback
  | .savepoint name => access.runSavepoint name
  | .release name => access.runRelease name
  | .rollbackTo name => access.runRollbackTo name
  | statement =>
    match definition? text statement with
    | some define => countingIndex statement (access.runDefinition define)
    | none => ⟨access, .ok default⟩

/-- Runs a statement. -/
def run (access : Access) (statement : Statement Stored) : Outcome Answer :=
  let statement := statement.mapOperands Stored.bound
  match access.check statement with
  | .error fault => ⟨access, .error fault⟩
  | .ok _ => access.perform statement.render statement

/-- What a connection needs to know of a statement before its parameters have values: that
its names stand for something. -/
def prepare (access : Access) (read : ReadStatement) : Except Fault Unit :=
  if read.hasTriggerParameters then .error .variableInTrigger
  else access.check (read.withParameters [])

/-- Runs the first statement of a text with values for its parameters. -/
def runText (access : Access) (text : String) (parameters : List Stored) : Outcome Answer :=
  let prepared : Except Fault ReadStatement := do
    let read ← Sql.parse text
    access.prepare read
    read.requireParameters parameters.length
    return read
  match prepared with
  | .error fault => ⟨access, .error fault⟩
  | .ok read => access.perform read.text (read.withParameters parameters)

/-- The number of rows that the last change changed, for a statement that is run for its
effect. Such a statement must not produce rows. -/
def counted (outcome : Outcome Answer) : Outcome Nat :=
  match outcome.answer with
  | .error fault => ⟨outcome.access, .error fault⟩
  | .ok answer =>
    if answer.rows.isEmpty then ⟨outcome.access, .ok outcome.access.connection.changes⟩
    else ⟨outcome.access, .error .unexpectedRow⟩

/-- Whether the first statement of a text can end a transaction. -/
def textEndsTransaction (text : String) : Bool :=
  (Sql.parse text).toOption.any fun read => read.statement.endsTransaction

/-- A call that an outage keeps from being answered; it may have been a call to end the
transaction. -/
def struck {α : Type} (access : Access) (outage : Outage) (isEnd : Bool) : Outcome α :=
  ⟨if isEnd && outage.ends then access.ended else access, .error outage.fault⟩

/-- Closes the connection. An open transaction is forgotten, and memory that belongs to the
connection goes with it. -/
def close (access : Access) : Disk :=
  match access.connection.location with
  | .file _ => access.ended.disk
  | .memory owner => access.disk.remove (.memory owner)

end Access

/-- The path that stands for memory. -/
def memoryPath : String := ":memory:"

/-- Opens a connection to the file at a path, which is made if it is not there, or to memory
of its own. -/
def Disk.connect (disk : Disk) (path : Option String) : Except Fault Access :=
  let number := disk.connections
  let counted := { disk with connections := number + 1 }
  match path with
  | none => .ok ⟨{ number, location := .memory number }, counted⟩
  | some path =>
    if path.isEmpty || path == memoryPath then
      .ok ⟨{ number, location := .memory number }, counted⟩
    else if disk.canOpen path then
      let location := Location.file path
      .ok ⟨{ number, location }, counted.put location (disk.volume location)⟩
    else .error (.unableToOpen path)

end RecordStore.Engine
