import RecordStore.Proofs.Store.Synchrony

/-!
# Runs of a driver

A run starts with a new driver and does anything: it connects and closes, it begins and ends
transactions, it runs statements, creates tables, changes and reads entities, and lets
initializers do all of this inside of the creation of a schema. Between its steps others may
do to the shared host whatever they want, and outages may strike any call.

In every state that a run reaches the driver is in step with the engine, so that what it
refuses is what the engine would refuse. Closing gives back a connection on which nothing is
open any more.
-/

namespace RecordStore

open Engine

/-- What a driver can have done to a store, the last step last. An initializer is a run of its
own on the store that the creation of the tables left.

The engine is trusted in one point only: an insertion that fails leaves it in a transaction
exactly if it was in one before. -/
inductive Store.Run : Store → Store → Prop where
  | start (store : Store) : Run store store
  | connect {first store : Store} (run : Run first store) :
      Run first (Operation.connect.apply store).2
  | close {first store : Store} (run : Run first store) :
      Run first (Operation.close.apply store).2
  | begin {first store : Store} (run : Run first store) :
      Run first (Operation.begin.apply store).2
  | commit {first store : Store} (run : Run first store) :
      Run first (Operation.commit.apply store).2
  | rollback {first store : Store} (run : Run first store) :
      Run first (Operation.rollback.apply store).2
  | execute {first store : Store} (run : Run first store) (text : String)
      (parameters : List Value) :
      Run first ((Operation.execute text parameters).apply store).2
  | createTable {first store : Store} (run : Run first store) (table : Table) :
      Run first ((Operation.createTable table).apply store).2
  | createDatabase {first store : Store} (run : Run first store) (schema : Schema)
      (initializer : Operation Unit)
      (initialized : ∀ created,
        (Operation.begin >>= fun _ => Operation.createTables schema).apply store =
          (.ok (), created) →
        Run created (initializer.apply created).2) :
      Run first (Operation.apply (Operation.createDatabase schema initializer) store).2
  | add {first store : Store} (run : Run first store) {model : Model} (handle : Handle model)
      (entity : Entity model)
      (kept : (store.add handle entity).1.outcome ≠ .ok () →
        (store.add handle entity).2.driver.engineInTransaction =
          store.driver.engineInTransaction) :
      Run first (store.add handle entity).2
  | update {first store : Store} (run : Run first store) {model : Model}
      (handle : Handle model) (entity : Entity model) :
      Run first (store.update handle entity).2
  | remove {first store : Store} (run : Run first store) {model : Model}
      (handle : Handle model) (key : Key) :
      Run first ((Operation.remove handle key).apply store).2
  | findOne {first store : Store} (run : Run first store) {model : Model}
      (handle : Handle model) (key : Key) :
      Run first ((Operation.findOne handle key).apply store).2
  | find {first store : Store} (run : Run first store) {model : Model}
      (handle : Handle model) (request : Request) :
      Run first ((Operation.find handle request).apply store).2
  | count {first store : Store} (run : Run first store) {model : Model}
      (handle : Handle model) (request : Request) :
      Run first ((Operation.count handle request).apply store).2
  | search {first store : Store} (run : Run first store) {model : Model}
      (handle : Handle model) (request : Request) :
      Run first ((Operation.search handle request).apply store).2
  | elsewhere {first store : Store} (run : Run first store) (host : Host) :
      Run first { store with host }

namespace Store

/-- A run keeps a driver in step with the engine. -/
theorem Run.in_step {first last : Store} (run : Run first last) (initially : first.InStep) :
    last.InStep := by
  induction run with
  | start => exact initially
  | connect _ kept => exact Operation.connect_in_step _ (kept initially)
  | close _ kept => exact Operation.close_in_step _ (kept initially)
  | begin _ kept => exact Operation.begin_in_step _ (kept initially)
  | commit _ kept => exact Operation.ending_in_step .commit _ (kept initially)
  | rollback _ kept => exact Operation.ending_in_step .rollback _ (kept initially)
  | execute _ text parameters kept =>
    exact Operation.execute_in_step text parameters _ (kept initially)
  | createTable _ table kept => exact Operation.create_table_in_step table _ (kept initially)
  | createDatabase _ schema initializer _ kept initialized =>
    exact Operation.create_database_in_step schema initializer _ (kept initially) initialized
  | add _ handle entity engineKept kept =>
    exact add_in_step handle entity _ (kept initially) engineKept
  | update _ handle entity kept => exact update_in_step handle entity _ (kept initially)
  | remove _ handle key kept => exact Operation.remove_in_step handle key _ (kept initially)
  | findOne _ handle key kept =>
    exact Operation.find_one_keeps Operation.query_in_step handle key _ (kept initially)
  | find _ handle request kept =>
    exact Operation.find_keeps Operation.query_in_step handle request _ (kept initially)
  | count _ handle request kept =>
    exact Operation.count_keeps Operation.query_in_step handle request _ (kept initially)
  | search _ handle request kept =>
    exact Operation.search_keeps Operation.query_in_step handle request _ (kept initially)
  | elsewhere _ host kept => exact kept initially

end Store

/-- A new driver has its configuration and nothing else. -/
theorem Driver.new_ok {config : Config} {driver : Driver}
    (made : Driver.new config = .ok driver) : driver = { config } := by
  unfold Driver.new at made
  cases valid : config.validate with
  | error problem =>
    rw [valid] at made
    cases made
  | ok _ =>
    rw [valid] at made
    cases made
    rfl

/-- A new driver is closed and its flag is down. -/
theorem Driver.new_in_step {config : Config} {driver : Driver}
    (made : Driver.new config = .ok driver) : driver.InStep := by
  rw [Driver.new_ok made]
  rfl

namespace Engine.Access

/-! ### What is left when a connection is given back -/

/-- The end of a transaction changes nothing that is committed, here or elsewhere. -/
theorem ended_content (access : Access) (location : Location) :
    (access.ended.disk.volume location).content = (access.disk.volume location).content := by
  by_cases same : location = access.connection.location
  · rw [same]
    exact access.ended_volume_content
  · exact congrArg Volume.content (Disk.volume_put_of_ne _ _ same)

/-- Who gave up a hold has none. -/
theorem release_hold (volume : Volume) (number : Nat) :
    (volume.release number).hold? number = none := by
  simp [Volume.release, Volume.hold?, List.find?_filter]

/-- Closing changes nothing that is committed to a file. -/
theorem close_content (access : Access) (path : String) :
    (access.close.volume (.file path)).content = (access.disk.volume (.file path)).content := by
  unfold close
  split
  · exact access.ended_content (.file path)
  · rename_i owner _
    have different : Location.file path ≠ .memory owner := nofun
    rw [Disk.volume_remove_of_ne _ different]

/-- Closing leaves no hold of the connection. -/
theorem close_hold (access : Access) :
    (access.close.volume access.connection.location).hold? access.number = none := by
  unfold close
  split
  · change access.ended.volume.hold? access.number = none
    simp only [ended, with_transaction_volume, with_volume_volume]
    exact release_hold access.volume access.number
  · rename_i owner located
    rw [located, Disk.volume_remove]
    rfl

end Engine.Access

namespace Operation

/-- A rollback that is answered gives the connection back idle, and what is committed stays as
it is. -/
theorem rollback_kept {store after : Store} {connection : Connection}
    (opened : store.driver.connection = some connection)
    (answered : rollback.apply store = (.ok (), after)) :
    ∃ left, after.driver.connection = some left ∧ left.isIdle = true ∧
      left.location = connection.location ∧ left.number = connection.number ∧
      ∀ location, (after.host.disk.volume location).content =
        (store.host.disk.volume location).content := by
  obtain ⟨_, answer, opened', -, done, execution, rfl⟩ := ending_answered answered
  cases opened.symm.trans opened'
  change (Access.runRollback _).answer = _ at done
  rw [show (⟨connection, store.host.disk⟩ : Access).run .rollback =
    (⟨connection, store.host.disk⟩ : Access).runRollback from rfl]
  unfold Access.runRollback at done ⊢
  split at done
  · cases done
  · exact ⟨_, rfl, rfl, rfl, rfl, Access.ended_content _⟩

/-- A close that is answered gives back an idle connection: what was open was rolled back
before, and nothing was committed. -/
theorem close_kept {store after : Store} {connection : Connection} (inStep : store.InStep)
    (opened : store.driver.connection = some connection)
    (answered : close.apply store = (.ok (), after)) :
    ∃ (left : Connection) (before : Store), before.driver.connection = some left ∧
      left.isIdle = true ∧ left.location = connection.location ∧ left.number = connection.number ∧
      before.driver.inTransaction = false ∧ after = before.called.disconnected ∧
      ∀ location, (before.host.disk.volume location).content =
        (store.host.disk.volume location).content := by
  have given : ∀ before : Store, disconnect.apply before = (.ok (), after) →
      after = before.called.disconnected := by
    intro before gave
    simp only [disconnect, apply_of] at gave
    split at gave
    · cases (Prod.mk.inj gave).1
    · exact (Prod.mk.inj gave).2.symm
  rw [close, apply_bind, require_connection_open opened] at answered
  simp only at answered
  rw [apply_bind] at answered
  simp only [apply_get] at answered
  cases flag : store.driver.inTransaction with
  | false =>
    simp only [flag, Bool.false_eq_true, if_false] at answered
    have idle : connection.isIdle = true := by
      have same : store.driver.inTransaction = _ := inStep
      simpa [flag, Driver.engineInTransaction, opened] using same
    exact ⟨connection, store, opened, idle, rfl, rfl, flag, given store answered, fun _ => rfl⟩
  | true =>
    simp only [flag, if_true] at answered
    obtain ⟨⟨⟩, before, rolled, gave⟩ := bind_answered answered
    obtain ⟨left, kept, idle, located, numbered, contents⟩ := rollback_kept opened rolled
    exact ⟨left, before, kept, idle, located, numbered, (rollback_ok rolled).1,
      given before gave, contents⟩

/-- What a successful close leaves: a closed driver, every file with what was committed to it
before, and no hold of the connection that was given back. -/
theorem close_leaves {store after : Store} {connection : Connection} (inStep : store.InStep)
    (opened : store.driver.connection = some connection)
    (answered : close.apply store = (.ok (), after)) :
    after.driver.connection = none ∧ after.driver.inTransaction = false ∧
      (∀ path, (after.host.disk.volume (.file path)).content =
        (store.host.disk.volume (.file path)).content) ∧
      (after.host.disk.volume connection.location).hold? connection.number = none := by
  obtain ⟨left, before, kept, -, located, numbered, flag, rfl, contents⟩ :=
    close_kept inStep opened answered
  have given : before.called.disconnected =
      { driver := { before.driver with connection := none }
        host := { before.called.host with
          disk := Access.close ⟨left, before.host.disk⟩ } } := by
    simp only [Store.disconnected, Store.called, kept]
  rw [given]
  refine ⟨rfl, flag, fun path => ?_, ?_⟩
  · exact (Access.close_content ⟨left, before.host.disk⟩ path).trans (contents (.file path))
  · rw [← located, ← numbered]
    exact Access.close_hold ⟨left, before.host.disk⟩

/-! ### What is refused -/

/-- A second transaction is refused exactly where the engine has one open. -/
theorem begin_refused_iff {store : Store} (inStep : store.InStep) :
    (begin.apply store).1 = .error .alreadyInTransaction ↔
      store.driver.engineInTransaction = true := by
  rw [← show store.driver.inTransaction = _ from inStep]
  cases opened : store.driver.connection with
  | none =>
    have down : store.driver.inTransaction = false := by
      rw [show store.driver.inTransaction = _ from inStep]
      simp [Driver.engineInTransaction, opened]
    rw [begin_closed opened, down]
    simp [notConnected]
  | some connection =>
    cases flag : store.driver.inTransaction with
    | true => simp [begin_flagged opened flag]
    | false =>
      rw [begin_unflagged opened flag]
      rcases answering_cases (.begin .deferred) opened with
        ⟨outage, -, asked⟩ | ⟨execution, -, asked⟩
      · simp [asked]
      · rw [asked]
        cases ((⟨connection, store.host.disk⟩ : Access).run (.begin .deferred)).answer <;>
          simp [Except.mapError]

/-- There is nothing to end exactly where the driver is open and the engine is idle. -/
theorem ending_refused_iff {store : Store} (statement : Sql.Statement Stored)
    (inStep : store.InStep) :
    ((ending statement).apply store).1 = .error .notInTransaction ↔
      store.driver.isConnected = true ∧ store.driver.engineInTransaction = false := by
  rw [← show store.driver.inTransaction = _ from inStep]
  cases opened : store.driver.connection with
  | none =>
    rw [ending_closed statement opened]
    simp [notConnected, Driver.isConnected, opened]
  | some connection =>
    cases flag : store.driver.inTransaction with
    | false => simp [ending_unflagged statement opened flag, Driver.isConnected, opened]
    | true =>
      obtain ⟨left, -, ran⟩ := ending_flagged statement opened flag
      rw [ran]
      rcases answering_cases statement opened with ⟨outage, -, asked⟩ | ⟨execution, -, asked⟩
      · simp [asked, Except.map]
      · rw [asked]
        cases ((⟨connection, store.host.disk⟩ : Access).run statement).answer <;>
          simp [Except.mapError, Except.map]

end Operation

/-- In every state that a run of a new driver reaches, a closed driver takes no transaction to
be open, and an open one takes one to be open exactly when the engine has one. What it refuses
is therefore what the engine's own state calls for, and a close that succeeds leaves the
driver closed, everything committed as it was, and nothing held.

Proof: every step of a run leaves the driver in step, by induction on the run; what is refused then
depends on the flag alone, and so on the engine. -/
theorem transaction_flag_tells_the_engine {config : Config} {driver : Driver} {host : Host}
    {store : Store} (made : Driver.new config = .ok driver)
    (run : Store.Run ⟨driver, host⟩ store) :
    (store.driver.connection = none → store.driver.inTransaction = false) ∧
    (∀ connection, store.driver.connection = some connection →
      (store.driver.inTransaction = true ↔ connection.transaction.isSome)) ∧
    ((Operation.begin.apply store).1 = .error .alreadyInTransaction ↔
      ∃ connection, store.driver.connection = some connection ∧
        connection.transaction.isSome) ∧
    ((Operation.commit.apply store).1 = .error .notInTransaction ↔
      ∃ connection, store.driver.connection = some connection ∧
        connection.transaction = none) ∧
    ((Operation.rollback.apply store).1 = .error .notInTransaction ↔
      ∃ connection, store.driver.connection = some connection ∧
        connection.transaction = none) ∧
    (∀ connection after, store.driver.connection = some connection →
      Operation.close.apply store = (.ok (), after) →
        after.driver.connection = none ∧ after.driver.inTransaction = false ∧
        (∀ path, (after.host.disk.volume (.file path)).content =
          (store.host.disk.volume (.file path)).content) ∧
        (after.host.disk.volume connection.location).hold? connection.number = none) := by
  have inStep : store.InStep := run.in_step (Driver.new_in_step made)
  have same : store.driver.inTransaction = store.driver.engineInTransaction := inStep
  have busy : store.driver.engineInTransaction = true ↔
      ∃ connection, store.driver.connection = some connection ∧
        connection.transaction.isSome := by
    simp only [Driver.engineInTransaction, Connection.isIdle, Option.any_eq_true]
    simp
  have idle : store.driver.isConnected = true ∧ store.driver.engineInTransaction = false ↔
      ∃ connection, store.driver.connection = some connection ∧
        connection.transaction = none := by
    cases opened : store.driver.connection <;>
      simp [Driver.isConnected, Driver.engineInTransaction, Connection.isIdle, opened]
  refine ⟨?_, ?_, ?_, ?_, ?_, ?_⟩
  · intro closed
    simp [same, Driver.engineInTransaction, closed]
  · intro connection opened
    rw [same, busy]
    simp [opened]
  · exact (Operation.begin_refused_iff inStep).trans busy
  · exact (Operation.ending_refused_iff .commit inStep).trans idle
  · exact (Operation.ending_refused_iff .rollback inStep).trans idle
  · exact fun connection after opened answered =>
      Operation.close_leaves inStep opened answered

/-- A commit that an outage keeps from being answered can leave its transaction open. The
driver knows that it did, and refuses to begin another one. -/
theorem transaction_flag_tells_the_engine_struck :
    let struck : Store := ⟨{ config := {} }, { outages := [none, none, some ⟨.locked, false⟩] }⟩
    let store := (Operation.commit.apply
      (Operation.begin.apply (Operation.connect.apply struck).2).2).2
    Driver.new {} = .ok struck.driver ∧ struck.Run store ∧
      (Operation.begin.apply store).1 = .error .alreadyInTransaction := by
  intro struck store
  have made : Driver.new {} = .ok struck.driver := rfl
  have run : struck.Run store := .commit (.begin (.connect (.start struck)))
  have opened : ∃ connection, store.driver.connection = some connection ∧
      connection.transaction.isSome := ⟨_, rfl, rfl⟩
  exact ⟨made, run, (transaction_flag_tells_the_engine made run).2.2.1.mpr opened⟩

end RecordStore
