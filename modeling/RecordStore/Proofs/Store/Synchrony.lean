import RecordStore.Proofs.Engine.Transactions
import RecordStore.Proofs.Store.Mutations

/-!
# The transaction flag and the engine

A driver remembers whether it takes a transaction to be open, and the engine knows whether
one is. The two are in step when they say the same; a closed driver has no engine to ask, so
it is in step when its flag is down.

Every operation keeps a driver in step with the engine, whatever the engine answers and
whatever outage strikes. A run is any sequence of operations, on a host that others may change
in between; an initializer is itself such a run. The one thing that is asked of the engine is
that an insertion which fails does not take the whole transaction back.
-/

namespace RecordStore

open Engine

/-- Whether the engine has a transaction open on the connection of a driver. -/
def Driver.engineInTransaction (driver : Driver) : Bool :=
  driver.connection.any fun connection => !connection.isIdle

/-- The flag of a driver says what the engine says. -/
def Driver.InStep (driver : Driver) : Prop := driver.inTransaction = driver.engineInTransaction

namespace Store

/-- The driver of a store is in step with its engine. -/
def InStep (store : Store) : Prop := store.driver.InStep

/-- Behind a use the engine has a transaction open exactly if the access is not idle. -/
theorem used_engine_in_transaction (store : Store) (access : Access) (execution : Execution) :
    (store.used access execution).driver.engineInTransaction = !access.connection.isIdle := rfl

/-- A call that leaves the connection as idle as it was leaves the driver in step. -/
theorem used_in_step {store : Store} {connection : Connection} {access : Access}
    {execution : Execution} (opened : store.driver.connection = some connection)
    (kept : access.connection.isIdle = connection.isIdle) (inStep : store.InStep) :
    (store.used access execution).InStep := by
  change store.driver.inTransaction = !access.connection.isIdle
  rw [kept, inStep]
  simp [Driver.engineInTransaction, opened]

end Store

namespace Operation

variable {α : Type}

/-- A call that never changes whether the connection is idle keeps the driver in step, also
when an outage strikes it. -/
theorem on_connection_in_step (statement : String) (act : Access → Outcome α)
    (steady : ∀ access, (act access).access.connection.isIdle = access.connection.isIdle) :
    Keeps Store.InStep (onConnection statement false act) := by
  intro store inStep
  rcases on_connection_cases statement false act store with ⟨-, ran⟩ | ⟨connection, opened,
    ⟨outage, -, ran⟩ | ⟨execution, -, ran⟩⟩
  · rw [ran]
    exact inStep
  · rw [ran]
    exact Store.used_in_step opened rfl inStep
  · rw [ran]
    exact Store.used_in_step opened (steady _) inStep

/-- A query leaves the driver in step. -/
theorem query_in_step (query : Sql.Select Stored) :
    Keeps Store.InStep (answering (.select query)) :=
  on_connection_in_step _ _ fun access => access.run_of_select_is_idle query

/-! ### Transactions -/

/-- Beginning a transaction leaves the driver in step. -/
theorem begin_in_step : Keeps Store.InStep begin := by
  intro store inStep
  cases opened : store.driver.connection with
  | none =>
    rw [begin_closed opened]
    exact inStep
  | some connection =>
    cases flag : store.driver.inTransaction with
    | true =>
      rw [begin_flagged opened flag]
      exact inStep
    | false =>
      rw [begin_unflagged opened flag]
      have idle : connection.isIdle = true := by
        have same : store.driver.inTransaction = _ := inStep
        simpa [flag, Driver.engineInTransaction, opened] using same
      have answered := (⟨connection, store.host.disk⟩ : Access).run_begin_idle idle
      rcases answering_cases (.begin .deferred) opened with ⟨outage, -, ran⟩ | ⟨execution, -, ran⟩
      · rw [ran]
        exact Store.used_in_step opened rfl inStep
      · rw [ran, answered.1]
        change true = !_
        rw [answered.2]
        rfl

/-- After the end of a transaction was tried the flag is what the engine says. -/
theorem ending_in_step (statement : Sql.Statement Stored) :
    Keeps Store.InStep (ending statement) := by
  intro store inStep
  cases opened : store.driver.connection with
  | none =>
    rw [ending_closed statement opened]
    exact inStep
  | some connection =>
    cases flag : store.driver.inTransaction with
    | false =>
      rw [ending_unflagged statement opened flag]
      exact inStep
    | true =>
      obtain ⟨left, kept, ran⟩ := ending_flagged statement opened flag
      rw [ran]
      change (!left.isIdle) = Driver.engineInTransaction _
      simp [Driver.engineInTransaction, Store.flagged, kept]

/-- So does a rollback that may fail. -/
theorem try_rollback_in_step : Keeps Store.InStep tryRollback := by
  intro store inStep
  simp only [tryRollback, apply_of]
  split
  · exact ending_in_step .rollback store inStep
  · exact inStep

/-- A rollback that is answered leaves nothing open. -/
theorem rollback_ok {store after : Store} (answered : rollback.apply store = (.ok (), after)) :
    after.driver.inTransaction = false ∧ after.driver.engineInTransaction = false := by
  obtain ⟨connection, -, -, -, -, execution, rfl⟩ := ending_answered answered
  have idle := (⟨connection, store.host.disk⟩ : Access).run_rollback_is_idle
  simp [Store.flagged, Store.used, Driver.engineInTransaction, idle]

/-! ### Connections -/

/-- So does connecting. -/
theorem connect_in_step : Keeps Store.InStep connect := by
  intro store inStep
  simp only [connect, apply_of]
  split
  · exact inStep
  · split
    · exact inStep
    · split
      · exact inStep
      · rename_i access connected
        change false = !access.connection.isIdle
        rw [Disk.connect_is_idle connected]
        rfl

/-- A driver gives its connection back with the flag down. -/
theorem disconnect_in_step {store : Store} (inStep : store.InStep)
    (flag : store.driver.inTransaction = false) : (disconnect.apply store).2.InStep := by
  simp only [disconnect, apply_of]
  split
  · exact inStep
  · change (store.called.disconnected).driver.inTransaction = _
    unfold Store.disconnected
    split
    · exact inStep
    · exact flag

/-- So does closing. -/
theorem close_in_step : Keeps Store.InStep close := by
  refine .bind .require_connection fun _ => ?_
  intro store inStep
  rw [apply_bind]
  simp only [apply_get]
  cases flag : store.driver.inTransaction with
  | false =>
    simp only [Bool.false_eq_true, if_false]
    exact disconnect_in_step inStep flag
  | true =>
    simp only [if_true]
    rw [apply_bind]
    rcases rolled : rollback.apply store with ⟨result, after⟩
    have kept : after.InStep := by
      have := ending_in_step .rollback store inStep
      rwa [show (ending .rollback).apply store = _ from rolled] at this
    cases result with
    | error problem => exact kept
    | ok answer => exact disconnect_in_step kept (rollback_ok rolled).1

/-! ### Statements -/

/-- A text of the caller's own can do anything to the transaction, but the flag follows. -/
theorem execute_in_step (text : String) (parameters : List Value) :
    Keeps Store.InStep (execute text parameters) := by
  intro store inStep
  unfold execute
  rw [apply_bind, apply_attempt]
  simp only
  cases opened : store.driver.connection with
  | none =>
    have refused : (executingText text (parameters.map Value.stored)).apply store =
        (.error notConnected, store) := by
      rcases on_connection_cases text (Access.textEndsTransaction text)
        (fun access => Access.counted (access.runText text (parameters.map Value.stored))) store
        with ⟨-, ran⟩ | ⟨_, opened', -⟩
      · exact ran
      · cases opened.symm.trans opened'
    rw [refused, apply_bind]
    simp only [syncTransaction, apply_of, opened]
    exact inStep
  | some connection =>
    obtain ⟨left, kept⟩ : ∃ left,
        ((executingText text (parameters.map Value.stored)).apply store).2.driver.connection
          = some left := on_connection_open _ _ _ opened
    rw [apply_bind, sync_transaction_open kept]
    change (!left.isIdle) = Driver.engineInTransaction _
    simp [Driver.engineInTransaction, Store.flagged, kept]

/-- So does a statement that leaves the engine's transaction. -/
theorem executing_in_step (statement : Sql.Statement Stored)
    (noEnd : statement.endsTransaction = false)
    (steady : ∀ access : Access,
      (access.run statement).access.connection.isIdle = access.connection.isIdle) :
    Keeps Store.InStep (executing statement) := by
  unfold executing
  rw [noEnd]
  exact on_connection_in_step _ _ fun access => by simpa using steady access

/-! ### Tables -/

/-- A text that starts with `CREATE ` starts with these characters. -/
theorem starts_creation {text : String} (start : ∃ tail, text = "CREATE " ++ tail) :
    ∃ rest, text = String.ofList ("CREATE ".toList ++ rest) := by
  obtain ⟨tail, rfl⟩ := start
  refine ⟨tail.toList, ?_⟩
  rw [← String.toList_inj]
  simp only [String.toList_append, String.toList_ofList]

/-- Each statement that creates a table is a creation, and its text starts with the word for
it. -/
theorem creation_render (table : Table) (statement : Sql.Statement Stored)
    (member : statement ∈ table.creationStatements) :
    statement.isCreation ∧
      ∃ rest, statement.render = String.ofList ("CREATE ".toList ++ rest) := by
  have ofTable : "CREATE TABLE " = "CREATE " ++ "TABLE " := by decide
  have ofFullText : "CREATE VIRTUAL TABLE " = "CREATE " ++ "VIRTUAL TABLE " := by decide
  have ofTrigger : "CREATE TRIGGER " = "CREATE " ++ "TRIGGER " := by decide
  rcases List.mem_cons.mp member with rfl | shadow
  · refine ⟨trivial, starts_creation ?_⟩
    unfold Sql.Statement.render Sql.TableDefinition.render
    rw [ofTable]
    simp only [String.append_assoc]
    exact ⟨_, rfl⟩
  · unfold Table.shadowStatements at shadow
    split at shadow
    · rcases List.mem_cons.mp shadow with rfl | trigger
      · refine ⟨trivial, starts_creation ?_⟩
        unfold Sql.Statement.render Sql.FullTextDefinition.render
        rw [ofFullText]
        simp only [String.append_assoc]
        exact ⟨_, rfl⟩
      · obtain ⟨definition, -, rfl⟩ := List.mem_map.mp trigger
        refine ⟨trivial, starts_creation ?_⟩
        unfold Sql.Statement.render Sql.TriggerDefinition.render
        rw [ofTrigger]
        simp only [String.append_assoc]
        exact ⟨_, rfl⟩
    · cases shadow

/-- A statement that creates something leaves the driver in step. -/
theorem creating_in_step (table : Table) (statement : Sql.Statement Stored)
    (member : statement ∈ table.creationStatements) :
    Keeps Store.InStep (creating table statement) := by
  obtain ⟨creates, rest, text⟩ := creation_render table statement member
  unfold creating
  split
  · exact executing_in_step statement (statement.is_creation_ends_transaction creates)
      fun access => access.run_creation_is_idle statement creates
  · unfold executingText
    rw [text, Access.text_ends_transaction_creation]
    exact on_connection_in_step _ _ fun access => by
      simpa using access.run_text_creation_is_idle rest []

/-- Work in a transaction of its own keeps the driver in step if the work does. -/
theorem atomically_in_step {operation : Operation α} (kept : Keeps Store.InStep operation) :
    Keeps Store.InStep (atomically operation) := by
  unfold atomically
  intro store inStep
  rw [apply_bind]
  simp only [apply_get]
  split
  · exact kept store inStep
  · refine Keeps.bind begin_in_step (fun _ => .bind (.attempt kept) fun result => ?_) store inStep
    cases result with
    | ok answer => exact .bind (ending_in_step .commit) fun _ => .pure answer
    | error problem => exact .bind try_rollback_in_step fun _ => .throw problem

/-- Creating a table leaves the driver in step. -/
theorem create_table_in_step (table : Table) : Keeps Store.InStep (createTable table) :=
  atomically_in_step (.for_m _ fun statement member =>
    .bind (creating_in_step table statement member) fun _ => .pure _)

/-- Creating the tables of a schema leaves the driver in step. -/
theorem create_tables_in_step (schema : Schema) : Keeps Store.InStep (createTables schema) :=
  .for_m _ fun table _ => create_table_in_step table

/-- Creating a whole schema keeps the driver in step if what the caller puts into the fresh
tables does. The work of the caller starts on the store that the creation left. -/
theorem create_database_in_step (schema : Schema) (initializer : Operation Unit) (store : Store)
    (inStep : store.InStep)
    (initialized : ∀ created, (begin >>= fun _ => createTables schema).apply store =
      (.ok (), created) → created.InStep → (initializer.apply created).2.InStep) :
    (Operation.apply (createDatabase schema initializer) store).2.InStep := by
  unfold createDatabase
  refine bind_keeps (begin_in_step store inStep) fun _ opened began kept => ?_
  refine bind_keeps ?_ fun result worked _ keptWork => ?_
  · refine bind_keeps (create_tables_in_step schema opened kept) fun _ created made keptTables => ?_
    refine initialized created ?_ keptTables
    rw [apply_bind, show begin.apply store = _ from began]
    exact made
  · cases result with
    | ok answer => exact ending_in_step .commit worked keptWork
    | error problem =>
      exact Keeps.bind try_rollback_in_step (fun _ => .throw problem) worked keptWork

/-! ### Entities -/

variable {model : Model}

/-- A removal leaves the driver in step. -/
theorem remove_in_step (handle : Handle model) (key : Key) :
    Keeps Store.InStep (remove handle key) :=
  .bind (.of_except _) fun _ => .bind (.of_except _) fun _ =>
    executing_in_step _ rfl fun access => access.run_of_change_is_idle _ nofun

/-- Writing a row over leaves the driver in step. -/
theorem overwrite_in_step (table : Table) (criteria : Criteria) (row : List (String × Stored)) :
    Keeps Store.InStep (Store.overwrite table criteria row) :=
  overwrite_keeps criteria fun _ =>
    executing_in_step _ rfl fun access => access.run_of_change_is_idle _ nofun

/-- Running a statement for its effect leaves the flag alone. -/
theorem executing_flag (statement : Sql.Statement Stored) (store : Store) :
    ((executing statement).apply store).2.driver.inTransaction = store.driver.inTransaction :=
  on_connection_flag _ _ _ store

/-- A change that is answered keeps the driver in step. -/
theorem changing_in_step {change : Sql.Change Stored} {store after : Store} {changed : Nat}
    (inStep : store.InStep)
    (ran : (executing (.change change)).apply store = (.ok changed, after)) : after.InStep := by
  obtain ⟨connection, opened, counted, execution, rfl⟩ := on_connection_ok ran
  obtain ⟨⟨answer, answered⟩, -⟩ := Access.counted_ok counted
  refine Store.used_in_step opened ?_ inStep
  rw [counted_access]
  exact Access.run_change_is_idle_of_ok _ change answer answered

end Operation

namespace Store

variable {model : Model}

/-- An update leaves the driver in step. -/
theorem update_in_step (handle : Handle model) (entity : Entity model) (store : Store)
    (inStep : store.InStep) : (store.update handle entity).2.InStep :=
  update_ends_in inStep inStep fun _ _ _ _ => Operation.overwrite_in_step _ _ _ _ inStep

/-- An addition keeps the driver in step when it succeeds, and otherwise when the engine keeps
its transaction through the failure. -/
theorem add_in_step (handle : Handle model) (entity : Entity model) (store : Store)
    (inStep : store.InStep)
    (kept : (store.add handle entity).1.outcome ≠ .ok () →
      (store.add handle entity).2.driver.engineInTransaction =
        store.driver.engineInTransaction) :
    (store.add handle entity).2.InStep := by
  have drafted : (store.withCount (entity.row handle.table false store.host.count).count).InStep :=
    inStep
  rcases store.add_cases handle entity with
    ⟨problem, -, ended⟩ | ⟨row, -, ⟨problem, after, refused, ended⟩ |
      ⟨count, after, inserted, ended⟩⟩
  · rw [ended]
    exact drafted
  · rw [ended] at kept ⊢
    have flag : after.driver.inTransaction = store.driver.inTransaction := by
      have left := Operation.executing_flag (.change (handle.table.insertion row))
        (store.withCount (entity.row handle.table false store.host.count).count)
      rwa [refused] at left
    change after.driver.inTransaction = after.driver.engineInTransaction
    rw [kept nofun, flag]
    exact inStep
  · rw [ended]
    exact Operation.changing_in_step drafted inserted

end Store

end RecordStore
