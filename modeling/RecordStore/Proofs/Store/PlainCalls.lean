import Mathlib.Logic.Relation
import RecordStore.Proofs.Store.CallerTexts
import RecordStore.Proofs.Store.OwnTransactions

/-!
# Calls inside of a transaction

Work that is done inside of a transaction of somebody else's consists of calls that are not
about transactions. Such a call commits nothing, and the transaction is open after it. The
exception is a text or an insertion that finds a table full: the engine then takes the
transaction back as a whole, nothing of it is left, and whatever is called next is no longer
inside of it.
-/

namespace RecordStore

open Engine

namespace Store

/-- A store in which a transaction was open over what is committed. If the engine still has it
open then the driver knows. -/
structure IsOver (base : Database) (store : Store) : Prop where
  connected : store.driver.isConnected = true
  committed : store.committed = base
  flagged : store.driver.engineInTransaction = true → store.driver.inTransaction = true

variable {base : Database} {store : Store}

/-- A store with a transaction open stands over what is committed. -/
theorem IsInside.is_over (inside : store.IsInside base) : store.IsOver base := by
  refine ⟨?_, inside.committed, fun _ => inside.flagged⟩
  cases opened : store.driver.connection with
  | none =>
    have busy := inside.busy
    simp [Driver.engineInTransaction, opened] at busy
  | some connection => simp [Driver.isConnected, opened]

/-- A store over what is committed has its transaction open if the engine has. -/
theorem IsOver.is_inside (above : store.IsOver base)
    (busy : store.driver.engineInTransaction = true) : store.IsInside base :=
  ⟨above.flagged busy, busy, above.committed⟩

/-- The connection of a store inside of a transaction. -/
theorem IsInside.connection (inside : store.IsInside base) :
    ∃ connection, store.driver.connection = some connection ∧ connection.isIdle = false ∧
      (⟨connection, store.host.disk⟩ : Access).volume.content = base := by
  obtain ⟨connection, opened⟩ := Option.isSome_iff_exists.mp inside.is_over.connected
  refine ⟨connection, opened, ?_, ?_⟩
  · simpa [Driver.engineInTransaction, opened] using inside.busy
  · rw [← committed_of_connection opened]
    exact inside.committed

end Store

namespace Operation

variable {α : Type} {base : Database} {store : Store}

/-! ### Single calls -/

/-- A call that commits nothing inside of a transaction leaves the flag up, and what was
committed. -/
theorem on_connection_is_over (statement : String) {act : Access → Outcome α}
    (commitsNothing : ∀ access : Access, access.connection.isIdle = false →
      (act access).access.volume.content = access.volume.content)
    (inside : store.IsInside base) :
    ((onConnection statement false act).apply store).2.IsOver base := by
  obtain ⟨connection, opened, busy, content⟩ := inside.connection
  rcases on_connection_cases statement false act store with ⟨closed, -⟩ | ⟨_, opened',
    ⟨outage, -, ran⟩ | ⟨execution, -, ran⟩⟩
  · cases closed.symm.trans opened
  · cases opened.symm.trans opened'
    rw [ran]
    exact ⟨rfl, content, fun _ => inside.flagged⟩
  · cases opened.symm.trans opened'
    rw [ran]
    exact ⟨rfl, (commitsNothing _ busy).trans content, fun _ => inside.flagged⟩

/-- If it also leaves the connection as idle as it was then the transaction is open after it. -/
theorem on_connection_is_inside (statement : String) {act : Access → Outcome α}
    (commitsNothing : ∀ access : Access, access.connection.isIdle = false →
      (act access).access.volume.content = access.volume.content)
    (steady : ∀ access : Access,
      (act access).access.connection.isIdle = access.connection.isIdle) :
    Keeps (Store.IsInside base) (onConnection statement false act) := by
  intro store inside
  refine (on_connection_is_over statement commitsNothing inside).is_inside ?_
  have kept := on_connection_in_step statement act steady store
    (inside.flagged.trans inside.busy.symm)
  exact (Eq.symm kept).trans ((on_connection_flag statement false act store).trans inside.flagged)

/-- A query leaves the transaction open. -/
theorem query_is_inside (query : Sql.Select Stored) :
    Keeps (Store.IsInside base) (answering (.select query)) :=
  on_connection_is_inside _ (fun _ busy => Access.run_plain_content rfl busy)
    fun access => access.run_of_select_is_idle query

/-- A text that does not control transactions commits nothing inside of one. -/
theorem answering_text_is_over {text : String} (parameters : List Stored)
    (plain : Sql.textControls text = false) (inside : store.IsInside base) :
    ((answeringText text parameters).apply store).2.IsOver base := by
  rw [answeringText, Sql.text_ends_transaction_of_plain plain]
  exact on_connection_is_over text (fun _ busy =>
    Access.run_text_plain_content parameters plain busy) inside

/-- A text of the caller's that is not about transactions leaves a store over what was committed. -/
theorem executing_text_is_over {text : String} (parameters : List Stored)
    (plain : Sql.textControls text = false) (inside : store.IsInside base) :
    ((executingText text parameters).apply store).2.IsOver base := by
  rw [executingText, Sql.text_ends_transaction_of_plain plain]
  refine on_connection_is_over text (fun access busy => ?_) inside
  rw [counted_access]
  exact Access.run_text_plain_content parameters plain busy

/-- So does a statement that is not about transactions. -/
theorem executing_is_over {statement : Sql.Statement Stored} (plain : statement.isControl = false)
    (inside : store.IsInside base) :
    ((executing statement).apply store).2.IsOver base := by
  rw [executing, Sql.Statement.ends_transaction_of_plain plain]
  refine on_connection_is_over _ (fun access busy => ?_) inside
  rw [counted_access]
  exact Access.run_plain_content plain busy

/-- A statement that leaves the engine's transaction leaves the transaction open on both sides. -/
theorem executing_is_inside {statement : Sql.Statement Stored}
    (plain : statement.isControl = false)
    (steady : ∀ access : Access,
      (access.run statement).access.connection.isIdle = access.connection.isIdle) :
    Keeps (Store.IsInside base) (executing statement) := by
  rw [executing, Sql.Statement.ends_transaction_of_plain plain]
  refine on_connection_is_inside _ (fun access busy => ?_) fun access => ?_
  · rw [counted_access]
    exact Access.run_plain_content plain busy
  · rw [counted_access]
    exact steady access

/-- The flag follows a text that is run for its effect. -/
theorem execute_is_over {text : String} (parameters : List Value)
    (plain : Sql.textControls text = false) (inside : store.IsInside base) :
    ((execute text parameters).apply store).2.IsOver base := by
  have above := executing_text_is_over (parameters.map Value.stored) plain inside
  obtain ⟨left, kept⟩ := Option.isSome_iff_exists.mp above.connected
  rw [execute, apply_bind, apply_attempt]
  simp only
  rw [apply_bind, sync_transaction_open kept]
  simp only
  rw [apply_of_except]
  refine ⟨above.connected, above.committed, fun busy => ?_⟩
  simpa [Driver.engineInTransaction, Store.flagged, kept] using busy

/-- Asking for a table leaves a store over what was committed. -/
theorem table_exists_is_over (name : String) (inside : store.IsInside base) :
    ((tableExists name).apply store).2.IsOver base := by
  have plain : Sql.textControls tableCountText = false := by decide +kernel
  have above := answering_text_is_over [.text name] plain inside
  rw [tableExists, apply_bind]
  rcases ran : (answeringText tableCountText [.text name]).apply store with ⟨problem | answer, left⟩
  · rwa [ran] at above
  · rwa [ran] at above

/-! ### Tables -/

/-- A creation leaves the transaction open, whatever the names in it make of its text. -/
theorem creating_is_inside (table : Table) (statement : Sql.Statement Stored)
    (among : statement ∈ table.creationStatements) :
    Keeps (Store.IsInside base) (creating table statement) := by
  obtain ⟨creates, rest, text⟩ := creation_render table statement among
  unfold creating
  split
  · exact executing_is_inside (Sql.Statement.is_control_of_is_creation creates)
      fun access => access.run_creation_is_idle statement creates
  · unfold executingText
    rw [text, Access.text_ends_transaction_creation]
    refine on_connection_is_inside _ (fun access busy => ?_) fun access => ?_
    · rw [counted_access]
      exact Access.run_text_plain_content [] (Sql.text_controls_creation rest) busy
    · rw [counted_access]
      exact access.run_text_creation_is_idle rest []

/-- Creating a table leaves the transaction open. -/
theorem create_table_is_inside (table : Table) :
    Keeps (Store.IsInside base) (createTable table) := by
  intro store inside
  rw [createTable, atomically_flagged inside.flagged]
  exact Keeps.for_m table.creationStatements
    (fun statement among => .bind (creating_is_inside table statement among) fun _ => .pure _)
    store inside

/-- A schema is not created inside of a transaction. -/
theorem create_database_flagged (schema : Schema) (initializer : Operation Unit)
    (connected : store.driver.isConnected = true) (flag : store.driver.inTransaction = true) :
    Operation.apply (createDatabase schema initializer) store =
      (.error .alreadyInTransaction, store) := by
  obtain ⟨connection, opened⟩ := Option.isSome_iff_exists.mp connected
  rw [create_database_in_own_transaction, apply_in_own_transaction, begin_flagged opened flag]

/-! ### Entities -/

variable {model : Model}

/-- An update or a deletion leaves the transaction open. -/
theorem changing_is_inside (change : Sql.Change Stored)
    (other : ∀ insertion, change ≠ .insert insertion) :
    Keeps (Store.IsInside base) (executing (.change change)) :=
  executing_is_inside rfl fun access => access.run_of_change_is_idle change other

/-- A removal leaves the transaction open. -/
theorem remove_is_inside (handle : Handle model) (key : Key) :
    Keeps (Store.IsInside base) (remove handle key) :=
  .bind (.of_except _) fun _ => .bind (.of_except _) fun _ => changing_is_inside _ nofun

/-- Writing a row over leaves the transaction open. -/
theorem overwrite_is_inside (table : Table) (criteria : Criteria) (row : List (String × Stored)) :
    Keeps (Store.IsInside base) (Store.overwrite table criteria row) :=
  overwrite_keeps criteria fun _ => changing_is_inside _ nofun

end Operation

namespace Store

variable {base : Database} {store : Store} {model : Model}

/-- The count of the generators is no matter of transactions. -/
theorem IsInside.with_count (inside : store.IsInside base) (count : Nat) :
    (store.withCount count).IsInside base := ⟨inside.flagged, inside.busy, inside.committed⟩

/-- An update leaves the transaction open. -/
theorem update_is_inside (handle : Handle model) (entity : Entity model)
    (inside : store.IsInside base) : (store.update handle entity).2.IsInside base :=
  update_ends_in inside (inside.with_count _) fun _ _ _ _ =>
    Operation.overwrite_is_inside _ _ _ _ (inside.with_count _)

/-- An addition can find its table full. -/
theorem add_is_over (handle : Handle model) (entity : Entity model)
    (inside : store.IsInside base) : (store.add handle entity).2.IsOver base :=
  add_ends_in (inside.with_count _).is_over fun row _ =>
    have plain : (Sql.Statement.change (handle.table.insertion row)).isControl = false := rfl
    Operation.executing_is_over plain (inside.with_count _)

/-- Calls that are not about transactions. -/
inductive PlainCall (store : Store) : Store → Prop where
  | execute (text : String) (parameters : List Value) (plain : Sql.textControls text = false) :
      PlainCall store ((Operation.execute text parameters).apply store).2
  | query (text : String) (parameters : List Value) (plain : Sql.textControls text = false) :
      PlainCall store ((Operation.query text parameters).apply store).2
  | connect : PlainCall store (Operation.connect.apply store).2
  | createTable (table : Table) : PlainCall store ((Operation.createTable table).apply store).2
  | createDatabase (schema : Schema) (initializer : Operation Unit) :
      PlainCall store
        (Operation.apply (Operation.createDatabase schema initializer) store).2
  | tableExists (name : String) : PlainCall store ((Operation.tableExists name).apply store).2
  | add {model : Model} (handle : Handle model) (entity : Entity model) :
      PlainCall store (store.add handle entity).2
  | update {model : Model} (handle : Handle model) (entity : Entity model) :
      PlainCall store (store.update handle entity).2
  | remove {model : Model} (handle : Handle model) (key : Key) :
      PlainCall store ((Operation.remove handle key).apply store).2
  | findOne {model : Model} (handle : Handle model) (key : Key) :
      PlainCall store ((Operation.findOne handle key).apply store).2
  | find {model : Model} (handle : Handle model) (request : Request) :
      PlainCall store ((Operation.find handle request).apply store).2
  | count {model : Model} (handle : Handle model) (request : Request) :
      PlainCall store ((Operation.count handle request).apply store).2
  | search {model : Model} (handle : Handle model) (request : Request) :
      PlainCall store ((Operation.search handle request).apply store).2
  /-- What others do on the host, as long as what is committed stays. -/
  | elsewhere (host : Host) (kept : ({ store with host } : Store).committed = store.committed) :
      PlainCall store { store with host }

/-- A call that is made inside of a transaction commits nothing, and if the engine still has the
transaction open then the driver knows. -/
theorem PlainCall.is_over {after : Store} (call : store.PlainCall after)
    (inside : store.IsInside base) : after.IsOver base := by
  have queries : ∀ query, Operation.Keeps (Store.IsInside base)
      (Operation.answering (.select query)) := Operation.query_is_inside
  cases call with
  | execute text parameters plain => exact Operation.execute_is_over parameters plain inside
  | query text parameters plain =>
    rw [Operation.apply_query]
    exact Operation.answering_text_is_over _ plain inside
  | connect =>
    have refused : Operation.connect.apply store = (.error .alreadyConnected, store) := by
      simp [Operation.connect, inside.is_over.connected]
    rw [refused]
    exact inside.is_over
  | createTable table => exact (Operation.create_table_is_inside table store inside).is_over
  | createDatabase schema initializer =>
    rw [Operation.create_database_flagged schema initializer inside.is_over.connected
      inside.flagged]
    exact inside.is_over
  | tableExists name => exact Operation.table_exists_is_over name inside
  | add handle entity => exact add_is_over handle entity inside
  | update handle entity => exact (update_is_inside handle entity inside).is_over
  | remove handle key => exact (Operation.remove_is_inside handle key store inside).is_over
  | findOne handle key => exact (Operation.find_one_keeps queries handle key store inside).is_over
  | find handle request => exact (Operation.find_keeps queries handle request store inside).is_over
  | count handle request =>
    exact (Operation.count_keeps queries handle request store inside).is_over
  | search handle request =>
    exact (Operation.search_keeps queries handle request store inside).is_over
  | elsewhere host kept =>
    exact ⟨inside.is_over.connected, kept.trans inside.committed, inside.is_over.flagged⟩

/-- Work that is done inside of a transaction: one call after the other, none of them about
transactions and none made after the engine has taken the transaction back. -/
def Works : Store → Store → Prop :=
  Relation.ReflTransGen fun store after =>
    store.driver.engineInTransaction = true ∧ store.PlainCall after

/-- Work leaves a store over what was committed, by induction on its calls. -/
theorem Works.is_over {last : Store} (works : store.Works last) (inside : store.IsInside base) :
    last.IsOver base := by
  induction works with
  | refl => exact inside.is_over
  | tail _ step above => exact step.2.is_over (above.is_inside step.1)

end Store

end RecordStore
