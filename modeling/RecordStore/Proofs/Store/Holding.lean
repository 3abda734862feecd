import RecordStore.Proofs.Engine.Holds
import RecordStore.Proofs.Store.FailedCreation
import RecordStore.Proofs.Store.Runs

/-!
# What a driver holds

A driver takes connections and gives them back. Whatever it does in between, of all connections that
it has taken nothing is left anywhere but what the one that it has at the time keeps at its place:
the holds on its volume, and its memory if it works over memory. When it has given that one back,
nothing of it is left at all.
-/

namespace RecordStore

open Engine

namespace Engine

/-! ### What is there of a connection -/

/-- Whether there is anything of the connection of a number at a location: a hold, or memory of its
own. -/
def Disk.HasOf (disk : Disk) (number : Nat) (location : Location) : Prop :=
  (disk.volume location).hold? number ≠ none ∨
    location = .memory number ∧ disk.volume location ≠ {}

/-- Memory over which a connection works is its own. -/
def Connection.OwnsMemory (connection : Connection) : Prop :=
  ∀ owner, connection.location = .memory owner → owner = connection.number

/-- What there is of a number at a location depends on the volume there alone. -/
theorem Disk.has_of_congr {left right : Disk} {number : Nat} {location : Location}
    (same : left.volume location = right.volume location) :
    left.HasOf number location ↔ right.HasOf number location := by
  rw [HasOf, HasOf, same]

/-- A new connection finds every volume as it was. -/
theorem Disk.connect_ok {disk : Disk} {path : Option String} {access : Access}
    (connected : disk.connect path = .ok access) :
    access.connection.number = disk.connections ∧ access.connection.OwnsMemory ∧
      access.connection.transaction = none ∧
      ∀ location, access.disk.volume location = disk.volume location := by
  unfold Disk.connect at connected
  simp only at connected
  have inMemory : ∀ owner, Location.memory disk.connections = .memory owner →
      owner = disk.connections := by
    rintro owner ⟨⟩
    rfl
  split at connected
  · cases connected
    exact ⟨rfl, inMemory, rfl, fun _ => rfl⟩
  · rename_i path
    split at connected
    · cases connected
      exact ⟨rfl, inMemory, rfl, fun _ => rfl⟩
    · split at connected <;> cases connected
      refine ⟨rfl, nofun, rfl, fun location => ?_⟩
      by_cases here : location = .file path
      · rw [here, Disk.volume_put]
      · exact Disk.volume_put_of_ne _ _ here

namespace Access

variable {access after : Access} {number : Nat} {location : Location}

/-- What a connection that keeps to itself adds is its own, and at its place. -/
theorem KeepsToItself.has_of (kept : access.KeepsToItself after)
    (owns : access.connection.OwnsMemory) (has : after.disk.HasOf number location) :
    access.disk.HasOf number location ∨
      number = access.number ∧ location = access.connection.location := by
  by_cases here : location = access.connection.location
  · by_cases own : number = access.number
    · exact .inr ⟨own, here⟩
    · left
      rcases has with held | ⟨memory, -⟩
      · refine .inl ?_
        have same := kept.others number own
        rw [Access.volume, Access.volume, kept.location, ← here] at same
        rwa [same] at held
      · exact absurd (owns number (here ▸ memory)) own
  · exact .inl ((Disk.has_of_congr (kept.elsewhere location here)).mp has)

/-- Closing a connection adds nothing, and leaves nothing of it where it was. -/
theorem close_has_of (owns : access.connection.OwnsMemory)
    (has : access.close.HasOf number location) :
    access.disk.HasOf number location ∧
      ¬ (number = access.number ∧ location = access.connection.location) := by
  cases located : access.connection.location with
  | file path =>
    have closed : access.close = access.ended.disk := by simp only [close, located]
    have released := access.close_hold
    rw [closed] at has released
    have gone : ¬ (number = access.number ∧ location = .file path) := by
      rintro ⟨rfl, rfl⟩
      rcases has with held | ⟨memory, -⟩
      · rw [located] at released
        exact held released
      · cases memory
    refine ⟨?_, gone⟩
    rcases (KeepsToItself.ended access).has_of owns has with before | ⟨own, here⟩
    · exact before
    · exact absurd ⟨own, here.trans located⟩ gone
  | memory owner =>
    have closed : access.close = access.disk.remove (.memory owner) := by
      simp only [close, located]
    rw [closed] at has
    have away : location ≠ .memory owner := by
      rintro rfl
      rw [Disk.HasOf, Disk.volume_remove] at has
      rcases has with held | ⟨-, filled⟩
      · exact held rfl
      · exact filled rfl
    exact ⟨(Disk.has_of_congr (Disk.volume_remove_of_ne _ away)).mp has, fun here => away here.2⟩

end Access

end Engine

/-! ### Drivers that hold nothing but their connection -/

/-- Of the connections of some numbers there is nothing but what the one that the driver has keeps
at its place, and that one is among them. -/
structure Store.HoldsItsOwn (ours : Nat → Prop) (store : Store) : Prop where
  taken : ∀ connection, store.driver.connection = some connection →
    ours connection.number ∧ connection.OwnsMemory
  nothingElse : ∀ number location, ours number → store.host.disk.HasOf number location →
    ∃ connection, store.driver.connection = some connection ∧
      connection.number = number ∧ connection.location = location

namespace Store.HoldsItsOwn

variable {ours : Nat → Prop} {store : Store}

/-- A store holds its own after a connection that keeps to itself was used. -/
theorem used {connection : Connection} {access : Access} {execution : Execution}
    (held : store.HoldsItsOwn ours) (opened : store.driver.connection = some connection)
    (kept : Access.KeepsToItself ⟨connection, store.host.disk⟩ access) :
    (store.used access execution).HoldsItsOwn ours := by
  obtain ⟨among, owns⟩ := held.taken connection opened
  have number : access.connection.number = connection.number := kept.number
  refine ⟨?_, fun number' location own has => ⟨access.connection, rfl, ?_⟩⟩
  · rintro _ ⟨⟩
    refine ⟨number ▸ among, fun owner located => ?_⟩
    rw [kept.location] at located
    exact (owns owner located).trans number.symm
  · rw [number, kept.location]
    rcases kept.has_of owns has with before | ⟨rfl, rfl⟩
    · obtain ⟨_, opened', same⟩ := held.nothingElse number' location own before
      cases opened.symm.trans opened'
      exact same
    · exact ⟨rfl, rfl⟩

/-- A driver that has given its connection back holds nothing. -/
theorem disconnected (held : store.HoldsItsOwn ours) :
    ∀ number location, ours number →
      ¬ store.disconnected.host.disk.HasOf number location := by
  intro number location own has
  unfold Store.disconnected at has
  cases opened : store.driver.connection with
  | none =>
    rw [opened] at has
    obtain ⟨_, taken, -⟩ := held.nothingElse number location own has
    cases opened.symm.trans taken
  | some connection =>
    simp only [opened] at has
    obtain ⟨before, gone⟩ := Access.close_has_of (held.taken connection opened).2 has
    obtain ⟨_, taken, rfl, rfl⟩ := held.nothingElse number location own before
    cases opened.symm.trans taken
    exact gone ⟨rfl, rfl⟩

/-- A store that is disconnected holds nothing. -/
theorem disconnected_holds (held : store.HoldsItsOwn ours) :
    store.disconnected.HoldsItsOwn ours := by
  refine ⟨?_, fun number location own has => (held.disconnected number location own has).elim⟩
  unfold Store.disconnected
  cases opened : store.driver.connection with
  | none => exact fun connection taken => by cases opened.symm.trans taken
  | some connection => exact nofun

end Store.HoldsItsOwn

namespace Operation

variable {ours : Nat → Prop} {α : Type}

/-- A call holds nothing but what the connection takes that makes it. -/
theorem on_connection_holds (statement : String) (isEnd : Bool) (act : Access → Outcome α)
    (keeps : ∀ access : Access, access.KeepsToItself (act access).access) :
    Keeps (Store.HoldsItsOwn ours) (onConnection statement isEnd act) := by
  intro store held
  rcases on_connection_cases statement isEnd act store with ⟨-, ran⟩ | ⟨connection, opened,
    ⟨outage, -, ran⟩ | ⟨execution, -, ran⟩⟩
  · rw [ran]
    exact held
  · rw [ran]
    exact held.used opened (.struck _ outage isEnd)
  · rw [ran]
    exact held.used opened (keeps _)

/-- Answering a query leaves a store that holds its own. -/
theorem answering_holds (statement : Sql.Statement Stored) :
    Keeps (Store.HoldsItsOwn ours) (answering statement) :=
  on_connection_holds _ _ _ fun access => .run access statement

/-- So does executing a change. -/
theorem executing_holds (statement : Sql.Statement Stored) :
    Keeps (Store.HoldsItsOwn ours) (executing statement) :=
  on_connection_holds _ _ _ fun access => by simpa using .run access statement

/-- So does answering the text of a caller. -/
theorem answering_text_holds (text : String) (parameters : List Stored) :
    Keeps (Store.HoldsItsOwn ours) (answeringText text parameters) :=
  on_connection_holds _ _ _ fun access => .run_text access text parameters

/-- So does executing it. -/
theorem executing_text_holds (text : String) (parameters : List Stored) :
    Keeps (Store.HoldsItsOwn ours) (executingText text parameters) :=
  on_connection_holds _ _ _ fun access => by simpa using .run_text access text parameters

/-- The flag is no matter of holds. -/
theorem flagging_holds (flag : Bool) :
    Keeps (Store.HoldsItsOwn ours) (of fun store => (.ok (), store.flagged flag)) :=
  fun _ held => ⟨held.taken, held.nothingElse⟩

/-! ### Transactions and connections -/

/-- A store holds its own when a transaction begins. -/
theorem begin_holds : Keeps (Store.HoldsItsOwn ours) begin :=
  .bind .require_connection fun _ => .bind .require_no_transaction fun _ =>
    .bind (answering_holds _) fun _ => flagging_holds true

/-- Reading whether one is open leaves what is held. -/
theorem sync_transaction_holds : Keeps (Store.HoldsItsOwn ours) syncTransaction := by
  intro store held
  simp only [syncTransaction, apply_of]
  split
  · exact held
  · exact ⟨held.taken, held.nothingElse⟩

/-- A store holds its own when a transaction ends, however that goes. -/
theorem ending_holds (statement : Sql.Statement Stored) :
    Keeps (Store.HoldsItsOwn ours) (ending statement) :=
  .bind .require_connection fun _ => .bind .require_transaction fun _ =>
    .bind (.attempt (answering_holds statement)) fun result =>
      .bind sync_transaction_holds fun _ => .bind (.of_except result) fun _ => .pure _

/-- So it does behind a rollback that may fail. -/
theorem try_rollback_holds : Keeps (Store.HoldsItsOwn ours) tryRollback := by
  intro store held
  simp only [tryRollback, apply_of]
  split
  · exact ending_holds .rollback store held
  · exact held

/-- Disconnecting gives up what was held. -/
theorem disconnect_holds : Keeps (Store.HoldsItsOwn ours) disconnect := by
  intro store held
  have called : store.called.HoldsItsOwn ours := ⟨held.taken, held.nothingElse⟩
  simp only [disconnect, apply_of]
  split
  · exact called
  · exact called.disconnected_holds

/-- So does closing. -/
theorem close_holds : Keeps (Store.HoldsItsOwn ours) close := by
  refine .bind .require_connection fun _ => .bind .get fun store => ?_
  split
  · exact .bind (ending_holds .rollback) fun _ => disconnect_holds
  · exact disconnect_holds

/-- A new connection is one that the driver holds, if its number is among them. -/
theorem connect_holds {store : Store} (held : store.HoldsItsOwn ours)
    (taken : ours store.host.disk.connections) :
    (connect.apply store).2.HoldsItsOwn ours := by
  have called : store.called.HoldsItsOwn ours := ⟨held.taken, held.nothingElse⟩
  simp only [connect, apply_of]
  split
  · exact held
  · rename_i closed
    split
    · exact called
    · split
      · exact called
      · rename_i access connected
        obtain ⟨number, owns, -, volumes⟩ := Disk.connect_ok connected
        refine ⟨?_, fun number' location own has => ?_⟩
        · rintro _ ⟨⟩
          exact ⟨number ▸ taken, owns⟩
        · have before := (Disk.has_of_congr (volumes location)).mp has
          obtain ⟨connection, opened, -⟩ := held.nothingElse number' location own before
          simp [Driver.isConnected, opened] at closed

/-- Work done in one transaction holds its own if the work does. -/
theorem atomically_holds {operation : Operation α}
    (kept : Keeps (Store.HoldsItsOwn ours) operation) :
    Keeps (Store.HoldsItsOwn ours) (atomically operation) := by
  refine .bind .get fun store => ?_
  split
  · exact kept
  · refine .bind begin_holds fun _ => .bind (.attempt kept) fun result => ?_
    cases result with
    | ok answer => exact .bind (ending_holds .commit) fun _ => .pure answer
    | error problem => exact .bind try_rollback_holds fun _ => .throw problem

/-! ### Tables -/

/-- A statement that creates something holds its own. -/
theorem creating_holds (table : Table) (statement : Sql.Statement Stored) :
    Keeps (Store.HoldsItsOwn ours) (creating table statement) := by
  unfold creating
  split
  · exact executing_holds statement
  · exact executing_text_holds _ _

/-- Creating a table holds its own. -/
theorem create_table_holds (table : Table) :
    Keeps (Store.HoldsItsOwn ours) (createTable table) :=
  atomically_holds (.for_m _ fun statement _ =>
    .bind (creating_holds table statement) fun _ => .pure _)

/-- Asking for a table holds its own. -/
theorem table_exists_holds (name : String) :
    Keeps (Store.HoldsItsOwn ours) (tableExists name) :=
  .bind (answering_text_holds _ _) fun _ => .pure _

/-- Creating a schema keeps what the work of the caller keeps that fills it. -/
theorem create_database_holds (schema : Schema) (initializer : Operation Unit) {store : Store}
    (held : store.HoldsItsOwn ours)
    (initialized : ∀ created, (begin >>= fun _ => createTables schema).apply store =
      (.ok (), created) → created.HoldsItsOwn ours →
        (initializer.apply created).2.HoldsItsOwn ours) :
    (Operation.apply (createDatabase schema initializer) store).2.HoldsItsOwn ours := by
  unfold createDatabase
  refine bind_keeps (begin_holds store held) fun _ opened began kept => ?_
  refine bind_keeps ?_ fun result worked _ keptWork => ?_
  · have tables : Keeps (Store.HoldsItsOwn ours) (createTables schema) :=
      .for_m _ fun table _ => create_table_holds table
    change ((createTables schema >>= fun _ => initializer).apply opened).2.HoldsItsOwn ours
    refine bind_keeps (tables opened kept) fun _ created made keptTables => ?_
    refine initialized created ?_ keptTables
    rw [apply_bind, show begin.apply store = _ from began]
    exact made
  · cases result with
    | ok answer => exact ending_holds .commit worked keptWork
    | error problem =>
      exact Keeps.bind try_rollback_holds (fun _ => .throw problem) worked keptWork

/-! ### Entities and statements of the caller's own -/

variable {model : Model}

/-- A removal holds its own. -/
theorem remove_holds (handle : Handle model) (key : Key) :
    Keeps (Store.HoldsItsOwn ours) (remove handle key) :=
  .bind (.of_except _) fun _ => .bind (.of_except _) fun _ => executing_holds _

/-- A query of the caller's holds its own. -/
theorem query_holds (text : String) (parameters : List Value) :
    Keeps (Store.HoldsItsOwn ours) (query text parameters) :=
  .bind (answering_text_holds _ _) fun _ => .pure _

/-- A statement of the caller's holds its own. -/
theorem execute_holds (text : String) (parameters : List Value) :
    Keeps (Store.HoldsItsOwn ours) (execute text parameters) :=
  .bind (.attempt (executing_text_holds _ _)) fun result =>
    .bind sync_transaction_holds fun _ => .of_except result

end Operation

namespace Store

variable {ours : Nat → Prop} {store : Store} {model : Model}

/-- The count of the generators is no matter of holds. -/
theorem HoldsItsOwn.with_count (held : store.HoldsItsOwn ours) (count : Nat) :
    (store.withCount count).HoldsItsOwn ours := ⟨held.taken, held.nothingElse⟩

/-- An addition holds its own. -/
theorem add_holds (handle : Handle model) (entity : Entity model)
    (held : store.HoldsItsOwn ours) : (store.add handle entity).2.HoldsItsOwn ours :=
  add_ends_in (held.with_count _) fun _ _ => Operation.executing_holds _ _ (held.with_count _)

/-- An update holds its own. -/
theorem update_holds (handle : Handle model) (entity : Entity model)
    (held : store.HoldsItsOwn ours) : (store.update handle entity).2.HoldsItsOwn ours :=
  update_ends_in held (held.with_count _) fun criteria _ _ _ =>
    Operation.overwrite_keeps criteria (fun _ => Operation.executing_holds _) _ (held.with_count _)

end Store

end RecordStore
