import RecordStore.Proofs.Store.Tables

/-!
# Transactions of an operation's own

Creating a table outside of a transaction, and creating a whole schema, both happen in a
transaction that is begun for them. It is committed when the work in it answers and rolled back
when the work fails. Four things can happen: it cannot be begun, it is committed, its end is
refused, or the work fails.

An end that is refused can leave the transaction open, and nobody ends it then. That is the one
way, beside an outage that strikes the rollback, in which a transaction outlives the operation
that began it.
-/

namespace RecordStore

open Engine

/-- A store whose driver and engine both have a transaction open, over what is committed. -/
structure Store.IsInside (base : Database) (store : Store) : Prop where
  flagged : store.driver.inTransaction = true
  busy : store.driver.engineInTransaction = true
  committed : store.committed = base

/-- In an idle store the engine has no transaction open. -/
theorem Store.IsIdle.engine {store : Store} (idle : store.IsIdle) :
    store.driver.engineInTransaction = false := by
  obtain ⟨connection, opened, isIdle⟩ := idle.idle
  simp [Driver.engineInTransaction, opened, isIdle]

/-- An idle store is in step. -/
theorem Store.IsIdle.in_step {store : Store} (idle : store.IsIdle) : store.InStep :=
  idle.unflagged.trans idle.engine.symm

/-- A commit leaves the transaction open only if others hold the volume, and then it is refused
for that. -/
theorem Engine.Access.run_commit_busy {access : Access}
    (busy : (access.run .commit).access.connection.isIdle = false) :
    access.volume.mayClose access.number = false ∧
      (access.run .commit).answer = .error .locked := by
  change (access.runCommit).access.connection.isIdle = false at busy
  change _ ∧ (access.runCommit).answer = .error .locked
  unfold Access.runCommit at busy ⊢
  split at busy
  · rename_i closed
    simp [Connection.isIdle, closed] at busy
  · unfold Access.conclude at busy ⊢
    split at busy
    · cases busy
    · simp only at busy ⊢
      have number : access.indexed.number = access.number := by
        unfold Access.indexed
        split
        · rfl
        · split <;> rfl
      rw [Access.indexed_volume, number] at busy ⊢
      split at busy
      · cases busy
      · rename_i held
        exact ⟨by simpa using held, by simp [held]⟩

namespace Operation

variable {α : Type}

/-- Outside of a transaction a table is made in one: first its relation, then what shadows it. -/
theorem create_table_answered {table : Table} {count : Nat}
    {store opened tabled shadowed after : Store} (unflagged : store.driver.inTransaction = false)
    (begins : begin.apply store = (.ok (), opened))
    (makes : (creating table (Sql.Statement.createTable table.definition)).apply opened =
      (.ok count, tabled))
    (shadows : (table.shadowStatements.forM fun statement => do
      let _ ← creating table statement).apply tabled = (.ok (), shadowed))
    (commits : commit.apply shadowed = (.ok (), after)) :
    (createTable table).apply store = (.ok (), after) := by
  have inside : (table.creationStatements.forM fun statement => do
      let _ ← creating table statement).apply opened = (.ok (), shadowed) := by
    rw [Table.creationStatements, List.forM_eq_forM, List.forM_cons, apply_bind, apply_bind, makes]
    exact shadows
  rw [createTable, atomically_unflagged unflagged, apply_in_own_transaction, begins]
  simp only [inside, commits]
  rfl

/-- The tables of a schema are made one after the other. -/
theorem create_tables_cons {table : Table} {rest : List Table} {store next : Store}
    (created : (createTable table).apply store = (.ok (), next)) :
    (createTables ⟨table :: rest⟩).apply store = (createTables ⟨rest⟩).apply next := by
  rw [createTables, List.forM_eq_forM, List.forM_cons, apply_bind, created]
  rfl

/-- Creating a schema is work in a transaction of its own. -/
theorem create_database_in_own_transaction (schema : Schema) (initializer : Operation Unit)
    (store : Store) :
    Operation.apply (createDatabase schema initializer) store =
      (inOwnTransaction (createTables schema >>= fun _ => initializer)).apply store := by
  rw [apply_in_own_transaction, createDatabase, apply_bind, apply_within]
  rcases begin.apply store with ⟨problem | ⟨⟩, opened⟩
  · rfl
  · simp only
    rw [apply_bind, apply_attempt]
    have work : ((createTables schema).within >>= fun _ => initializer : Operation Unit) =
        (createTables schema >>= fun _ => initializer) := rfl
    rw [work]
    rcases (createTables schema >>= fun _ => initializer).apply opened with ⟨problem | ⟨⟩, left⟩
    · rfl
    · simp only
      rw [apply_within]
      rcases commit.apply left with ⟨problem | ⟨⟩, final⟩ <;> rfl

/-! ### What ends of transactions leave open -/

/-- How the end of a transaction can be kept from ending it: an outage strikes it, or it is a
commit and others hold the volume. -/
inductive EndHindered (store : Store) (statement : Sql.Statement Stored) : Prop where
  | struck (outage : Outage) (strikes : store.host.outage? = some outage)
      (leaves : outage.ends = false)
  | held (connection : Connection) (opened : store.driver.connection = some connection)
      (commits : statement = .commit)
      (others : (Access.volume ⟨connection, store.host.disk⟩).mayClose connection.number = false)

/-- An end that leaves a transaction open is refused, and for one of these reasons. -/
theorem ending_hindered {store : Store} {statement : Sql.Statement Stored}
    (ends : statement = .commit ∨ statement = .rollback) (inStep : store.InStep)
    (busy : ((ending statement).apply store).2.driver.engineInTransaction = true) :
    EndHindered store statement ∧
      ∃ fault, ((ending statement).apply store).1 = .error (.engine fault statement.render) := by
  cases opened : store.driver.connection with
  | none =>
    rw [ending_closed _ opened] at busy
    simp [Driver.engineInTransaction, opened] at busy
  | some connection =>
    cases flag : store.driver.inTransaction with
    | false =>
      rw [ending_unflagged _ opened flag] at busy
      cases (Eq.symm flag).trans (Eq.trans inStep busy)
    | true =>
      obtain ⟨left, kept, ended⟩ := ending_flagged statement opened flag
      rw [ended] at busy ⊢
      have leftBusy : left.isIdle = false := by
        simpa [Driver.engineInTransaction, Store.flagged, kept] using busy
      rcases answering_cases statement opened with ⟨outage, strikes, asked⟩ | ⟨execution, -, asked⟩
      · rw [asked] at kept ⊢
        refine ⟨.struck outage strikes ?_, outage.fault, rfl⟩
        have isEnd : statement.endsTransaction = true := by rcases ends with rfl | rfl <;> rfl
        by_contra ended'
        simp only [Bool.not_eq_false] at ended'
        cases kept
        simp [Access.struck, isEnd, ended'] at leftBusy
      · rw [asked] at kept ⊢
        cases kept
        rcases ends with rfl | rfl
        · obtain ⟨others, refused⟩ := Access.run_commit_busy leftBusy
          rw [refused]
          exact ⟨.held connection opened rfl others, .locked, rfl⟩
        · cases leftBusy.symm.trans (Access.run_rollback_is_idle _)

/-- A driver in step whose engine has a transaction open rolls it back, unless an outage
strikes. -/
theorem rollback_undisturbed {store : Store} (inStep : store.InStep)
    (busy : store.driver.engineInTransaction = true) (quiet : store.host.outage? = none) :
    (rollback.apply store).1 = .ok () ∧ (rollback.apply store).2.IsIdle := by
  have flag : store.driver.inTransaction = true := inStep.trans busy
  cases opened : store.driver.connection with
  | none => simp [Driver.engineInTransaction, opened] at busy
  | some connection =>
    obtain ⟨left, kept, ended⟩ := ending_flagged .rollback opened flag
    rcases answering_cases .rollback opened with ⟨outage, strikes, -⟩ | ⟨execution, -, asked⟩
    · cases quiet.symm.trans strikes
    · have open' : ∃ transaction, connection.transaction = some transaction := by
        simpa [Driver.engineInTransaction, opened, Connection.isIdle, ← Option.isSome_iff_ne_none,
          Option.isSome_iff_exists] using busy
      obtain ⟨transaction, found⟩ := open'
      have rolled : ((⟨connection, store.host.disk⟩ : Access).run .rollback) =
          ⟨Access.ended ⟨connection, store.host.disk⟩, .ok default⟩ := by
        change Access.runRollback _ = _
        simp only [Access.runRollback, found]
      rw [asked, rolled] at kept ended
      cases kept
      rw [rollback, ended]
      exact ⟨rfl, rfl, _, rfl, rfl⟩

/-! ### Beginnings of transactions -/

/-- Beginning a transaction in an idle store fails and leaves it idle, or puts the store inside
of a transaction. Either way it shows what it showed. -/
theorem begin_idle {store : Store} (idle : store.IsIdle) :
    (∃ problem after, begin.apply store = (.error problem, after) ∧ after.IsIdle ∧
      after.committed = store.committed) ∨
    ∃ opened, begin.apply store = (.ok (), opened) ∧ opened.IsInside store.committed ∧
      opened.visible = store.visible := by
  obtain ⟨connection, opened, isIdle⟩ := idle.idle
  obtain ⟨begun, busy⟩ := (⟨connection, store.host.disk⟩ : Access).run_begin_idle isIdle
  have started := begin_unflagged opened idle.unflagged
  rcases answering_cases (.begin .deferred) opened with ⟨outage, -, ran⟩ | ⟨execution, -, ran⟩
  · rw [ran] at started
    refine .inl ⟨_, _, started, ⟨idle.unflagged, connection, rfl, isIdle⟩, ?_⟩
    rw [Store.used_committed, Store.committed_of_connection opened]
    rfl
  · rw [ran, begun] at started
    refine .inr ⟨_, started, ⟨rfl, ?_, ?_⟩, begin_visible idle started⟩
    · exact (Store.used_engine_in_transaction store _ execution).trans (by rw [busy]; rfl)
    · have shows' : store.Shows (· = store.committed) :=
        ⟨by simp [Driver.isConnected, opened], idle.visible_eq, rfl⟩
      have kept := begin_shows store shows'
      rw [started] at kept
      exact kept.2.2

/-- It is in step when a transaction was begun. -/
theorem begin_keeps_step {store opened : Store} (idle : store.IsIdle)
    (begun : begin.apply store = (.ok (), opened)) : opened.InStep := by
  have kept := begin_in_step store idle.in_step
  rwa [begun] at kept

/-- What work in a transaction of its own leaves of it, if the work keeps the driver in step. The
transaction is over, unless its end was hindered; a rollback would then end it. -/
structure LeavesOfItsOwn (store : Store) (operation : Operation Unit) : Prop where
  inStep : (operation.apply store).2.InStep
  answered : (operation.apply store).1 = .ok () → (operation.apply store).2.IsIdle
  hindered : (operation.apply store).2.driver.engineInTransaction = true →
    ∃ before statement, (statement = .commit ∨ statement = .rollback) ∧
      EndHindered before statement ∧
      ((ending statement).apply before).2 = (operation.apply store).2 ∧
      (statement = .commit → ∃ fault, (operation.apply store).1 =
        .error (.engine fault (Sql.Statement.commit : Sql.Statement Stored).render))
  undone : (operation.apply store).2.driver.engineInTransaction = true →
    (operation.apply store).2.host.outage? = none →
      (rollback.apply (operation.apply store).2).1 = .ok () ∧
        (rollback.apply (operation.apply store).2).2.IsIdle

/-- Operations that do the same leave the same. -/
theorem LeavesOfItsOwn.congr {store : Store} {operation other : Operation Unit}
    (leaves : LeavesOfItsOwn store other) (same : operation.apply store = other.apply store) :
    LeavesOfItsOwn store operation := by
  obtain ⟨inStep, answered, hindered, undone⟩ := leaves
  rw [← same] at inStep answered hindered undone
  exact ⟨inStep, answered, hindered, undone⟩

/-- Trying to roll back keeps a driver in step, and leaves a transaction open only if the rollback
was hindered. -/
theorem try_rollback_leaves {store : Store} (inStep : store.InStep) :
    (tryRollback.apply store).2.InStep ∧
      ((tryRollback.apply store).2.driver.engineInTransaction = true →
        EndHindered store .rollback ∧
          ((ending .rollback).apply store).2 = (tryRollback.apply store).2) := by
  cases flag : store.driver.inTransaction with
  | false =>
    have engineIdle : store.driver.engineInTransaction = false := Eq.trans inStep.symm flag
    rw [try_rollback_unflagged flag]
    exact ⟨inStep, fun busy => (by cases engineIdle.symm.trans busy)⟩
  | true =>
    rw [try_rollback_flagged flag]
    exact ⟨ending_in_step .rollback store inStep, fun busy =>
      ⟨(ending_hindered (.inr rfl) inStep busy).1, rfl⟩⟩

/-- A commit keeps a driver in step. It leaves no transaction if it answers, and leaves one open only
if it was hindered and then says so. -/
theorem commit_leaves {store : Store} (inStep : store.InStep) :
    (commit.apply store).2.InStep ∧
      ((commit.apply store).1 = .ok () → (commit.apply store).2.IsIdle) ∧
      ((commit.apply store).2.driver.engineInTransaction = true →
        EndHindered store .commit ∧ ∃ fault, (commit.apply store).1 =
          .error (.engine fault (Sql.Statement.commit : Sql.Statement Stored).render)) := by
  refine ⟨ending_in_step .commit store inStep, fun answered => ?_,
    fun busy => ending_hindered (.inl rfl) inStep busy⟩
  exact (commit_visible (Prod.ext answered rfl)).1

/-- Work in a transaction of its own leaves of it what it should, if it keeps the driver in step.
The cases are those of the work and of the end of the transaction. -/
theorem in_own_transaction_leaves {store : Store} (idle : store.IsIdle) {work : Operation Unit}
    (kept : ∀ opened, begin.apply store = (.ok (), opened) → (work.apply opened).2.InStep) :
    LeavesOfItsOwn store (inOwnTransaction work) := by
  suffices ends : ((inOwnTransaction work).apply store).2.InStep ∧
      (((inOwnTransaction work).apply store).1 = .ok () →
        ((inOwnTransaction work).apply store).2.IsIdle) ∧
      (((inOwnTransaction work).apply store).2.driver.engineInTransaction = true →
        ∃ before statement, (statement = .commit ∨ statement = .rollback) ∧
          EndHindered before statement ∧
          ((ending statement).apply before).2 = ((inOwnTransaction work).apply store).2 ∧
          (statement = .commit → ∃ fault, ((inOwnTransaction work).apply store).1 =
            .error (.engine fault (Sql.Statement.commit : Sql.Statement Stored).render))) from
    ⟨ends.1, ends.2.1, ends.2.2, rollback_undisturbed ends.1⟩
  rw [apply_in_own_transaction]
  rcases begin_idle idle with ⟨problem, after, refused, stillIdle, -⟩ | ⟨opened, begun, -, -⟩
  · rw [refused]
    exact ⟨stillIdle.in_step, fun _ => stillIdle,
      fun busy => by cases stillIdle.engine.symm.trans busy⟩
  · have inStep := kept opened begun
    rw [begun]
    simp only
    rcases worked : work.apply opened with ⟨problem | ⟨⟩, left⟩
    · rw [worked] at inStep
      obtain ⟨stillInStep, hinders⟩ := try_rollback_leaves inStep
      refine ⟨stillInStep, fun answered => (by cases answered), fun busy => ?_⟩
      obtain ⟨hindered, same⟩ := hinders busy
      exact ⟨left, .rollback, .inr rfl, hindered, same, fun commits => (by cases commits)⟩
    · rw [worked] at inStep
      have unit : ((commit.apply left).1.map fun _ => ()) = (commit.apply left).1 := by
        cases (commit.apply left).1 <;> rfl
      obtain ⟨stillInStep, idles, hinders⟩ := commit_leaves inStep
      simp only [unit]
      refine ⟨stillInStep, idles, fun busy => ?_⟩
      obtain ⟨hindered, refused⟩ := hinders busy
      exact ⟨left, .commit, .inl rfl, hindered, rfl, fun _ => refused⟩

end Operation

/-- Creating a table, or a whole schema with work that keeps the driver in step, leaves a
transaction of its own open only if the end of that transaction was hindered. It does not if it
answers, and what it leaves open a rollback would end.

Proof: both creations are work in a transaction of its own, and both keep the driver in step, one
statement after the other; then the flag says what the engine does, and only a hindered end is left
to keep a transaction open. -/
theorem transaction_outlives_only_a_hindered_end {store : Store} (idle : store.IsIdle) :
    (∀ table, Operation.LeavesOfItsOwn store (Operation.createTable table)) ∧
    ∀ (schema : Schema) (initializer : Operation Unit),
      (∀ created,
        (Operation.begin >>= fun _ => Operation.createTables schema).apply store =
          (.ok (), created) →
        created.InStep → (initializer.apply created).2.InStep) →
      Operation.LeavesOfItsOwn store (Operation.createDatabase schema initializer) := by
  open Operation in
  refine ⟨fun table => ?_, fun schema initializer initialized => ?_⟩
  · have statements : Keeps Store.InStep (table.creationStatements.forM fun statement => do
        let _ ← creating table statement) :=
      .for_m _ fun statement member => .bind (creating_in_step table statement member) fun _ =>
        .pure _
    refine (in_own_transaction_leaves idle fun opened begun => ?_).congr
      (atomically_unflagged idle.unflagged _)
    exact statements opened (begin_keeps_step idle begun)
  · refine (in_own_transaction_leaves idle fun opened begun => ?_).congr
      (create_database_in_own_transaction schema initializer store)
    have inStep := begin_keeps_step idle begun
    refine bind_keeps (create_tables_in_step schema opened inStep) fun _ created made kept => ?_
    refine initialized created ?_ kept
    rw [apply_bind, begun]
    exact made

/-! ### A file that is read elsewhere -/

namespace Archive

/-- The configuration with the file of the archive. -/
def config : Config := { dbFile := some "archive.db" }

/-- A host on which another connection holds the file for reading. -/
def read : Host where
  disk := {
    volumes := [(.file "archive.db", { holds := [(0, .reading)] })]
    folders := ["."]
    connections := 1 }

/-- A driver that has just opened the same file. -/
def opened : Store :=
  ⟨{ config, connection := some { number := 1, location := .file "archive.db" } }, read⟩

/-- A letter in the archive. -/
def letter : Table := ⟨"letter", [{ name := "text", type := .string }]⟩

/-- No transaction is open in it. -/
theorem opened_idle : opened.IsIdle :=
  ⟨rfl, _, rfl, rfl⟩

end Archive

open Archive in
/-- While somebody reads the file, the table cannot be committed, and the transaction that was
begun for it stays open. It could have been rolled back. -/
theorem transaction_outlives_only_a_hindered_end_read :
    opened.IsIdle ∧
      ((Operation.createTable letter).apply opened).2.driver.engineInTransaction = true ∧
      (Operation.rollback.apply ((Operation.createTable letter).apply opened).2).1 = .ok () := by
  have busy : ((Operation.createTable letter).apply opened).2.driver.engineInTransaction =
    true := by
    decide +kernel
  have quiet : ((Operation.createTable letter).apply opened).2.host.outage? = none := by
    decide +kernel
  obtain ⟨-, -, -, undone⟩ := (transaction_outlives_only_a_hindered_end opened_idle).1 letter
  exact ⟨opened_idle, busy, (undone busy quiet).1⟩

/-- A transaction that was begun to create a table can be open when the creation has returned. -/
theorem transaction_escapes_from_a_creation :
    ∃ (store : Store) (table : Table), store.IsIdle ∧
      ((Operation.createTable table).apply store).2.driver.inTransaction = true ∧
      ((Operation.createTable table).apply store).2.driver.engineInTransaction = true := by
  refine ⟨Archive.opened, Archive.letter, Archive.opened_idle, ?_, ?_⟩
  · decide +kernel
  · decide +kernel

end RecordStore
