import RecordStore.Proofs.Engine.Control
import RecordStore.Proofs.Store.Tables

/-!
# Queries of a caller's own

A query of a caller's own is run as it is and its rows are answered. It can be any statement,
and nothing is read from the engine afterwards but the rows. The flag therefore says after it
what it said before it, and a driver that was in step still is exactly if the engine has a
transaction open afterwards where it had one open before. A query that opens or ends a
transaction leaves the flag behind, and what is refused afterwards is the wrong thing.
-/

namespace RecordStore

open Engine

namespace Engine.Access

open Sql

variable {access held : Access}

/-- What a new transaction holds is held inside of it. -/
theorem for_mode_busy {mode : TransactionMode} (granted : access.forMode mode = .ok held) :
    held.connection.isIdle = false := by
  have opened : access.opened.connection.isIdle = false := by
    unfold Access.opened
    split
    · rename_i found
      exact is_idle_of_transaction found
    · rfl
  rcases for_mode_ok granted with rfl | ⟨writing, writes, rfl | rfl⟩
  · exact opened
  · exact (for_writing_is_idle writes).trans opened
  · exact (for_writing_is_idle writes).trans opened

/-- A statement that opens a transaction has one open when it is answered. -/
theorem perform_opens {text : String} {statement : Statement Stored} {answer : Answer}
    (opens : statement.opensTransaction = true)
    (answered : (access.perform text statement).answer = .ok answer) :
    (access.perform text statement).access.connection.isIdle = false := by
  cases statement with
  | begin mode =>
    change (access.runBegin mode).answer = .ok answer at answered
    change (access.runBegin mode).access.connection.isIdle = false
    unfold runBegin at answered ⊢
    split at answered
    · cases answered
    · rename_i held granted
      split <;> exact for_mode_busy granted
  | savepoint name =>
    change (access.runSavepoint name).access.connection.isIdle = false
    unfold runSavepoint
    split <;> rfl
  | _ => cases opens

/-- A statement that closes a transaction has none open when it is answered. -/
theorem perform_closes {text : String} {statement : Statement Stored} {answer : Answer}
    (closes : statement.closesTransaction = true)
    (answered : (access.perform text statement).answer = .ok answer) :
    (access.perform text statement).access.connection.isIdle = true := by
  cases statement with
  | commit => exact (run_commit_visible answered).1
  | rollback => exact access.run_rollback_is_idle
  | _ => cases closes

/-- A second transaction is refused inside of one. -/
theorem run_begin_busy (busy : access.connection.isIdle = false) :
    (access.run (.begin .deferred)).answer = .error .nestedBegin := by
  change (access.runBegin .deferred).answer = .error .nestedBegin
  simp [runBegin, forMode, busy]

end Engine.Access

namespace Operation

variable {store : Store} {connection : Connection}

/-- What a query of a caller's own does to a store: the call that runs its text decides. -/
theorem apply_query (text : String) (parameters : List Value) (store : Store) :
    (query text parameters).apply store =
      (((answeringText text (parameters.map Value.stored)).apply store).1.map records,
        ((answeringText text (parameters.map Value.stored)).apply store).2) := by
  rw [query, apply_bind]
  rcases (answeringText text (parameters.map Value.stored)).apply store with ⟨result, after⟩
  cases result <;> rfl

/-- A query of a caller's own leaves the driver open and its flag alone. -/
theorem query_flag (opened : store.driver.connection = some connection) (text : String)
    (parameters : List Value) :
    ((query text parameters).apply store).2.driver.isConnected = true ∧
      ((query text parameters).apply store).2.driver.inTransaction =
        store.driver.inTransaction := by
  rw [apply_query, answeringText]
  refine ⟨?_, on_connection_flag _ _ _ store⟩
  obtain ⟨left, kept⟩ := on_connection_open text (Access.textEndsTransaction text)
    (fun access => access.runText text (parameters.map Value.stored)) opened
  simp [Driver.isConnected, kept]

/-- So a driver stays in step exactly if the engine stays as it was. -/
theorem query_in_step_iff (opened : store.driver.connection = some connection)
    (inStep : store.InStep) (text : String) (parameters : List Value) :
    ((query text parameters).apply store).2.InStep ↔
      ((query text parameters).apply store).2.driver.engineInTransaction =
        store.driver.engineInTransaction := by
  have same : store.driver.inTransaction = store.driver.engineInTransaction := inStep
  unfold Store.InStep Driver.InStep
  rw [(query_flag opened text parameters).2, same, eq_comm]

/-- A query that is not about transactions leaves the driver in step, unless a full table costs
the transaction. -/
theorem query_plain_in_step (opened : store.driver.connection = some connection)
    (inStep : store.InStep) {text : String} (parameters : List Value)
    (plain : Sql.textControls text = false)
    (enough : ((query text parameters).apply store).1 ≠ .error (.engine .storageFull text)) :
    ((query text parameters).apply store).2.InStep := by
  rw [apply_query, answeringText] at enough ⊢
  rw [Sql.text_ends_transaction_of_plain plain] at enough ⊢
  rcases on_connection_cases text false
    (fun access => access.runText text (parameters.map Value.stored)) store with
    ⟨closed, -⟩ | ⟨_, opened', ⟨outage, -, ran⟩ | ⟨execution, -, ran⟩⟩
  · cases closed.symm.trans opened
  · rw [ran]
    exact Store.used_in_step opened' rfl inStep
  · rw [ran] at enough ⊢
    refine Store.used_in_step opened' ?_ inStep
    rcases Access.run_text_plain_is_idle _ (parameters.map Value.stored) plain with
      kept | ⟨full, -⟩
    · exact kept
    · simp only at enough
      rw [full] at enough
      exact absurd rfl enough

/-- What the engine says after a query of a caller's own that was answered. -/
theorem query_answered {text : String} {parameters : List Value} {rows : List Record}
    {read : Sql.ReadStatement} (parsed : Sql.parse text = .ok read)
    (answered : ((query text parameters).apply store).1 = .ok rows) :
    (read.statement.opensTransaction = true →
      ((query text parameters).apply store).2.driver.engineInTransaction = true) ∧
    (read.statement.closesTransaction = true →
      ((query text parameters).apply store).2.driver.engineInTransaction = false) := by
  rw [apply_query] at answered ⊢
  rcases ran : (answeringText text (parameters.map Value.stored)).apply store with
    ⟨problem | answer, after⟩
  · rw [ran] at answered
    cases answered
  · obtain ⟨_, -, done, execution, rfl⟩ := on_connection_ok ran
    rcases Access.run_text_cases _ text (parameters.map Value.stored) with
      ⟨fault, refused⟩ | ⟨other, parsed', performed⟩
    · rw [refused] at done
      cases done
    · cases parsed.symm.trans parsed'
      rw [performed] at done
      simp only [Store.used_engine_in_transaction, performed]
      refine ⟨fun opens => ?_, fun closes => ?_⟩
      · rw [Access.perform_opens (by simpa [Sql.ReadStatement.withParameters] using opens) done]
        rfl
      · rw [Access.perform_closes (by simpa [Sql.ReadStatement.withParameters] using closes) done]
        rfl

/-! ### Drivers that are out of step -/

/-- Where the engine has a transaction open and the flag is down, beginning one is left to the
engine, which refuses, ending the open one is refused, and closing does not roll it back. -/
theorem out_of_step_open (opened : store.driver.connection = some connection)
    (flag : store.driver.inTransaction = false) (busy : connection.isIdle = false) :
    (∃ fault, (begin.apply store).1 =
      .error (.engine fault (Sql.Statement.begin .deferred : Sql.Statement Stored).render)) ∧
    commit.apply store = (.error .notInTransaction, store) ∧
    rollback.apply store = (.error .notInTransaction, store) ∧
    close.apply store = disconnect.apply store := by
  refine ⟨?_, ending_unflagged .commit opened flag, ending_unflagged .rollback opened flag, ?_⟩
  · rw [begin_unflagged opened flag]
    rcases answering_cases (.begin .deferred) opened with ⟨outage, -, ran⟩ | ⟨execution, -, ran⟩
    · rw [ran]
      exact ⟨outage.fault, rfl⟩
    · rw [ran, Access.run_begin_busy busy]
      exact ⟨.nestedBegin, rfl⟩
  · rw [close, apply_bind, require_connection_open opened]
    simp only
    rw [apply_bind]
    simp [flag]

/-- Where the engine is idle and the flag is up, beginning a transaction is refused, and ending
one fails in the engine. -/
theorem out_of_step_idle (opened : store.driver.connection = some connection)
    (flag : store.driver.inTransaction = true) (idle : connection.isIdle = true) :
    begin.apply store = (.error .alreadyInTransaction, store) ∧
    (∃ fault statement, (commit.apply store).1 = .error (.engine fault statement)) ∧
    ∃ fault statement, (rollback.apply store).1 = .error (.engine fault statement) := by
  have closed : connection.transaction = none := by simpa [Connection.isIdle] using idle
  have fails : ∀ statement : Sql.Statement Stored, ∀ fault,
      ((⟨connection, store.host.disk⟩ : Access).run statement).answer = .error fault →
        ∃ fault statement', ((ending statement).apply store).1 =
          .error (.engine fault statement') := by
    intro statement fault refused
    obtain ⟨left, -, ran⟩ := ending_flagged statement opened flag
    rw [ran]
    rcases answering_cases statement opened with ⟨outage, -, asked⟩ | ⟨execution, -, asked⟩
    · rw [asked]
      exact ⟨outage.fault, _, rfl⟩
    · rw [asked, refused]
      exact ⟨fault, _, rfl⟩
  refine ⟨begin_flagged opened flag, fails .commit .nothingToCommit ?_,
    fails .rollback .nothingToRollBack ?_⟩
  · change (Access.runCommit _).answer = _
    simp only [Access.runCommit, closed]
  · change (Access.runRollback _).answer = _
    simp only [Access.runRollback, closed]

end Operation

/-- What a query of a caller's own does to an open driver that is in step, whatever its text and
whether it is answered or fails. The flag stays as it was, so the driver stays in step exactly
if the engine has a transaction open where it had one open before: a text that is not about
transactions keeps it in step unless a full table costs the transaction, and an answered text
that opens a transaction or closes the open one does not. Out of step, a transaction that the
engine has open can be neither ended nor begun anew nor is it rolled back on closing, and where
the engine has none the driver refuses to begin one and cannot end the one it takes to be
open.

Proof: a query leaves the flag, so being in step comes down to whether the engine's state stays.
That is known from the text where it is not about transactions, and from its answer where it opens
or closes one. The two ways of being out of step are told apart by the engine. -/
theorem query_leaves_the_flag_behind {store : Store} {connection : Connection}
    (opened : store.driver.connection = some connection) (inStep : store.InStep) (text : String)
    (parameters : List Value) :
    let result := ((Operation.query text parameters).apply store).1
    let after := ((Operation.query text parameters).apply store).2
    after.driver.isConnected = true ∧ after.driver.inTransaction = store.driver.inTransaction ∧
    (after.InStep ↔
      after.driver.engineInTransaction = store.driver.engineInTransaction) ∧
    (Sql.textControls text = false → result ≠ .error (.engine .storageFull text) →
      after.InStep) ∧
    (∀ read rows, Sql.parse text = .ok read → result = .ok rows →
      (read.statement.opensTransaction = true ∧ store.driver.engineInTransaction = false ∨
        read.statement.closesTransaction = true ∧ store.driver.engineInTransaction = true) →
      ¬ after.InStep) ∧
    (¬ after.InStep → after.driver.engineInTransaction = true →
      (∃ fault statement, (Operation.begin.apply after).1 = .error (.engine fault statement)) ∧
      Operation.commit.apply after = (.error .notInTransaction, after) ∧
      Operation.rollback.apply after = (.error .notInTransaction, after) ∧
      Operation.close.apply after = Operation.disconnect.apply after) ∧
    (¬ after.InStep → after.driver.engineInTransaction = false →
      Operation.begin.apply after = (.error .alreadyInTransaction, after) ∧
      (∃ fault statement, (Operation.commit.apply after).1 = .error (.engine fault statement)) ∧
      ∃ fault statement,
        (Operation.rollback.apply after).1 = .error (.engine fault statement)) := by
  intro result after
  obtain ⟨connected, flag⟩ := Operation.query_flag opened text parameters
  have steps : after.InStep ↔
      after.driver.engineInTransaction = store.driver.engineInTransaction :=
    Operation.query_in_step_iff opened inStep text parameters
  obtain ⟨left, kept⟩ : ∃ left, after.driver.connection = some left :=
    Option.isSome_iff_exists.mp connected
  have engine : after.driver.engineInTransaction = !left.isIdle := by
    simp [Driver.engineInTransaction, kept]
  refine ⟨connected, flag, steps, Operation.query_plain_in_step opened inStep parameters, ?_,
    ?_, ?_⟩
  · intro read rows parsed answered which stays
    obtain ⟨opens, closes⟩ := Operation.query_answered parsed answered
    have same := steps.mp stays
    rcases which with ⟨begins, idle⟩ | ⟨ends, busy⟩
    · cases ((opens begins).symm.trans same).trans idle
    · cases ((closes ends).symm.trans same).trans busy
  · intro outOfStep busy
    have down : after.driver.inTransaction = false := by
      by_contra up
      exact outOfStep ((Bool.not_eq_false _).mp up |>.trans busy.symm)
    obtain ⟨⟨fault, begun⟩, others⟩ :=
      Operation.out_of_step_open kept down (by simpa [engine] using busy)
    exact ⟨⟨fault, _, begun⟩, others⟩
  · intro outOfStep idle
    have up : after.driver.inTransaction = true := by
      by_contra down
      exact outOfStep ((Bool.not_eq_true _).mp down |>.trans idle.symm)
    exact Operation.out_of_step_idle kept up (by simpa [engine] using idle)

/-- On a driver that has just connected, a transaction that was opened by a query cannot be
committed. -/
theorem query_leaves_the_flag_behind_connected :
    let opened := (Operation.connect.apply ⟨{ config := {} }, {}⟩).2
    let after := ((Operation.query "BEGIN" []).apply opened).2
    opened.InStep ∧ after.driver.engineInTransaction = true ∧
      Operation.commit.apply after = (.error .notInTransaction, after) := by
  intro opened after
  have inStep : opened.InStep := by
    unfold Store.InStep Driver.InStep
    decide +kernel
  have busy : after.driver.engineInTransaction = true := by decide +kernel
  have idle : opened.driver.engineInTransaction = false := by decide +kernel
  have held : opened.driver.connection = some { number := 0, location := .memory 0 } := rfl
  obtain ⟨-, -, steps, -, -, opens, -⟩ := query_leaves_the_flag_behind held inStep "BEGIN" []
  have outOfStep : ¬ after.InStep := fun stays => by
    cases (busy.symm.trans (steps.mp stays)).trans idle
  exact ⟨inStep, busy, (opens outOfStep busy).2.1⟩

/-- A query that opens a transaction leaves a driver that was in step with its flag down while
the engine has a transaction open, and beginning one is then not refused by the driver. -/
theorem query_takes_the_driver_out_of_step :
    ∃ store : Store, store.driver.isConnected = true ∧ store.InStep ∧
      ¬ ((Operation.query "BEGIN" []).apply store).2.InStep ∧
      (Operation.begin.apply ((Operation.query "BEGIN" []).apply store).2).1 ≠
        .error .alreadyInTransaction := by
  refine ⟨(Operation.connect.apply ⟨{ config := {} }, {}⟩).2, rfl, ?_, ?_, ?_⟩
  · unfold Store.InStep Driver.InStep
    decide +kernel
  · unfold Store.InStep Driver.InStep
    decide +kernel
  · decide +kernel

end RecordStore
