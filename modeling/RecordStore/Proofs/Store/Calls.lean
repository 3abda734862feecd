import RecordStore.Proofs.Store.Operations
import RecordStore.Store.Entities
import RecordStore.Store.Tables

/-!
# Calls to the engine

Every operation reaches the engine through one call, `Operation.onConnection`. A closed driver
refuses it; an outage strikes it; otherwise the engine does what it does and the store keeps
what the engine left. Whatever holds of one call holds of the operations that are made of such
calls, and the laws here say which operations those are.
-/

namespace RecordStore.Engine.Access

variable {outcome : Outcome Answer}

/-- What is counted of a statement that was answered are the rows that the last change changed. -/
theorem counted_ok {count : Nat} (answered : (counted outcome).answer = .ok count) :
    (∃ answer, outcome.answer = .ok answer) ∧ count = outcome.access.connection.changes := by
  unfold counted at answered
  split at answered
  · cases answered
  · rename_i given
    split at answered
    · cases answered
      exact ⟨⟨_, given⟩, rfl⟩
    · cases answered

/-- What is refused stays refused when rows are counted. -/
theorem counted_error {fault : Fault} (refused : outcome.answer = .error fault) :
    (counted outcome).answer = .error fault := by
  simp [counted, refused]

end RecordStore.Engine.Access

namespace RecordStore.Operation

open Engine

variable {α β : Type}

/-- The three ways in which a call can go. -/
theorem on_connection_cases (statement : String) (isEnd : Bool) (act : Access → Outcome α)
    (store : Store) :
    (store.driver.connection = none ∧
      (onConnection statement isEnd act).apply store = (.error notConnected, store)) ∨
    ∃ connection, store.driver.connection = some connection ∧
      ((∃ outage, store.host.outage? = some outage ∧
        (onConnection statement isEnd act).apply store =
          (.error (.engine outage.fault statement),
            store.used ((⟨connection, store.host.disk⟩ : Access).struck (α := α) outage
              isEnd).access ⟨false, statement⟩)) ∨
      ∃ execution, store.host.outage? = none ∧
        (onConnection statement isEnd act).apply store =
          ((act ⟨connection, store.host.disk⟩).answer.mapError
              fun fault => .engine fault statement,
            store.used (act ⟨connection, store.host.disk⟩).access execution)) := by
  unfold onConnection
  simp only [apply_of]
  cases found : store.driver.connection with
  | none => exact .inl ⟨rfl, rfl⟩
  | some connection =>
    refine .inr ⟨connection, rfl, ?_⟩
    cases befalls : store.host.outage? with
    | some outage => exact .inl ⟨outage, rfl, rfl⟩
    | none =>
      simp only
      cases answered : (act ⟨connection, store.host.disk⟩).answer with
      | ok answer => exact .inr ⟨⟨true, statement⟩, trivial, rfl⟩
      | error fault => exact .inr ⟨⟨false, statement⟩, trivial, rfl⟩

/-- A call that nothing befalls is answered if the engine answers it. -/
theorem on_connection_answered {statement : String} {isEnd : Bool} {act : Access → Outcome α}
    {store : Store} {connection : Connection} {access : Access} {answer : α}
    (opened : store.driver.connection = some connection) (quiet : store.host.outage? = none)
    (ran : act ⟨connection, store.host.disk⟩ = ⟨access, .ok answer⟩) :
    (onConnection statement isEnd act).apply store =
      (.ok answer, store.used access ⟨true, statement⟩) := by
  simp only [onConnection, apply_of, opened, quiet, ran]

section Answers

variable {statement : String} {isEnd : Bool} {act : Access → Outcome α} {answer : α}
  {store after : Store}

/-- A call that is answered was made on an open connection and not struck. -/
theorem on_connection_ok
    (answered : (onConnection statement isEnd act).apply store = (.ok answer, after)) :
    ∃ connection, store.driver.connection = some connection ∧
      (act ⟨connection, store.host.disk⟩).answer = .ok answer ∧
      ∃ execution, after = store.used (act ⟨connection, store.host.disk⟩).access execution := by
  rcases on_connection_cases statement isEnd act store with ⟨-, ran⟩ | ⟨connection, opened,
    ⟨outage, -, ran⟩ | ⟨execution, -, ran⟩⟩
  · cases ran.symm.trans answered
  · cases ran.symm.trans answered
  · obtain ⟨same, rfl⟩ := Prod.mk.inj (ran.symm.trans answered)
    refine ⟨connection, opened, ?_, execution, rfl⟩
    cases found : (act ⟨connection, store.host.disk⟩).answer with
    | ok given =>
      rw [found] at same
      cases same
      rfl
    | error fault =>
      rw [found] at same
      cases same

/-- No outage strikes a call that is answered. -/
theorem on_connection_quiet
    (answered : (onConnection statement isEnd act).apply store = (.ok answer, after)) :
    store.host.outage? = none := by
  rcases on_connection_cases statement isEnd act store with
    ⟨-, ran⟩ | ⟨connection, -, ⟨outage, -, ran⟩ | ⟨execution, quiet, -⟩⟩
  · cases ran.symm.trans answered
  · cases ran.symm.trans answered
  · exact quiet

/-- A call that fails found the driver closed and left the store alone, or an outage struck it, or
the engine refused what was asked. -/
theorem on_connection_error {problem : StoreError}
    (failed : (onConnection statement isEnd act).apply store = (.error problem, after)) :
    (problem = notConnected ∧ after = store) ∨
    ∃ connection fault, store.driver.connection = some connection ∧
      problem = .engine fault statement ∧
      ((∃ outage execution, store.host.outage? = some outage ∧ fault = outage.fault ∧
          after = store.used ((⟨connection, store.host.disk⟩ : Access).struck (α := α) outage
            isEnd).access execution) ∨
        (act ⟨connection, store.host.disk⟩).answer = .error fault ∧
          ∃ execution,
            after = store.used (act ⟨connection, store.host.disk⟩).access execution) := by
  rcases on_connection_cases statement isEnd act store with ⟨-, ran⟩ | ⟨connection, opened,
    ⟨outage, strikes, ran⟩ | ⟨execution, -, ran⟩⟩
  · cases ran.symm.trans failed
    exact .inl ⟨rfl, rfl⟩
  · cases ran.symm.trans failed
    exact .inr ⟨connection, outage.fault, opened, rfl, .inl ⟨outage, _, strikes, rfl, rfl⟩⟩
  · obtain ⟨same, rfl⟩ := Prod.mk.inj (ran.symm.trans failed)
    cases found : (act ⟨connection, store.host.disk⟩).answer with
    | ok given =>
      rw [found] at same
      cases same
    | error fault =>
      rw [found] at same
      cases same
      exact .inr ⟨connection, fault, opened, rfl, .inr ⟨found, execution, rfl⟩⟩

end Answers

/-- A call leaves the flag alone. -/
theorem on_connection_flag (statement : String) (isEnd : Bool) (act : Access → Outcome α)
    (store : Store) :
    ((onConnection statement isEnd act).apply store).2.driver.inTransaction =
      store.driver.inTransaction := by
  rcases on_connection_cases statement isEnd act store with
    ⟨-, ran⟩ | ⟨connection, -, ⟨outage, -, ran⟩ | ⟨execution, -, ran⟩⟩
  · rw [ran]
  · rw [ran]
    rfl
  · rw [ran]
    rfl

/-- The ways in which a statement can go that is run on an open connection. -/
theorem answering_cases (statement : Sql.Statement Stored) {store : Store}
    {connection : Connection} (opened : store.driver.connection = some connection) :
    (∃ outage, store.host.outage? = some outage ∧
      (answering statement).apply store =
        (.error (.engine outage.fault statement.render),
          store.used ((⟨connection, store.host.disk⟩ : Access).struck (α := Answer) outage
            statement.endsTransaction).access ⟨false, statement.render⟩)) ∨
    ∃ execution, store.host.outage? = none ∧
      (answering statement).apply store =
        (((⟨connection, store.host.disk⟩ : Access).run statement).answer.mapError
            fun fault => .engine fault statement.render,
          store.used ((⟨connection, store.host.disk⟩ : Access).run statement).access
            execution) := by
  rcases on_connection_cases statement.render statement.endsTransaction
    (fun access => access.run statement) store with ⟨closed, -⟩ | ⟨_, opened', gone⟩
  · cases closed.symm.trans opened
  · cases opened'.symm.trans opened
    exact gone

/-- Counting rows leaves the access of an outcome. -/
@[simp] theorem counted_access (outcome : Outcome Answer) :
    (Access.counted outcome).access = outcome.access := by
  unfold Access.counted
  split
  · rfl
  · split <;> rfl

/-! ### Requirements -/

/-- A closed store is told that it is not connected. -/
theorem require_connection_closed {store : Store} (closed : store.driver.connection = none) :
    requireConnection.apply store = (.error notConnected, store) := by
  simp [requireConnection, Driver.isConnected, closed]

/-- An open one is let through. -/
theorem require_connection_open {store : Store} {connection : Connection}
    (opened : store.driver.connection = some connection) :
    requireConnection.apply store = (.ok (), store) := by
  simp [requireConnection, Driver.isConnected, opened]

/-- Without a connection there is nothing to begin. -/
theorem begin_closed {store : Store} (closed : store.driver.connection = none) :
    begin.apply store = (.error notConnected, store) := by
  rw [begin, apply_bind, require_connection_closed closed]

/-- A second transaction is refused before the engine is asked. -/
theorem begin_flagged {store : Store} {connection : Connection}
    (opened : store.driver.connection = some connection)
    (flag : store.driver.inTransaction = true) :
    begin.apply store = (.error .alreadyInTransaction, store) := by
  rw [begin, apply_bind, require_connection_open opened]
  simp only
  rw [apply_bind]
  simp [requireNoTransaction, flag]

/-- Otherwise the engine decides, and the flag goes up when it agrees. -/
theorem begin_unflagged {store : Store} {connection : Connection}
    (opened : store.driver.connection = some connection)
    (flag : store.driver.inTransaction = false) :
    begin.apply store =
      match (answering (.begin .deferred)).apply store with
      | (.ok _, after) => (.ok (), after.flagged true)
      | (.error problem, after) => (.error problem, after) := by
  rw [begin, apply_bind, require_connection_open opened]
  simp only
  rw [apply_bind]
  simp only [requireNoTransaction, apply_of, flag, Bool.false_eq_true, if_false]
  rw [apply_bind]
  rcases (answering (.begin .deferred)).apply store with ⟨result, after⟩
  cases result <;> rfl

/-- Nothing is ended in a closed store. -/
theorem ending_closed {store : Store} (statement : Sql.Statement Stored)
    (closed : store.driver.connection = none) :
    (ending statement).apply store = (.error notConnected, store) := by
  rw [ending, apply_bind, require_connection_closed closed]

/-- There is nothing to end where the flag is down, and the engine is not asked. -/
theorem ending_unflagged {store : Store} {connection : Connection}
    (statement : Sql.Statement Stored) (opened : store.driver.connection = some connection)
    (flag : store.driver.inTransaction = false) :
    (ending statement).apply store = (.error .notInTransaction, store) := by
  rw [ending, apply_bind, require_connection_open opened]
  simp only
  rw [apply_bind]
  simp [requireTransaction, flag]

/-- In an open store the flag is set to what the engine says. -/
theorem sync_transaction_open {store : Store} {connection : Connection}
    (opened : store.driver.connection = some connection) :
    syncTransaction.apply store = (.ok (), store.flagged (!connection.isIdle)) := by
  simp [syncTransaction, opened]

/-- A call on an open connection leaves a connection. -/
theorem on_connection_open (statement : String) (isEnd : Bool) (act : Access → Outcome α)
    {store : Store} {connection : Connection}
    (opened : store.driver.connection = some connection) :
    ∃ left, ((onConnection statement isEnd act).apply store).2.driver.connection = some left := by
  rcases on_connection_cases statement isEnd act store with ⟨closed, -⟩ | ⟨_, -,
    ⟨outage, -, ran⟩ | ⟨execution, -, ran⟩⟩
  · cases closed.symm.trans opened
  · rw [ran]
    exact ⟨_, rfl⟩
  · rw [ran]
    exact ⟨_, rfl⟩

/-- Where the flag is up the engine is asked to end the transaction, and afterwards the flag
says what the engine says, whatever the engine answered. -/
theorem ending_flagged {store : Store} {connection : Connection}
    (statement : Sql.Statement Stored) (opened : store.driver.connection = some connection)
    (flag : store.driver.inTransaction = true) :
    ∃ left, ((answering statement).apply store).2.driver.connection = some left ∧
      (ending statement).apply store =
        (((answering statement).apply store).1.map fun _ => (),
          ((answering statement).apply store).2.flagged (!left.isIdle)) := by
  obtain ⟨left, kept⟩ : ∃ left,
      ((answering statement).apply store).2.driver.connection = some left :=
    on_connection_open _ _ _ opened
  refine ⟨left, kept, ?_⟩
  rw [ending, apply_bind, require_connection_open opened]
  simp only
  rw [apply_bind]
  simp only [requireTransaction, apply_of, flag, if_true]
  rw [apply_bind, apply_attempt]
  simp only
  rw [apply_bind, sync_transaction_open kept]
  simp only
  rw [apply_bind, apply_of_except]
  cases ((answering statement).apply store).1 <;> rfl

/-- A rollback is tried where a transaction is flagged. -/
theorem try_rollback_flagged {store : Store} (flag : store.driver.inTransaction = true) :
    (tryRollback.apply store).2 = (rollback.apply store).2 := by
  simp [tryRollback, flag]

/-- Nothing is rolled back while the flag is down. -/
theorem try_rollback_unflagged {store : Store} (flag : store.driver.inTransaction = false) :
    (tryRollback.apply store).2 = store := by
  simp [tryRollback, flag]

section Outcomes

variable {store after : Store} {statement : Sql.Statement Stored} {problem : StoreError}

/-- A transaction is begun where none is flagged and the engine begins one. -/
theorem begin_answered (begun : begin.apply store = (.ok (), after)) :
    ∃ connection answer, store.driver.connection = some connection ∧
      store.driver.inTransaction = false ∧
      (Access.run ⟨connection, store.host.disk⟩ (.begin .deferred)).answer = .ok answer ∧
      ∃ execution, after = (store.used (Access.run ⟨connection, store.host.disk⟩
        (.begin .deferred)).access execution).flagged true := by
  cases opened : store.driver.connection with
  | none =>
    rw [begin_closed opened] at begun
    cases begun
  | some connection =>
    cases flag : store.driver.inTransaction with
    | true =>
      rw [begin_flagged opened flag] at begun
      cases begun
    | false =>
      rw [begin_unflagged opened flag] at begun
      rcases asked : (answering (.begin .deferred)).apply store with ⟨fault | answer, left⟩
      · rw [asked] at begun
        cases begun
      · rw [asked] at begun
        cases begun
        obtain ⟨_, opened', ran, execution, rfl⟩ := on_connection_ok asked
        cases opened.symm.trans opened'
        exact ⟨connection, answer, rfl, rfl, ran, execution, rfl⟩

/-- A beginning that fails leaves the store alone, or the call to the engine failed. -/
theorem begin_failed (refused : begin.apply store = (.error problem, after)) :
    after = store ∨ (answering (.begin .deferred)).apply store = (.error problem, after) := by
  cases opened : store.driver.connection with
  | none =>
    rw [begin_closed opened] at refused
    cases refused
    exact .inl rfl
  | some connection =>
    cases flag : store.driver.inTransaction with
    | true =>
      rw [begin_flagged opened flag] at refused
      cases refused
      exact .inl rfl
    | false =>
      rw [begin_unflagged opened flag] at refused
      rcases asked : (answering (.begin .deferred)).apply store with ⟨fault | answer, left⟩
      · rw [asked] at refused
        cases refused
        exact .inr rfl
      · rw [asked] at refused
        cases refused

/-- A transaction is ended where one is flagged and the engine ends one. -/
theorem ending_answered (ended : (ending statement).apply store = (.ok (), after)) :
    ∃ connection answer, store.driver.connection = some connection ∧
      store.driver.inTransaction = true ∧
      (Access.run ⟨connection, store.host.disk⟩ statement).answer = .ok answer ∧
      ∃ execution, after = (store.used (Access.run ⟨connection, store.host.disk⟩
        statement).access execution).flagged
          (!(Access.run ⟨connection, store.host.disk⟩ statement).access.connection.isIdle) := by
  cases opened : store.driver.connection with
  | none =>
    rw [ending_closed _ opened] at ended
    cases ended
  | some connection =>
    cases flag : store.driver.inTransaction with
    | false =>
      rw [ending_unflagged _ opened flag] at ended
      cases ended
    | true =>
      obtain ⟨left, kept, ran⟩ := ending_flagged statement opened flag
      rw [ran] at ended
      rcases asked : (answering statement).apply store with ⟨fault | answer, reached⟩
      · rw [asked] at ended
        cases ended
      · rw [asked] at kept ended
        cases ended
        obtain ⟨_, opened', done, execution, rfl⟩ := on_connection_ok asked
        cases opened.symm.trans opened'
        cases kept
        exact ⟨connection, answer, rfl, rfl, done, execution, rfl⟩

/-- An end that fails leaves the store alone, or the call to the engine failed and the flag says
what the engine says. -/
theorem ending_failed (refused : (ending statement).apply store = (.error problem, after)) :
    after = store ∨ ∃ reached flag, (answering statement).apply store = (.error problem, reached) ∧
      after = reached.flagged flag := by
  cases opened : store.driver.connection with
  | none =>
    rw [ending_closed _ opened] at refused
    cases refused
    exact .inl rfl
  | some connection =>
    cases flag : store.driver.inTransaction with
    | false =>
      rw [ending_unflagged _ opened flag] at refused
      cases refused
      exact .inl rfl
    | true =>
      obtain ⟨left, -, ran⟩ := ending_flagged statement opened flag
      rw [ran] at refused
      rcases asked : (answering statement).apply store with ⟨fault | answer, reached⟩
      · rw [asked] at refused
        cases refused
        exact .inr ⟨reached, _, rfl, rfl⟩
      · rw [asked] at refused
        cases refused

end Outcomes

/-! ### Invariants of operations -/

/-- An operation keeps a property of stores, whether it answers or fails. -/
def Keeps (Invariant : Store → Prop) (operation : Operation α) : Prop :=
  ∀ store, Invariant store → Invariant (operation.apply store).2

namespace Keeps

variable {Invariant : Store → Prop}

/-- What two operations keep they keep one after the other. -/
theorem bind {first : Operation α} {next : α → Operation β} (begins : Keeps Invariant first)
    (continues : ∀ answer, Keeps Invariant (next answer)) :
    Keeps Invariant (first >>= next) := fun store holds =>
  bind_keeps (begins store holds) fun answer after _ kept => continues answer after kept

/-- An answer by itself keeps everything. -/
theorem pure (answer : α) : Keeps Invariant (Pure.pure answer : Operation α) :=
  fun _ holds => holds

/-- A refusal by itself keeps everything. -/
theorem throw (problem : StoreError) :
    Keeps Invariant (MonadExcept.throw problem : Operation α) := fun _ holds => holds

/-- So does an outcome. -/
theorem of_except (outcome : Except StoreError α) :
    Keeps Invariant (Operation.ofExcept outcome) := fun _ holds => holds

/-- Reading the store keeps everything. -/
theorem get : Keeps Invariant (MonadState.get : Operation Store) := fun _ holds => holds

/-- What an operation keeps is kept when its failure is caught. -/
theorem attempt {operation : Operation α} (kept : Keeps Invariant operation) :
    Keeps Invariant (Operation.attempt operation) := fun store holds => kept store holds

/-- Asking for a connection keeps everything. -/
theorem require_connection : Keeps Invariant Operation.requireConnection := by
  intro store holds
  simp only [Operation.requireConnection, apply_of]
  split <;> exact holds

/-- Asking that no transaction is open keeps everything. -/
theorem require_no_transaction : Keeps Invariant Operation.requireNoTransaction := by
  intro store holds
  simp only [Operation.requireNoTransaction, apply_of]
  split <;> exact holds

/-- Asking that one is open keeps everything. -/
theorem require_transaction : Keeps Invariant Operation.requireTransaction := by
  intro store holds
  simp only [Operation.requireTransaction, apply_of]
  split <;> exact holds

/-- Work on each of some items keeps what the work on one item keeps. -/
theorem for_m {Item : Type} {work : Item → Operation PUnit} (items : List Item)
    (each : ∀ item ∈ items, Keeps Invariant (work item)) :
    Keeps Invariant (items.forM work) := by
  induction items with
  | nil => exact pure PUnit.unit
  | cons item rest inductionHypothesis =>
    change Keeps Invariant (work item >>= fun _ => rest.forM work)
    refine bind (each item List.mem_cons_self) fun _ => ?_
    exact inductionHypothesis fun other member => each other (List.mem_cons_of_mem item member)

end Keeps

/-! ### Operations that only query -/

section Querying

variable {Invariant : Store → Prop} {model : Model}

/-- Operations that reach the engine by queries alone keep what every query keeps. -/
theorem fetching_keeps (queries : ∀ query, Keeps Invariant (answering (.select query)))
    (table : Table) (query : Sql.Select Stored) :
    Keeps Invariant (fetching table query : Operation (List (Entity model))) :=
  .bind (queries query) fun _ => .of_except _

/-- What queries keep is kept when one row is found. -/
theorem find_one_keeps (queries : ∀ query, Keeps Invariant (answering (.select query)))
    (handle : Handle model) (key : Key) : Keeps Invariant (findOne handle key) :=
  .bind (.of_except _) fun _ => .bind (.of_except _) fun _ =>
    .bind (fetching_keeps queries _ _) fun _ => .pure _

/-- Resolving a page keeps everything. -/
theorem page_of_keeps (request : Request) : Keeps Invariant (pageOf request) :=
  .bind .get fun _ => .of_except _

/-- What queries keep is kept when a page is found. -/
theorem find_page_keeps (queries : ∀ query, Keeps Invariant (answering (.select query)))
    (handle : Handle model) (request : Request) (page : Page) :
    Keeps Invariant (findPage handle request page) :=
  .bind (.of_except _) fun _ => fetching_keeps queries _ _

/-- What queries keep is kept by finding. -/
theorem find_keeps (queries : ∀ query, Keeps Invariant (answering (.select query)))
    (handle : Handle model) (request : Request) : Keeps Invariant (find handle request) :=
  .bind (page_of_keeps request) fun _ => find_page_keeps queries _ _ _

/-- What queries keep is kept by counting. -/
theorem count_keeps (queries : ∀ query, Keeps Invariant (answering (.select query)))
    (handle : Handle model) (request : Request) : Keeps Invariant (count handle request) :=
  .bind (.of_except _) fun _ => .bind (queries _) fun _ => .pure _

/-- What queries keep is kept by searching. -/
theorem search_keeps (queries : ∀ query, Keeps Invariant (answering (.select query)))
    (handle : Handle model) (request : Request) : Keeps Invariant (search handle request) := by
  refine .bind (page_of_keeps request) fun page => .bind (count_keeps queries _ _) fun total => ?_
  by_cases behind : total ≤ page.offset
  · simp only [behind, if_true]
    exact .bind (.pure _) fun _ => .pure _
  · simp only [behind, if_false]
    exact .bind (find_page_keeps queries _ _ _) fun _ => .pure _

end Querying

end RecordStore.Operation
