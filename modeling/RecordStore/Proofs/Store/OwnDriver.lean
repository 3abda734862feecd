import RecordStore.Proofs.Store.Holding

/-!
# Work with a driver of its own

Work that is given a driver of its own can do with it whatever a driver can do: it can close it and
connect it again, it can leave a transaction open, and by queries of its own it can make the flag of
the driver say what the engine does not. On the way out an open transaction is rolled back if the
driver knows of it, the connection is given back, and it is given up where that fails. Whichever of
these steps fail, nothing is left of the driver but what was committed, and the outcome of the work
goes before whatever comes of them.
-/

namespace RecordStore

open Engine

/-- What work can do with a driver, the last step last. The numbers of the connections that the
driver takes are among some numbers, and what others do on the host meanwhile adds nothing of the
connections of these numbers. -/
inductive Store.Use (ours : Nat → Prop) : Store → Store → Prop where
  | start (store : Store) : Use ours store store
  | connect {first store : Store} (before : Use ours first store)
      (taken : ours store.host.disk.connections) :
      Use ours first (Operation.connect.apply store).2
  | close {first store : Store} (before : Use ours first store) :
      Use ours first (Operation.close.apply store).2
  | begin {first store : Store} (before : Use ours first store) :
      Use ours first (Operation.begin.apply store).2
  | commit {first store : Store} (before : Use ours first store) :
      Use ours first (Operation.commit.apply store).2
  | rollback {first store : Store} (before : Use ours first store) :
      Use ours first (Operation.rollback.apply store).2
  | execute {first store : Store} (before : Use ours first store) (text : String)
      (parameters : List Value) :
      Use ours first ((Operation.execute text parameters).apply store).2
  | query {first store : Store} (before : Use ours first store) (text : String)
      (parameters : List Value) :
      Use ours first ((Operation.query text parameters).apply store).2
  | tableExists {first store : Store} (before : Use ours first store) (name : String) :
      Use ours first ((Operation.tableExists name).apply store).2
  | createTable {first store : Store} (before : Use ours first store) (table : Table) :
      Use ours first ((Operation.createTable table).apply store).2
  | createDatabase {first store : Store} (before : Use ours first store) (schema : Schema)
      (initializer : Operation Unit)
      (initialized : ∀ created,
        (Operation.begin >>= fun _ => Operation.createTables schema).apply store =
          (.ok (), created) →
        Use ours created (initializer.apply created).2) :
      Use ours first (Operation.apply (Operation.createDatabase schema initializer) store).2
  | add {first store : Store} (before : Use ours first store) {model : Model}
      (handle : Handle model) (entity : Entity model) :
      Use ours first (store.add handle entity).2
  | update {first store : Store} (before : Use ours first store) {model : Model}
      (handle : Handle model) (entity : Entity model) :
      Use ours first (store.update handle entity).2
  | remove {first store : Store} (before : Use ours first store) {model : Model}
      (handle : Handle model) (key : Key) :
      Use ours first ((Operation.remove handle key).apply store).2
  | findOne {first store : Store} (before : Use ours first store) {model : Model}
      (handle : Handle model) (key : Key) :
      Use ours first ((Operation.findOne handle key).apply store).2
  | find {first store : Store} (before : Use ours first store) {model : Model}
      (handle : Handle model) (request : Request) :
      Use ours first ((Operation.find handle request).apply store).2
  | count {first store : Store} (before : Use ours first store) {model : Model}
      (handle : Handle model) (request : Request) :
      Use ours first ((Operation.count handle request).apply store).2
  | search {first store : Store} (before : Use ours first store) {model : Model}
      (handle : Handle model) (request : Request) :
      Use ours first ((Operation.search handle request).apply store).2
  | elsewhere {first store : Store} (before : Use ours first store) (host : Host)
      (apart : ∀ number location, ours number → host.disk.HasOf number location →
        store.host.disk.HasOf number location) :
      Use ours first { store with host }

namespace Store

variable {ours : Nat → Prop}

/-- Whatever work does with a driver, the driver holds nothing but what its connection keeps. -/
theorem Use.holds {first last : Store} (use : Use ours first last)
    (initially : first.HoldsItsOwn ours) : last.HoldsItsOwn ours := by
  have queries : ∀ query, Operation.Keeps (HoldsItsOwn ours)
      (Operation.answering (.select query)) := fun query => Operation.answering_holds _
  induction use with
  | start => exact initially
  | connect _ taken held => exact Operation.connect_holds (held initially) taken
  | close _ held => exact Operation.close_holds _ (held initially)
  | begin _ held => exact Operation.begin_holds _ (held initially)
  | commit _ held => exact Operation.ending_holds .commit _ (held initially)
  | rollback _ held => exact Operation.ending_holds .rollback _ (held initially)
  | execute _ text parameters held =>
    exact Operation.execute_holds text parameters _ (held initially)
  | query _ text parameters held => exact Operation.query_holds text parameters _ (held initially)
  | tableExists _ name held => exact Operation.table_exists_holds name _ (held initially)
  | createTable _ table held => exact Operation.create_table_holds table _ (held initially)
  | createDatabase _ schema initializer _ held initialized =>
    exact Operation.create_database_holds schema initializer (held initially) initialized
  | add _ handle entity held => exact add_holds handle entity (held initially)
  | update _ handle entity held => exact update_holds handle entity (held initially)
  | remove _ handle key held => exact Operation.remove_holds handle key _ (held initially)
  | findOne _ handle key held =>
    exact Operation.find_one_keeps queries handle key _ (held initially)
  | find _ handle request held =>
    exact Operation.find_keeps queries handle request _ (held initially)
  | count _ handle request held =>
    exact Operation.count_keeps queries handle request _ (held initially)
  | search _ handle request held =>
    exact Operation.search_keeps queries handle request _ (held initially)
  | elsewhere _ host apart held =>
    exact ⟨(held initially).taken, fun number location own has =>
      (held initially).nothingElse number location own (apart number location own has)⟩

end Store

/-! ### The way out -/

namespace Operation

variable {α : Type}

/-- What is committed to the files of a store is as some databases say. -/
def Commits (files : String → Database) (store : Store) : Prop :=
  ∀ path, (store.host.disk.volume (.file path)).content = files path

variable {files : String → Database}

/-- Counting a call leaves what is committed. -/
theorem called_commits {store : Store} (commits : Commits files store) :
    Commits files store.called := commits

/-- Disconnecting leaves what is committed to files. -/
theorem disconnected_commits {store : Store} (commits : Commits files store) :
    Commits files store.disconnected := by
  intro path
  unfold Store.disconnected
  split
  · exact commits path
  · rename_i connection _
    exact (Access.close_content ⟨connection, store.host.disk⟩ path).trans (commits path)

/-- Rolling back commits nothing, whatever comes of it. -/
theorem rollback_commits : Keeps (Commits files) rollback := by
  intro store commits
  cases opened : store.driver.connection with
  | none => rwa [rollback, ending_closed _ opened]
  | some connection =>
    cases flag : store.driver.inTransaction with
    | false => rwa [rollback, ending_unflagged _ opened flag]
    | true =>
      obtain ⟨left, -, ended⟩ := ending_flagged .rollback opened flag
      rw [rollback, ended]
      intro path
      refine Eq.trans ?_ (commits path)
      rcases answering_cases .rollback opened with ⟨outage, -, ran⟩ | ⟨execution, -, ran⟩
      · rw [ran]
        change (Disk.volume (Access.struck _ outage _).access.disk _).content = _
        unfold Access.struck
        split
        · exact Access.ended_content _ _
        · rfl
      · rw [ran]
        change (Disk.volume (Access.runRollback _).access.disk _).content = _
        unfold Access.runRollback
        split
        · rfl
        · exact Access.ended_content _ _

/-- A rollback that may fail commits nothing. -/
theorem try_rollback_commits : Keeps (Commits files) tryRollback := by
  intro store commits
  simp only [tryRollback, apply_of]
  split
  · exact rollback_commits store commits
  · exact commits

/-- Closing commits nothing. -/
theorem close_commits : Keeps (Commits files) close := by
  have gives : Keeps (Commits files) disconnect := by
    intro store commits
    simp only [disconnect, apply_of]
    split
    · exact commits
    · exact disconnected_commits (called_commits commits)
  refine .bind .require_connection fun _ => .bind .get fun store => ?_
  split
  · exact .bind rollback_commits fun _ => gives
  · exact gives

/-- A driver that cannot be connected leaves the disk as it was. -/
theorem connect_refused {store after : Store} {problem : StoreError}
    (refused : connect.apply store = (.error problem, after)) :
    after.host.disk = store.host.disk := by
  simp only [connect, apply_of] at refused
  split at refused
  · cases refused
    rfl
  · split at refused
    · cases refused
      rfl
    · split at refused
      · cases refused
        rfl
      · cases refused

/-- The store on the way out of work that ended in some way. -/
def leaving (result : Except StoreError α) (worked : Store) : Except StoreError α × Store :=
  match result with
  | .error problem => (.error problem, (close.apply (tryRollback.apply worked).2).2)
  | .ok answer =>
    if worked.driver.isConnected then
      ((close.apply worked).1.map fun _ => answer, (close.apply worked).2)
    else (.ok answer, worked)

/-- What rolling back and closing keep is kept on the way out of work, however it ended. -/
theorem leaving_keeps {Invariant : Store → Prop} (rollsBack : Keeps Invariant tryRollback)
    (closes : Keeps Invariant close) (result : Except StoreError α) {worked : Store}
    (holds : Invariant worked) : Invariant (leaving result worked).2 := by
  unfold leaving
  split
  · exact closes _ (rollsBack _ holds)
  · split
    · exact closes _ holds
    · exact holds

end Operation

open Operation

variable {α : Type}

/-- Work with a driver of its own is done between connecting and leaving, whatever the work does
beside. -/
theorem on_own_driver_run {m : Type → Type} [Monad m] [LawfulMonad m] {config : Config}
    {driver : Driver} (made : Driver.new config = .ok driver) (work : OperationT m α)
    (host : Host) : ((onOwnDriver config work).run).run host =
      match connect.apply ⟨driver, host⟩ with
      | (.error problem, store) => pure (.error problem, store.host)
      | (.ok _, opened) => do
        let (result, worked) ← (work.run).run opened
        return ((leaving result worked).1, (leaving result worked).2.abandoned.host) := by
  simp only [onOwnDriver, ExceptT.run_mk, made]
  change (match connect.apply ⟨driver, host⟩ with
    | (.error problem, store) => _
    | (.ok _, store) => _ : m _) = _
  rcases connect.apply ⟨driver, host⟩ with ⟨problem | ⟨⟩, store⟩
  · rfl
  · simp only
    refine bind_congr fun left => ?_
    obtain ⟨result, worked⟩ := left
    unfold leaving
    cases result with
    | error problem => rfl
    | ok answer =>
      simp only
      split <;> rfl

/-- Work that answers fails if its driver is open and cannot be closed. -/
theorem leaving_refused {answer : α} {worked : Store} {problem : StoreError}
    (isOpen : worked.driver.isConnected = true)
    (refused : (close.apply worked).1 = .error problem) :
    (leaving (.ok answer) worked).1 = .error problem := by
  simp only [leaving, isOpen, if_true, refused]
  rfl

/-- It is answered exactly if it answers and its driver is closed by then or can be closed. -/
theorem leaving_ok_iff {result : Except StoreError α} {worked : Store} {answer : α} :
    (leaving result worked).1 = .ok answer ↔ result = .ok answer ∧
      (worked.driver.isConnected = true → (close.apply worked).1 = .ok ()) := by
  cases result with
  | error problem => simp [leaving]
  | ok given =>
    cases isOpen : worked.driver.isConnected with
    | false => simp [leaving, isOpen]
    | true =>
      simp only [leaving, isOpen, if_true, forall_const]
      cases (close.apply worked).1 with
      | error problem => simp [Except.map]
      | ok _ => simp [Except.map]

/-- Work that is given a driver of its own leaves nothing of it behind. If the driver cannot be
connected, that is answered and the disk is as it was. Otherwise, however the work ended, in or out
of a transaction, with the driver open or closed: nothing is left of any connection that the driver
took, and what is committed to the files is what was committed when the work ended, so that a new
connection sees that and nothing else. If the work failed its failure is answered, whatever comes of
rolling back and closing. What it answers is answered exactly if the driver was closed by then or
could be closed.

Proof: connecting takes one hold, the work keeps to the connections that it takes, and the way out
of it rolls back and closes, neither of which commits anything. What is left on the disk is
therefore what the work has committed. -/
theorem own_driver_is_given_back {config : Config} {driver : Driver} {host : Host}
    {work : Operation α} {ours : Nat → Prop} (made : Driver.new config = .ok driver)
    (fresh : ∀ number location, ours number → ¬ host.disk.HasOf number location)
    (taken : ours host.disk.connections)
    (uses : ∀ opened, connect.apply ⟨driver, host⟩ = (.ok (), opened) →
      Store.Use ours opened (work.apply opened).2) :
    let done : Except StoreError α × Host := ((onOwnDriver config work).run).run host
    (∀ problem left, connect.apply ⟨driver, host⟩ = (.error problem, left) →
      done.1 = .error problem ∧ done.2.disk = host.disk) ∧
    ∀ opened, connect.apply ⟨driver, host⟩ = (.ok (), opened) →
      let result := (work.apply opened).1
      let worked := (work.apply opened).2
      (∀ number location, ours number → ¬ done.2.disk.HasOf number location) ∧
      (∀ path, (done.2.disk.volume (.file path)).content =
        (worked.host.disk.volume (.file path)).content) ∧
      (∀ path access, done.2.disk.connect (some path) = .ok access →
        access.connection.location = .file path →
        access.visible = (worked.host.disk.volume (.file path)).content) ∧
      (∀ problem, result = .error problem → done.1 = .error problem) ∧
      (∀ answer problem, result = .ok answer → worked.driver.isConnected = true →
        (close.apply worked).1 = .error problem → done.1 = .error problem) ∧
      ∀ answer, done.1 = .ok answer ↔ result = .ok answer ∧
        (worked.driver.isConnected = true → (close.apply worked).1 = .ok ()) := by
  intro done
  have ran : done = _ := on_own_driver_run made work host
  refine ⟨fun problem left refused => ?_, fun opened connected => ?_⟩
  · rw [refused] at ran
    rw [ran]
    exact ⟨rfl, connect_refused refused⟩
  · intro result worked
    rw [connected] at ran
    have left : done = ((leaving result worked).1, (leaving result worked).2.abandoned.host) := ran
    have closed : driver.connection = none := by rw [Driver.new_ok made]
    have initially : Store.HoldsItsOwn ours ⟨driver, host⟩ :=
      ⟨fun connection opened => (by cases closed.symm.trans opened),
        fun number location own has => (fresh number location own has).elim⟩
    have openedHolds : opened.HoldsItsOwn ours := by
      have kept := connect_holds initially taken
      rwa [connected] at kept
    have held := leaving_keeps try_rollback_holds close_holds result
      ((uses opened connected).holds openedHolds)
    have contents : ∀ path, (done.2.disk.volume (.file path)).content =
        (worked.host.disk.volume (.file path)).content := by
      rw [left]
      exact disconnected_commits (leaving_keeps try_rollback_commits close_commits result fun _ =>
        rfl)
    refine ⟨?_, contents, fun path access reconnected located => ?_, ?_, ?_, ?_⟩
    · rw [left]
      exact held.disconnected
    · obtain ⟨-, -, idle, volumes⟩ := Disk.connect_ok reconnected
      rw [Access.visible_of_idle idle, Access.volume, located, volumes]
      exact contents path
    · intro problem failed
      rw [left, failed]
      rfl
    · intro answer problem answered isOpen refused
      rw [left, answered]
      exact leaving_refused isOpen refused
    · intro answer
      rw [left]
      exact leaving_ok_iff

/-! ### Work that leaves its driver in the middle of something -/

namespace Workshop

/-- A host with a folder and nothing in it. -/
def empty : Host := { disk := { folders := ["."] } }

/-- The configuration with the file of the bench. -/
def config : Config := { dbFile := some "bench.db" }

/-- The tools on a bench. -/
def bench : Table := ⟨"bench", [{ name := "tool", type := .string }]⟩

/-- Work that creates a table, begins a transaction of which the flag of its driver says nothing,
puts a row into the table and fails. -/
def spoiled : Operation Unit := do
  let _ ← Operation.attempt (Operation.createTable bench)
  let _ ← Operation.attempt (Operation.query "BEGIN" [])
  let _ ← Operation.attempt (Operation.query "INSERT INTO bench VALUES ('saw')" [])
  throw .unaffectedRows

/-- A store that was just opened over the file. -/
def opened : Store := (Operation.connect.apply ⟨{ config }, empty⟩).2

/-- The driver connects to the file. -/
theorem opened_connected : Operation.connect.apply ⟨{ config }, empty⟩ = (.ok (), opened) := rfl

/-- The work fails. -/
theorem spoiled_fails : (spoiled.apply opened).1 = .error .unaffectedRows := rfl

/-- The work is one use of the driver after the other. -/
theorem spoiled_uses (store : Store) : Store.Use (fun _ => True) store (spoiled.apply store).2 :=
  (((Store.Use.start store).createTable bench).query "BEGIN" []).query
    "INSERT INTO bench VALUES ('saw')" []

end Workshop

open Workshop in
/-- The row that spoiled work had put into its table is gone with the connection, and the table that
it had committed stays. Its own failure is what is answered. -/
theorem own_driver_is_given_back_spoiled :
    let worked := (spoiled.apply opened).2
    let done : Except StoreError Unit × Host := ((onOwnDriver config spoiled).run).run empty
    (worked.driver.inTransaction = false ∧ worked.driver.engineInTransaction = true ∧
      (worked.visible.relation? "bench").map (·.rows.length) = some 1) ∧
    done.1 = .error .unaffectedRows ∧
    (∀ number location, ¬ done.2.disk.HasOf number location) ∧
    ((done.2.disk.volume (.file "bench.db")).content.relation? "bench").map (·.rows.length) =
      some 0 := by
  intro worked done
  have nothing : ∀ number location, True → ¬ empty.disk.HasOf number location := by
    rintro number location - (held | ⟨rfl, stands⟩)
    · exact held rfl
    · exact stands rfl
  have made : Driver.new config = .ok { config } := rfl
  have uses : ∀ opened, Operation.connect.apply ⟨{ config }, empty⟩ = (.ok (), opened) →
      Store.Use (fun _ => True) opened (spoiled.apply opened).2 := fun opened _ =>
        spoiled_uses opened
  obtain ⟨-, given⟩ := own_driver_is_given_back made nothing trivial uses
  obtain ⟨gone, committed, -, fails, -⟩ := given opened opened_connected
  refine ⟨?_, fails _ spoiled_fails, fun number location => gone number location trivial, ?_⟩
  · decide +kernel
  · rw [committed]
    decide +kernel

end RecordStore
