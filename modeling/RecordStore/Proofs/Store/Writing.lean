import RecordStore.Proofs.Store.FreshTables

/-!
# Stores that are written to

Additions, updates, removals and the caller's own changes all reach the engine as changes that it
has checked, so each of them keeps a table soundly kept that has a key, in what the store shows and
in what is committed. So does a whole run of them, in transactions or out of them.
-/

namespace RecordStore

open Engine Sql

/-! ### Changes that were checked -/

namespace Engine.Access

/-- A change that is run was refused, or checked and run with the values of its operands. -/
theorem run_of_change_cases (access : Access) (change : Change Stored) :
    (∃ fault, access.run (.change change) = ⟨access, .error fault⟩) ∨
      FillsFound access.visible (change.mapOperands Stored.bound) ∧
        access.run (.change change) = access.runChange (change.mapOperands Stored.bound) := by
  unfold run
  simp only [Statement.mapOperands]
  cases checked : access.check (.change (change.mapOperands Stored.bound)) with
  | error fault => exact .inl ⟨fault, rfl⟩
  | ok _ =>
    obtain ⟨⟨⟩, checkedStep, -⟩ := bind_ok checked
    exact .inr ⟨fills_found_of_checked Stored.bound checkedStep, rfl⟩

/-- So is a change that is read from a text. -/
theorem run_text_change_cases (access : Access) {text : String} {read : ReadStatement}
    {step : Change Term} (parsed : Sql.parse text = .ok read)
    (changes : read.statement = .change step) (parameters : List Stored) :
    (∃ fault, access.runText text parameters = ⟨access, .error fault⟩) ∨
      ∃ change, FillsFound access.visible change ∧
        access.runText text parameters = access.runChange change := by
  have means : ∀ values, read.withParameters values =
      .change (step.mapOperands (Term.value (values.map Stored.bound))) := by
    intro values
    rw [ReadStatement.withParameters, changes]
    rfl
  unfold runText
  rw [parsed]
  simp only [bind, Except.bind]
  cases prepared : access.prepare read with
  | error fault => exact .inl ⟨fault, rfl⟩
  | ok _ =>
    cases read.requireParameters parameters.length with
    | error fault => exact .inl ⟨fault, rfl⟩
    | ok _ =>
      have plain : read.hasTriggerParameters = false := by
        simp [ReadStatement.hasTriggerParameters, changes]
      rw [prepare, plain, means] at prepared
      obtain ⟨⟨⟩, checkedStep, -⟩ := bind_ok prepared
      refine .inr ⟨_, fills_found_of_checked (Term.value (parameters.map Stored.bound))
        checkedStep, ?_⟩
      simp only [pure, Except.pure, means]
      rfl

end Engine.Access

variable {table : Table}

/-- A change that was checked keeps a table soundly kept, if anything new is to be seen. -/
theorem Table.IsSoundlyKept.run_change {access : Access} {change : Change Stored}
    (keyed : table.primaryKey ≠ []) (kept : table.IsSoundlyKept access.visible)
    (fills : FillsFound access.visible change) :
    access.Settles (access.runChange change).access ∨ ∃ database, table.IsSoundlyKept database ∧
      access.Makes (access.runChange change).access database := by
  rcases access.run_change_sight change with settles | ⟨effect, done, makes⟩
  · exact .inl settles
  · exact .inr ⟨effect.database, kept.change keyed fills done, makes⟩

/-! ### Calls -/

namespace Operation

variable (keyed : table.primaryKey ≠ [])

include keyed

/-- A change leaves the table kept soundly. -/
theorem executing_sound (change : Change Stored) :
    Keeps (Store.Shows table.IsSoundlyKept) (executing (.change change)) := by
  intro store sound
  refine on_connection_shows _ _ sound fun connection execution opened _ => ?_
  rw [counted_access]
  rcases Access.run_of_change_cases ⟨connection, store.host.disk⟩ change with
    ⟨fault, refused⟩ | ⟨fills, ran⟩
  · rw [refused]
    exact .inl (.refl _)
  · rw [ran]
    exact Table.IsSoundlyKept.run_change keyed
      (Store.visible_of_connection opened ▸ sound.2.1) fills

/-- So does a change that the caller has written. -/
theorem executing_text_sound {text : String} {read : ReadStatement} {step : Change Term}
    (parsed : Sql.parse text = .ok read) (changes : read.statement = .change step)
    (parameters : List Stored) :
    Keeps (Store.Shows table.IsSoundlyKept) (executingText text parameters) := by
  intro store sound
  refine on_connection_shows _ _ sound fun connection execution opened _ => ?_
  rw [counted_access]
  rcases Access.run_text_change_cases ⟨connection, store.host.disk⟩ parsed changes parameters with
    ⟨fault, refused⟩ | ⟨change, fills, ran⟩
  · rw [refused]
    exact .inl (.refl _)
  · rw [ran]
    exact Table.IsSoundlyKept.run_change keyed
      (Store.visible_of_connection opened ▸ sound.2.1) fills

/-- The caller's own changes keep a table soundly kept. -/
theorem execute_sound {text : String} {read : ReadStatement} {step : Change Term}
    (parsed : Sql.parse text = .ok read) (changes : read.statement = .change step)
    (parameters : List Value) :
    Keeps (Store.Shows table.IsSoundlyKept) (execute text parameters) :=
  .bind (.attempt (executing_text_sound keyed parsed changes _)) fun result =>
    .bind sync_transaction_shows fun _ => .of_except result

/-- A removal leaves the table kept soundly. -/
theorem remove_sound {model : Model} (handle : Handle model) (key : Key) :
    Keeps (Store.Shows table.IsSoundlyKept) (remove handle key) :=
  .bind (.of_except _) fun _ => .bind (.of_except _) fun _ => executing_sound keyed _

end Operation

namespace Store

variable {model : Model} {store : Store} (keyed : table.primaryKey ≠ [])
  (sound : store.Shows table.IsSoundlyKept)

include keyed sound

/-- An addition leaves the table kept soundly. -/
theorem add_sound (handle : Handle model) (entity : Entity model) :
    (store.add handle entity).2.Shows table.IsSoundlyKept :=
  add_ends_in sound fun _ _ => Operation.executing_sound keyed _ _ sound

/-- An update leaves the table kept soundly. -/
theorem update_sound (handle : Handle model) (entity : Entity model) :
    (store.update handle entity).2.Shows table.IsSoundlyKept :=
  update_ends_in sound sound fun criteria _ _ _ =>
    Operation.overwrite_keeps criteria (fun _ => Operation.executing_sound keyed _) _ sound

end Store

/-! ### Runs -/

/-- What can be done to the rows of a store, the last step last: transactions, additions, updates
and removals under any handles, and changes that the caller writes. What others do on the host, and
the outages that are to come, may change at any time, as long as what is committed stays. -/
inductive Store.Writing : Store → Store → Prop where
  | start (store : Store) : Writing store store
  | begin {first store : Store} (before : Writing first store) :
      Writing first (Operation.begin.apply store).2
  | commit {first store : Store} (before : Writing first store) :
      Writing first (Operation.commit.apply store).2
  | rollback {first store : Store} (before : Writing first store) :
      Writing first (Operation.rollback.apply store).2
  | add {first store : Store} (before : Writing first store) {model : Model}
      (handle : Handle model) (entity : Entity model) : Writing first (store.add handle entity).2
  | update {first store : Store} (before : Writing first store) {model : Model}
      (handle : Handle model) (entity : Entity model) : Writing first (store.update handle entity).2
  | remove {first store : Store} (before : Writing first store) {model : Model}
      (handle : Handle model) (key : Key) :
      Writing first ((Operation.remove handle key).apply store).2
  | execute {first store : Store} (before : Writing first store) {text : String}
      {read : ReadStatement} {step : Change Term} (parsed : Sql.parse text = .ok read)
      (changes : read.statement = .change step) (parameters : List Value) :
      Writing first ((Operation.execute text parameters).apply store).2
  | elsewhere {first store : Store} (before : Writing first store) (host : Host)
      (kept : ({ store with host } : Store).committed = store.committed) :
      Writing first { store with host }

/-- A run keeps a table soundly kept that has a key. -/
theorem Store.Writing.sound {first last : Store} (keyed : table.primaryKey ≠ [])
    (writing : first.Writing last) (initially : first.Shows table.IsSoundlyKept) :
    last.Shows table.IsSoundlyKept := by
  induction writing with
  | start => exact initially
  | begin _ kept => exact Operation.begin_shows _ kept
  | commit _ kept => exact Operation.commit_shows _ kept
  | rollback _ kept => exact Operation.rollback_shows _ kept
  | add _ handle entity kept => exact Store.add_sound keyed kept handle entity
  | update _ handle entity kept => exact Store.update_sound keyed kept handle entity
  | remove _ handle key kept => exact Operation.remove_sound keyed handle key _ kept
  | execute _ parsed changes parameters kept =>
    exact Operation.execute_sound keyed parsed changes parameters _ kept
  | elsewhere _ host committed kept => exact kept.elsewhere host committed

end RecordStore
