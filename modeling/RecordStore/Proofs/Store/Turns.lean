import RecordStore.Proofs.Engine.Views
import RecordStore.Proofs.Store.Tables

/-!
# What calls come to

A call that begins a transaction or takes one back commits nothing. A commit commits what is seen,
or it fails and commits nothing. An addition, an update or a removal makes one change of the
database that is seen at most; where the change is not made, what is seen stays, or it is taken back
together with the transaction in which it was.
-/

namespace RecordStore

open Engine Sql

namespace Store

/-- What can be told of the databases of a store. -/
def view (store : Store) : View :=
  ⟨store.visible, store.committed, !store.driver.engineInTransaction⟩

/-- The view says whether the engine has a transaction open. -/
theorem view_is_open (store : Store) : (!store.view.isIdle) = store.driver.engineInTransaction := by
  simp [view]

/-- Outside of transactions a store shows what is committed. -/
theorem visible_of_no_transaction {store : Store}
    (idle : store.driver.engineInTransaction = false) : store.visible = store.committed := by
  cases opened : store.driver.connection with
  | none => simp [visible, committed, access?, opened]
  | some connection =>
    rw [visible_of_connection opened, committed_of_connection opened]
    refine Access.visible_of_idle ?_
    simpa [Driver.engineInTransaction, opened, Connection.isIdle] using idle

/-- The view of an open store is that of its access. -/
theorem view_of_connection {store : Store} {connection : Connection}
    (opened : store.driver.connection = some connection) :
    store.view = Access.view ⟨connection, store.host.disk⟩ := by
  simp [view, Access.view, visible_of_connection opened, committed_of_connection opened,
    Driver.engineInTransaction, opened]

/-- Behind a use the view is that of the access. -/
theorem used_view (store : Store) (access : Access) (execution : Execution) :
    (store.used access execution).view = access.view := by
  simp [view, Access.view, used_visible, used_committed, used_engine_in_transaction]

/-- What others do on a host leaves the view that a store has, as long as what is committed
stays. -/
theorem view_elsewhere {store : Store} (host : Host)
    (kept : ({ store with host } : Store).committed = store.committed) :
    ({ store with host } : Store).view = store.view := by
  rw [view, view, visible_elsewhere host kept, kept]

/-- The number that the engine gave last to a row on the connection of a store. -/
def lastNumber? (store : Store) : Option Int64 :=
  store.driver.connection.map Connection.lastNumber

/-- Between two stores a change of what was seen was made: what it made is seen, and the number of
the row that it put in last is the one that was given last. -/
structure Makes (store after : Store) (change : Change Stored) (effect : Effect) : Prop where
  done : store.visible.change (change.mapOperands Stored.bound) = .ok effect
  puts : store.view.Puts after.view effect.database
  last : ∀ number, effect.lastNumber = some number → after.lastNumber? = some number

/-- Between two stores one change of a kind was made at most. -/
def Turns (store : Store) (kind : Change Stored → Prop) (after : Store) : Prop :=
  store.view.Withholds after.view ∨ ∃ change effect, kind change ∧ store.Makes after change effect

end Store

namespace Operation

/-! ### Transactions -/

/-- Beginning a transaction commits nothing. -/
theorem begin_withholds (store : Store) : store.view.Withholds (begin.apply store).2.view := by
  cases opened : store.driver.connection with
  | none =>
    rw [begin_closed opened]
    exact .refl store.view
  | some connection =>
    cases flag : store.driver.inTransaction with
    | true =>
      rw [begin_flagged opened flag]
      exact .refl store.view
    | false =>
      have asked : (begin.apply store).2.view =
          ((answering (.begin .deferred)).apply store).2.view := by
        rw [begin_unflagged opened flag]
        rcases (answering (.begin .deferred)).apply store with ⟨problem | answer, after⟩ <;> rfl
      rw [asked, Store.view_of_connection opened]
      rcases answering_cases (.begin .deferred) opened with ⟨outage, -, ran⟩ | ⟨execution, -, ran⟩
      · rw [ran, Store.used_view]
        exact Access.struck_withholds _ _ _
      · rw [ran, Store.used_view]
        exact Access.run_begin_withholds _

/-- The end of a transaction fails before the engine is asked and commits nothing, or comes to what
the engine answers. -/
theorem ending_turns (statement : Statement Stored) (store : Store) :
    ((∃ problem, ((ending statement).apply store).1 = .error problem) ∧
      store.view.Withholds ((ending statement).apply store).2.view) ∨
    ∃ access : Access, store.view = access.view ∧
      ((ending statement).apply store).1 = ((access.run statement).answer.mapError
        fun fault => StoreError.engine fault statement.render).map (fun _ => ()) ∧
      ((ending statement).apply store).2.view = (access.run statement).access.view := by
  cases opened : store.driver.connection with
  | none =>
    rw [ending_closed statement opened]
    exact .inl ⟨⟨_, rfl⟩, .refl store.view⟩
  | some connection =>
    cases flag : store.driver.inTransaction with
    | false =>
      rw [ending_unflagged statement opened flag]
      exact .inl ⟨⟨_, rfl⟩, .refl store.view⟩
    | true =>
      obtain ⟨left, -, ended⟩ := ending_flagged statement opened flag
      rw [ended, Store.view_of_connection opened]
      rcases answering_cases statement opened with ⟨outage, -, ran⟩ | ⟨execution, -, ran⟩
      · rw [ran]
        refine .inl ⟨⟨_, rfl⟩, ?_⟩
        change View.Withholds _ (store.used _ _).view
        rw [Store.used_view]
        exact Access.struck_withholds _ _ _
      · rw [ran]
        exact .inr ⟨_, rfl, rfl, Store.used_view _ _ _⟩

/-- A rollback commits nothing. -/
theorem rollback_withholds (store : Store) :
    store.view.Withholds (rollback.apply store).2.view := by
  rcases ending_turns .rollback store with ⟨-, withholds⟩ | ⟨access, same, -, view⟩
  · exact withholds
  · rw [rollback, same, view]
    exact access.run_rollback_withholds

/-- A commit that is answered commits what is seen, and one that fails commits nothing. -/
theorem commit_turns (store : Store) :
    ((commit.apply store).1 = .ok () ∧ store.view.Concludes (commit.apply store).2.view) ∨
    ((∃ problem, (commit.apply store).1 = .error problem) ∧
      store.view.Withholds (commit.apply store).2.view) := by
  rcases ending_turns .commit store with failed | ⟨access, same, result, view⟩
  · exact .inr failed
  · rw [commit, same, result, view]
    rcases access.run_commit_cases with ⟨answered, concludes⟩ | ⟨fault, refused, withholds⟩
    · exact .inl ⟨by rw [answered]; rfl, concludes⟩
    · exact .inr ⟨⟨_, by rw [refused]; rfl⟩, withholds⟩

/-! ### Changes -/

/-- A change fails on a driver that is closed, in an outage, or because the engine refuses it. -/
theorem executing_error {change : Change Stored} {store after : Store} {problem : StoreError}
    (failed : (executing (.change change)).apply store = (.error problem, after)) :
    (problem = notConnected ∧ after = store) ∨
    ∃ connection fault, store.driver.connection = some connection ∧
      problem = .engine fault (Statement.change change).render ∧
      ((∃ outage, store.host.outage? = some outage ∧ fault = outage.fault ∧
          after.view = store.view) ∨
        (Access.run ⟨connection, store.host.disk⟩ (.change change)).answer = .error fault ∧
          after.view =
            (Access.run ⟨connection, store.host.disk⟩ (.change change)).access.view) := by
  rcases on_connection_error failed with closed | ⟨connection, fault, opened, which,
    ⟨outage, execution, strikes, same, rfl⟩ | ⟨refused, execution, rfl⟩⟩
  · exact .inl closed
  · refine .inr ⟨connection, fault, opened, which, .inl ⟨outage, strikes, same, ?_⟩⟩
    rw [Store.used_view, Store.view_of_connection opened]
    rfl
  · refine .inr ⟨connection, fault, opened, which, .inr ⟨?_, ?_⟩⟩
    · rcases Access.run_of_change_turns ⟨connection, store.host.disk⟩ change with
        ⟨other, answered, -⟩ | ⟨effect, -, answered, -⟩
      · rw [Access.counted_error answered] at refused
        cases refused
        exact answered
      · rw [Access.counted, answered] at refused
        cases refused
    · rw [Store.used_view, counted_access]

/-- A change that fails commits nothing, and one that is answered is made. -/
theorem executing_turns (change : Change Stored) (store : Store) :
    ((∃ problem, ((executing (.change change)).apply store).1 = .error problem) ∧
      store.view.Withholds ((executing (.change change)).apply store).2.view) ∨
    ∃ effect, store.Makes ((executing (.change change)).apply store).2 change effect := by
  rcases on_connection_cases (Statement.change change).render
    (Statement.change change).endsTransaction
    (fun access => Access.counted (access.run (.change change))) store with
    ⟨-, ran⟩ | ⟨connection, opened, ⟨outage, -, ran⟩ | ⟨execution, -, ran⟩⟩
  · rw [executing, ran]
    exact .inl ⟨⟨_, rfl⟩, .refl store.view⟩
  · rw [executing, ran, Store.used_view, Store.view_of_connection opened]
    exact .inl ⟨⟨_, rfl⟩, Access.struck_withholds _ _ _⟩
  · rw [executing, ran, counted_access]
    rcases Access.run_of_change_turns ⟨connection, store.host.disk⟩ change with
      ⟨fault, refused, withholds⟩ | ⟨effect, done, answered, puts⟩
    · refine .inl ⟨⟨_, by rw [Access.counted_error refused]; rfl⟩, ?_⟩
      rw [Store.used_view, Store.view_of_connection opened]
      exact withholds
    · obtain ⟨made, doneToo, -, -, last, -⟩ := Access.run_change_ok answered
      cases done.symm.trans doneToo
      refine .inr ⟨effect, ?_, ?_, fun number given => congrArg some (last number given)⟩
      · rw [Store.visible_of_connection opened]
        exact done
      · rw [Store.used_view, Store.view_of_connection opened]
        exact puts

/-- Executing a change makes at most one change of its kind. -/
theorem executing_turns_as {kind : Change Stored → Prop} {change : Change Stored}
    (which : kind change) (store : Store) :
    store.Turns kind ((executing (.change change)).apply store).2 := by
  rcases executing_turns change store with ⟨-, withholds⟩ | ⟨effect, makes⟩
  · exact .inl withholds
  · exact .inr ⟨change, effect, which, makes⟩

/-- What only goes on if something can be made comes to what goes on at most. -/
theorem of_except_turns {α β : Type} {made : Except StoreError α} {next : α → Operation β}
    {store : Store} {kind : Change Stored → Prop}
    (turns : ∀ value, store.Turns kind ((next value).apply store).2) :
    store.Turns kind ((ofExcept made >>= next).apply store).2 := by
  rw [apply_bind, apply_of_except]
  cases made with
  | error problem => exact .inl (.refl store.view)
  | ok value => exact turns value

/-- A removal makes at most one deletion. -/
theorem remove_turns {model : Model} (handle : Handle model) (key : Key) (store : Store) :
    store.Turns (fun change => ∃ condition, change = handle.table.deletion condition)
      ((remove handle key).apply store).2 :=
  of_except_turns fun _ => of_except_turns fun condition =>
    executing_turns_as ⟨condition, rfl⟩ store

end Operation

namespace Store

variable {model : Model}

/-- Writing a row over makes at most one update. -/
theorem overwrite_turns (table : Table) (criteria : Criteria) (row : List (String × Stored))
    (store : Store) :
    store.Turns (fun change => ∃ condition, change = table.modification row condition)
      ((overwrite table criteria row).apply store).2 :=
  Operation.overwrite_ends_in (.inl (.refl store.view)) fun condition _ =>
    Operation.executing_turns_as ⟨condition, rfl⟩ store

/-- An update writes a row that was drawn from the entity. -/
theorem update_turns (handle : Handle model) (entity : Entity model) (store : Store) :
    store.Turns (fun change => ∃ count row condition,
      (entity.row handle.table true count).outcome = .ok row ∧
        change = handle.table.modification row condition) (store.update handle entity).2 := by
  refine update_ends_in (.inl (.refl store.view)) (.inl (.refl store.view))
    fun criteria row _ drawn => ?_
  rcases overwrite_turns handle.table criteria row
    (store.withCount (entity.row handle.table true store.host.count).count) with
    withholds | ⟨_, effect, ⟨condition, rfl⟩, makes⟩
  · exact .inl withholds
  · exact .inr ⟨_, effect, ⟨_, row, condition, drawn, rfl⟩, makes.done, makes.puts, makes.last⟩

/-- So does an addition, which otherwise fails and commits nothing. -/
theorem add_turns (handle : Handle model) (entity : Entity model) (store : Store) :
    ((∃ problem, (store.add handle entity).1.outcome = .error problem) ∧
      store.view.Withholds (store.add handle entity).2.view) ∨
    ∃ count row effect, (entity.row handle.table false count).outcome = .ok row ∧
      store.Makes (store.add handle entity).2 (handle.table.insertion row) effect := by
  rcases store.add_cases handle entity with
    ⟨problem, -, ended⟩ | ⟨row, drawn, ⟨problem, after, ran, ended⟩ | ⟨count, after, ran, ended⟩⟩
  · rw [ended]
    exact .inl ⟨⟨problem, rfl⟩, .refl store.view⟩
  all_goals
    have turns := Operation.executing_turns (handle.table.insertion row)
      (store.withCount (entity.row handle.table false store.host.count).count)
    rw [ran] at turns
    rw [ended]
  · rcases turns with ⟨-, withholds⟩ | ⟨effect, makes⟩
    · exact .inl ⟨⟨problem, rfl⟩, withholds⟩
    · exact .inr ⟨_, row, effect, drawn, makes.done, makes.puts, makes.last⟩
  · rcases turns with ⟨⟨_, refused⟩, -⟩ | ⟨effect, makes⟩
    · cases refused
    · exact .inr ⟨_, row, effect, drawn, makes.done, makes.puts, makes.last⟩

/-- An addition that is answered has put a row in. -/
theorem add_makes {handle : Handle model} {entity saved : Entity model} {store after : Store}
    (added : store.add handle entity = (⟨saved, .ok ()⟩, after)) :
    ∃ count row effect, (entity.row handle.table false count).outcome = .ok row ∧
      store.Makes after (handle.table.insertion row) effect := by
  have turns := store.add_turns handle entity
  rw [added] at turns
  rcases turns with ⟨⟨problem, failed⟩, -⟩ | makes
  · cases failed
  · exact makes

end Store

end RecordStore
