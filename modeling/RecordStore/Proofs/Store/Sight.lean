import RecordStore.Proofs.Engine.Views
import RecordStore.Proofs.Store.Calls

/-!
# What a store shows

An open store shows a database, which is what its connection sees, over the one that is
committed. A call that begins or ends a transaction leaves one of the two to be seen and one of
the two committed. A change leaves the same, or what it made of the database that was seen.
Whatever holds of both databases therefore holds of both afterwards.
-/

namespace RecordStore

open Engine

namespace Engine.Access

variable {access after : Access}

/-- A step after which nothing is seen or committed that was not seen or committed before. -/
structure Settles (access after : Access) : Prop where
  seen : after.visible = access.visible ∨ after.visible = access.volume.content
  committed : after.volume.content = access.volume.content ∨
    after.volume.content = access.visible

/-- A step that does nothing shows nothing new. -/
theorem Settles.refl (access : Access) : access.Settles access := ⟨.inl rfl, .inl rfl⟩

/-- A step that commits nothing shows nothing new. -/
theorem settles_of_withholds (withholds : access.view.Withholds after.view) :
    access.Settles after := by
  cases withholds with
  | stays seen committed _ => exact ⟨.inl seen, .inl committed⟩
  | takesBack seen committed _ => exact ⟨.inr seen, .inl committed⟩

/-- A commit shows nothing new: what it commits was seen before. -/
theorem run_commit_settles (access : Access) :
    access.Settles (access.run .commit).access := by
  rcases access.run_commit_cases with ⟨-, concludes⟩ | ⟨-, -, withholds⟩
  · exact ⟨.inl concludes.seen, .inr concludes.committed⟩
  · exact settles_of_withholds withholds

/-! ### Changes -/

/-- A step after which a database is seen, and perhaps committed, that was made. -/
structure Makes (access after : Access) (database : Database) : Prop where
  seen : after.visible = database
  committed : after.volume.content = access.volume.content ∨ after.volume.content = database

/-- A step that puts a database makes it. -/
theorem makes_of_puts {database : Database} (puts : access.view.Puts after.view database) :
    access.Makes after database := by
  refine ⟨puts.seen, ?_⟩
  have committed : after.volume.content =
      if access.connection.isIdle then database else access.volume.content := puts.committed
  rw [committed]
  split
  · exact .inr rfl
  · exact .inl rfl

/-- However a change goes, nothing new is to be seen, or what it made of the database that was
seen. -/
theorem run_change_sight (access : Access) (change : Sql.Change Stored) :
    access.Settles (access.runChange change).access ∨
      ∃ effect, access.visible.change change = .ok effect ∧
        access.Makes (access.runChange change).access effect.database := by
  rcases access.run_change_turns change with ⟨-, -, withholds⟩ | ⟨effect, done, -, puts⟩
  · exact .inl (settles_of_withholds withholds)
  · exact .inr ⟨effect, done, makes_of_puts puts⟩

end Engine.Access

namespace Store

/-- The connection of a store with the disk on which it works. -/
def access? (store : Store) : Option Access :=
  store.driver.connection.map fun connection => ⟨connection, store.host.disk⟩

/-- The database that a store shows; a closed store shows an empty one. -/
def visible (store : Store) : Database := (store.access?.map Access.visible).getD {}

/-- The committed database that a store shows. -/
def committed (store : Store) : Database :=
  (store.access?.map fun access => access.volume.content).getD {}

/-- An open store of which something holds of both of its databases. -/
def Shows (Property : Database → Prop) (store : Store) : Prop :=
  store.driver.isConnected = true ∧ Property store.visible ∧ Property store.committed

/-- The access of an open store is its connection over its disk. -/
theorem access?_of_connection {store : Store} {connection : Connection}
    (opened : store.driver.connection = some connection) :
    store.access? = some ⟨connection, store.host.disk⟩ := by
  simp [access?, opened]

/-- An open store shows what the access sees. -/
theorem visible_of_connection {store : Store} {connection : Connection}
    (opened : store.driver.connection = some connection) :
    store.visible = Access.visible ⟨connection, store.host.disk⟩ := by
  simp [visible, access?_of_connection opened]

/-- What is committed in an open store is the content of its volume. -/
theorem committed_of_connection {store : Store} {connection : Connection}
    (opened : store.driver.connection = some connection) :
    store.committed = (⟨connection, store.host.disk⟩ : Access).volume.content := by
  simp [committed, access?_of_connection opened]

/-- What others do on a host shows in a store by what is committed. -/
theorem visible_elsewhere {store : Store} (host : Host)
    (kept : ({ store with host } : Store).committed = store.committed) :
    ({ store with host } : Store).visible = store.visible := by
  cases opened : store.driver.connection with
  | none => simp [visible, access?, opened]
  | some connection =>
    have openedThere : ({ store with host } : Store).driver.connection = some connection := opened
    rw [committed_of_connection opened, committed_of_connection openedThere] at kept
    rw [visible_of_connection opened, visible_of_connection openedThere]
    exact congrArg (Option.getD _) kept

/-- What holds of both databases holds of them whatever others do, as long as what is committed
stays. -/
theorem Shows.elsewhere {Property : Database → Prop} {store : Store} (host : Host)
    (kept : ({ store with host } : Store).committed = store.committed)
    (shows' : store.Shows Property) : ({ store with host } : Store).Shows Property := by
  refine ⟨shows'.1, ?_, kept ▸ shows'.2.2⟩
  rw [visible_elsewhere host kept]
  exact shows'.2.1

/-- Behind a use a store shows what the access sees. -/
theorem used_visible (store : Store) (access : Access) (execution : Execution) :
    (store.used access execution).visible = access.visible := rfl

/-- What is committed then is the content of the access's volume. -/
theorem used_committed (store : Store) (access : Access) (execution : Execution) :
    (store.used access execution).committed = access.volume.content := rfl

/-- A call that settles keeps what holds of both databases. -/
theorem used_shows {Property : Database → Prop} {store : Store} {connection : Connection}
    {access : Access} (execution : Execution)
    (opened : store.driver.connection = some connection) (shows' : store.Shows Property)
    (settles : Access.Settles ⟨connection, store.host.disk⟩ access) :
    (store.used access execution).Shows Property := by
  obtain ⟨-, seen, committed'⟩ := shows'
  rw [visible_of_connection opened] at seen
  rw [committed_of_connection opened] at committed'
  refine ⟨rfl, ?_, ?_⟩
  · rw [used_visible]
    rcases settles.seen with same | same
    · rw [same]
      exact seen
    · rw [same]
      exact committed'
  · rw [used_committed]
    rcases settles.committed with same | same
    · rw [same]
      exact committed'
    · rw [same]
      exact seen

end Store

namespace Operation

variable {Property : Database → Prop}

/-- A call keeps what holds of both databases if it settles, or makes a database of which it
holds. -/
theorem on_connection_shows {α : Type} (statement : String) (isEnd : Bool)
    {act : Access → Outcome α} {store : Store} (shows' : store.Shows Property)
    (acts : ∀ connection execution, store.driver.connection = some connection →
      ((onConnection statement isEnd act).apply store).2 =
        store.used (act ⟨connection, store.host.disk⟩).access execution →
      Access.Settles ⟨connection, store.host.disk⟩ (act ⟨connection, store.host.disk⟩).access ∨
        ∃ database, Property database ∧ Access.Makes ⟨connection, store.host.disk⟩
          (act ⟨connection, store.host.disk⟩).access database) :
    ((onConnection statement isEnd act).apply store).2.Shows Property := by
  rcases on_connection_cases statement isEnd act store with ⟨-, ran⟩ | ⟨connection, opened,
    ⟨outage, -, ran⟩ | ⟨execution, -, ran⟩⟩
  · rw [ran]
    exact shows'
  · rw [ran]
    exact Store.used_shows _ opened shows' (Access.settles_of_withholds
      (Access.struck_withholds _ _ _))
  · rcases acts connection execution opened (congrArg Prod.snd ran) with
      settles | ⟨database, holds, makes⟩
    · rw [ran]
      exact Store.used_shows _ opened shows' settles
    · rw [ran]
      refine ⟨rfl, ?_, ?_⟩
      · rw [Store.used_visible, makes.seen]
        exact holds
      · rw [Store.used_committed]
        rcases makes.committed with same | same
        · rw [same, ← Store.committed_of_connection opened]
          exact shows'.2.2
        · rw [same]
          exact holds

/-- A statement that settles keeps what holds of both databases. -/
theorem answering_shows (statement : Sql.Statement Stored)
    (settles : ∀ access : Access, access.Settles (access.run statement).access) :
    Keeps (Store.Shows Property) (answering statement) := fun _ shows' =>
  on_connection_shows _ _ shows' fun _ _ _ _ => .inl (settles _)

/-- Beginning a transaction keeps what holds of both databases. -/
theorem begin_shows : Keeps (Store.Shows Property) begin := by
  refine .bind .require_connection fun _ => .bind .require_no_transaction fun _ => ?_
  refine .bind (answering_shows _ fun access =>
    Access.settles_of_withholds access.run_begin_withholds) fun _ => ?_
  exact fun store shows' => shows'

/-- The flag takes no part in what a store shows. -/
theorem sync_transaction_shows : Keeps (Store.Shows Property) syncTransaction := by
  intro store shows'
  simp only [syncTransaction, apply_of]
  split
  · exact shows'
  · exact shows'

/-- So does every end of a transaction that shows nothing new. -/
theorem ending_shows (statement : Sql.Statement Stored)
    (settles : ∀ access : Access, access.Settles (access.run statement).access) :
    Keeps (Store.Shows Property) (ending statement) := by
  refine .bind .require_connection fun _ => .bind .require_transaction fun _ => ?_
  refine .bind (.attempt (answering_shows statement settles)) fun result => ?_
  exact .bind sync_transaction_shows fun _ => .bind (.of_except result) fun _ => .pure _

/-- So does a commit. -/
theorem commit_shows : Keeps (Store.Shows Property) commit :=
  ending_shows .commit Access.run_commit_settles

/-- So does a rollback. -/
theorem rollback_shows : Keeps (Store.Shows Property) rollback :=
  ending_shows .rollback fun access => Access.settles_of_withholds access.run_rollback_withholds

/-- A change keeps what holds of both databases, if it holds of what the change makes of the
database that is seen. -/
theorem changing_shows {change : Sql.Change Stored} {store : Store}
    (shows' : store.Shows Property)
    (makes : ∀ effect,
      store.visible.change (change.mapOperands Stored.bound) = .ok effect →
      ((executing (.change change)).apply store).2.visible = effect.database →
        Property effect.database) :
    ((executing (.change change)).apply store).2.Shows Property := by
  refine on_connection_shows _ _ shows' fun connection execution opened ran => ?_
  rw [executing, ran] at makes
  simp only [counted_access] at makes ⊢
  rcases Access.run_cases ⟨connection, store.host.disk⟩ (.change change) with
    ⟨fault, refused⟩ | performed
  · rw [refused]
    exact .inl (.refl _)
  · rw [performed] at makes ⊢
    rcases Access.run_change_sight ⟨connection, store.host.disk⟩
      (change.mapOperands Stored.bound) with
      settles | ⟨effect, done, made⟩
    · exact .inl settles
    · refine .inr ⟨effect.database, makes effect ?_ made.seen, made⟩
      rw [Store.visible_of_connection opened]
      exact done

end Operation

end RecordStore
