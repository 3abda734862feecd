import RecordStore.Proofs.Engine.Transactions

/-!
# Views

A connection sees a database over the one that is committed, and no transaction stands between the
two, or one does. A statement commits nothing, and leaves what is seen or takes it back; or it
commits what is seen; or it puts what a change made in the place of what was seen.
-/

namespace RecordStore

open Engine

/-- What can be told of the databases over which a connection works: the one that it sees, the one
that is committed, and whether no transaction stands between the two. -/
structure View where
  visible : Database
  committed : Database
  isIdle : Bool

namespace View

/-- A step that commits nothing: what is seen stays, or it is taken back, and no transaction is open
any more. -/
inductive Withholds (before after : View) : Prop where
  | stays (seen : after.visible = before.visible) (committed : after.committed = before.committed)
    (opens : after.isIdle = true → before.isIdle = true)
  | takesBack (seen : after.visible = before.committed)
    (committed : after.committed = before.committed) (idle : after.isIdle = true)

/-- A step that commits what is seen, after which no transaction is open. -/
structure Concludes (before after : View) : Prop where
  seen : after.visible = before.visible
  committed : after.committed = before.visible
  idle : after.isIdle = true

/-- A step that puts a database in the place of the one that is seen, which commits it unless a
transaction is open. -/
structure Puts (before after : View) (database : Database) : Prop where
  seen : after.visible = database
  committed : after.committed = if before.isIdle then database else before.committed
  idle : after.isIdle = before.isIdle

/-- A step that changes nothing commits nothing. -/
theorem Withholds.refl (view : View) : view.Withholds view := .stays rfl rfl id

/-- A step that commits nothing leaves what is committed. -/
theorem Withholds.committed_eq {before after : View} (withholds : before.Withholds after) :
    after.committed = before.committed := by
  cases withholds with
  | stays _ committed _ => exact committed
  | takesBack _ committed _ => exact committed

end View

namespace Engine.Access

variable {access after : Access}

/-- What can be told of the databases of an access. -/
def view (access : Access) : View :=
  ⟨access.visible, access.volume.content, access.connection.isIdle⟩

/-- Ending a transaction by itself commits nothing. -/
theorem ended_withholds (access : Access) : access.view.Withholds access.ended.view :=
  .takesBack access.ended_visible access.ended_volume_content access.ended_is_idle

/-- What an outage leaves behind. -/
theorem struck_withholds {α : Type} (access : Access) (outage : Outage) (isEnd : Bool) :
    access.view.Withholds (access.struck (α := α) outage isEnd).access.view := by
  unfold struck
  split
  · exact access.ended_withholds
  · exact .refl access.view

/-- Beginning changes nothing that is seen or committed, and ends no transaction. -/
theorem run_begin_visible (access : Access) :
    (access.run (.begin .deferred)).access.visible = access.visible ∧
      (access.run (.begin .deferred)).access.volume.content = access.volume.content ∧
      ((access.run (.begin .deferred)).access.connection.isIdle = true →
        access.connection.isIdle = true) := by
  change (access.runBegin .deferred).access.visible = access.visible ∧
    (access.runBegin .deferred).access.volume.content = access.volume.content ∧
      ((access.runBegin .deferred).access.connection.isIdle = true → _)
  have opened : access.opened.visible = access.visible ∧
      access.opened.volume.content = access.volume.content ∧
      (access.opened.connection.isIdle = true → access.connection.isIdle = true) := by
    unfold Access.opened
    split
    · exact ⟨rfl, rfl, id⟩
    · rename_i idle
      refine ⟨?_, rfl, nofun⟩
      rw [visible_of_idle idle]
      rfl
  unfold runBegin forMode
  simp only
  split <;> exact opened

/-- Beginning a transaction commits nothing. -/
theorem run_begin_withholds (access : Access) :
    access.view.Withholds (access.run (.begin .deferred)).access.view :=
  have ⟨seen, committed, opens⟩ := access.run_begin_visible
  .stays seen committed opens

/-- A rollback commits nothing. -/
theorem run_rollback_withholds (access : Access) :
    access.view.Withholds (access.run .rollback).access.view := by
  change access.view.Withholds (access.runRollback).access.view
  unfold runRollback
  split
  · exact .refl access.view
  · exact access.ended_withholds

/-! ### Commits -/

/-- A conclusion is answered and commits what is seen, or it fails and commits nothing. -/
theorem conclude_cases {draft : Option Database}
    (drafted : access.visible = draft.getD access.volume.content) :
    (access.conclude draft).answer = .ok default ∧
        access.view.Concludes (access.conclude draft).access.view ∨
      ∃ fault, (access.conclude draft).answer = .error fault ∧
        access.view.Withholds (access.conclude draft).access.view := by
  unfold conclude
  split
  · have seen : access.visible = access.volume.content := drafted
    exact .inl ⟨rfl, by simp [view, seen], by simp [view, seen], rfl⟩
  · rename_i database
    have seen : access.visible = database := drafted
    simp only
    split
    · exact .inl ⟨rfl, by simp [view, seen], by simp [view, seen], rfl⟩
    · refine .inr ⟨_, rfl, .stays (with_volume_visible _ _ rfl) ?_ id⟩
      simp [view, Volume.grant, Volume.release]

/-- A commit that is answered commits what is seen, and one that is refused commits nothing. -/
theorem run_commit_cases (access : Access) :
    (access.run .commit).answer = .ok default ∧
        access.view.Concludes (access.run .commit).access.view ∨
      ∃ fault, (access.run .commit).answer = .error fault ∧
        access.view.Withholds (access.run .commit).access.view := by
  change access.runCommit.answer = _ ∧ access.view.Concludes access.runCommit.access.view ∨
    ∃ fault, access.runCommit.answer = _ ∧ access.view.Withholds access.runCommit.access.view
  unfold runCommit
  split
  · exact .inr ⟨_, rfl, .refl access.view⟩
  · rename_i transaction found
    have same : access.indexed.view = access.view := by simp [view]
    have drafted : access.indexed.visible =
        transaction.draft.getD access.indexed.volume.content := by
      rw [indexed_visible, indexed_volume]
      simp [visible, found]
    rw [← same]
    exact conclude_cases drafted

/-! ### Changes -/

/-- What is kept takes the place of what is seen. -/
theorem keep_puts {database : Database} (kept : access.keep database = .ok after) :
    access.view.Puts after.view database := by
  refine ⟨(keep_visible kept).1, ?_, keep_is_idle kept⟩
  rcases keep_ok kept with ⟨transaction, open', rfl⟩ | ⟨none, -, rfl⟩
  · simp [view, is_idle_of_transaction open']
  · have idle : access.connection.isIdle = true := by simp [Connection.isIdle, none]
    simp [view, idle]

/-- The ways in which a change can go: it fails and commits nothing, or it is answered and puts what
it made of the database that was seen in its place. -/
theorem run_change_turns (access : Access) (change : Sql.Change Stored) :
    (∃ fault, (access.runChange change).answer = .error fault ∧
      access.view.Withholds (access.runChange change).access.view) ∨
    ∃ effect, access.visible.change change = .ok effect ∧
      (access.runChange change).answer = .ok default ∧
      access.view.Puts (access.runChange change).access.view effect.database := by
  rcases run_change_cases access change with ⟨fault, -, ran⟩ | ⟨held, working, granted, which, rest⟩
  · rw [ran]
    exact .inl ⟨fault, rfl, .refl access.view⟩
  · obtain ⟨sight, under, idle⟩ := working_kept granted which
    have same : working.view = access.view := by simp [view, sight, under, idle]
    rw [← same]
    rcases rest with ⟨fault, -, ran⟩ | ⟨effect, done, ⟨fault, -, ran⟩ | ⟨final, kept, ran⟩⟩
    · rw [ran]
      refine .inl ⟨fault, rfl, ?_⟩
      unfold failed
      split
      · exact working.ended_withholds
      · exact .refl working.view
    · rw [ran]
      exact .inl ⟨fault, rfl, .refl working.view⟩
    · rw [ran]
      have changed : (final.changed effect (reachesWords access.visible change)).view =
          final.view := by simp [view]
      rw [changed]
      exact .inr ⟨effect, sight ▸ done, rfl, keep_puts kept⟩

/-- The same holds of a change that is run with the values of its operands. -/
theorem run_of_change_turns (access : Access) (change : Sql.Change Stored) :
    (∃ fault, (access.run (.change change)).answer = .error fault ∧
      access.view.Withholds (access.run (.change change)).access.view) ∨
    ∃ effect, access.visible.change (change.mapOperands Stored.bound) = .ok effect ∧
      (access.run (.change change)).answer = .ok default ∧
      access.view.Puts (access.run (.change change)).access.view effect.database := by
  rcases run_cases access (.change change) with ⟨fault, refused⟩ | performed
  · rw [refused]
    exact .inl ⟨fault, rfl, .refl access.view⟩
  · rw [performed]
    exact access.run_change_turns (change.mapOperands Stored.bound)

end Engine.Access

end RecordStore
