import RecordStore.Proofs.Engine.Objects
import RecordStore.Proofs.Engine.Visibility
import RecordStore.Proofs.Sql.Creation

/-!
# Which statements open and end transactions

A connection is idle when no transaction is open on it. Only the statements about
transactions make an idle connection busy or a busy one idle. There is one exception: an
insertion that finds no number left for its row takes the whole transaction back, unless the
engine has marked the place to which the statement can return by itself. Insertions are
therefore the only statements here whose law speaks of their answer.
-/

namespace RecordStore.Engine

open Sql

namespace Access

variable {access held : Access}

/-! ### Steps that leave the connection as idle as it was -/

/-- Counting changes leaves whether a transaction is open. -/
@[simp] theorem counting_is_idle (access : Access) (changes : Nat) :
    (access.counting changes).connection.isIdle = access.connection.isIdle := rfl

/-- A connection is idle exactly if it was given no transaction. -/
@[simp] theorem with_transaction_is_idle (access : Access) (transaction : Option Transaction) :
    (access.withTransaction transaction).connection.isIdle = transaction.isNone := rfl

/-- After the end of a transaction none is open. -/
@[simp] theorem ended_is_idle (access : Access) : access.ended.connection.isIdle = true := rfl

/-- A connection with a transaction is not idle. -/
theorem is_idle_of_transaction {transaction : Transaction}
    (found : access.connection.transaction = some transaction) :
    access.connection.isIdle = false := by
  simp [Connection.isIdle, found]

/-- Words that enter the index leave whether a transaction is open. -/
@[simp] theorem indexed_is_idle (access : Access) :
    access.indexed.connection.isIdle = access.connection.isIdle := by
  unfold indexed
  split
  · rfl
  · rename_i transaction found
    split
    · simp [is_idle_of_transaction found]
    · rfl

/-- A hold for reading leaves whether a transaction is open. -/
theorem for_reading_is_idle (granted : access.forReading = .ok held) :
    held.connection.isIdle = access.connection.isIdle := by
  rcases for_reading_ok granted with rfl | ⟨-, rfl⟩ <;> rfl

/-- A hold for writing leaves whether a transaction is open. -/
theorem for_writing_is_idle (granted : access.forWriting = .ok held) :
    held.connection.isIdle = access.connection.isIdle := by
  obtain ⟨-, ⟨-, rfl⟩ | ⟨transaction, hold, found, rfl⟩⟩ := for_writing_ok granted
  · rfl
  · simp [is_idle_of_transaction found]

/-- What is kept leaves whether a transaction is open. -/
theorem keep_is_idle {database : Database} (kept : access.keep database = .ok held) :
    held.connection.isIdle = access.connection.isIdle := by
  rcases keep_ok kept with ⟨transaction, found, rfl⟩ | ⟨-, -, rfl⟩
  · simp [is_idle_of_transaction found]
  · rfl

/-- Noting what a change did leaves whether a transaction is open. -/
@[simp] theorem changed_is_idle (access : Access) (effect : Effect) (reaches : Bool) :
    (access.changed effect reaches).connection.isIdle = access.connection.isIdle := by
  simp [changed, Connection.isIdle]

/-- A failed change keeps the transaction, unless it was an unguarded one that ran out of
numbers. -/
theorem failed_is_idle (access : Access) (guarded : Bool) (fault : Fault)
    (keeps : fault ≠ .storageFull ∨ guarded = true) :
    (access.failed guarded fault).connection.isIdle = access.connection.isIdle := by
  have kept : (fault = .storageFull && !guarded) = false := by
    rcases keeps with other | marked
    · simp [other]
    · simp [marked]
  simp [failed, kept]

/-! ### Statements that leave the connection as idle as it was -/

/-- A query leaves whether a transaction is open. -/
theorem run_select_is_idle (access : Access) (query : Select Stored) :
    (access.runSelect query).access.connection.isIdle = access.connection.isIdle := by
  rcases access.run_select_access query with same | granted
  · rw [same]
  · exact for_reading_is_idle granted

/-- A definition leaves whether a transaction is open. -/
theorem run_definition_is_idle (access : Access) (define : Database → Except Fault Database) :
    (access.runDefinition define).access.connection.isIdle = access.connection.isIdle := by
  rcases access.run_definition_cases define with
    ⟨fault, ran⟩ | ⟨database, held, -, granted, ⟨fault, ran⟩ | ⟨final, kept, ran⟩⟩
  · rw [ran]
  · rw [ran]
    exact for_writing_is_idle granted
  · rw [ran]
    exact (keep_is_idle kept).trans (for_writing_is_idle granted)

/-- The four ways in which a change can end: without the hold for writing, with a fault of the
change itself, without leave to commit, and kept. -/
theorem run_change_cases (access : Access) (change : Change Stored) :
    (∃ fault, access.forWriting = .error fault ∧
      access.runChange change = ⟨access.counting 0, .error fault⟩) ∨
    ∃ held working, access.forWriting = .ok held ∧
      (working = held ∨ working = held.indexed) ∧
      ((∃ fault, working.visible.change change = .error fault ∧
        access.runChange change =
          ⟨working.failed (isGuarded access.visible change) fault, .error fault⟩) ∨
      ∃ effect, working.visible.change change = .ok effect ∧
        ((∃ fault, working.keep effect.database = .error fault ∧
          access.runChange change = ⟨working.counting 0, .error fault⟩) ∨
        ∃ final, working.keep effect.database = .ok final ∧
          access.runChange change =
            ⟨final.changed effect (reachesWords access.visible change), .ok default⟩)) := by
  unfold runChange
  simp only
  cases granted : access.forWriting with
  | error fault => exact .inl ⟨fault, rfl, rfl⟩
  | ok held =>
    refine .inr ⟨held,
      if isGuarded access.visible change then held.indexed else held, rfl, ?_, ?_⟩
    · split
      · exact .inr rfl
      · exact .inl rfl
    · simp only
      generalize (if isGuarded access.visible change then held.indexed else held) = working
      cases done : working.visible.change change with
      | error fault => exact .inl ⟨fault, rfl, rfl⟩
      | ok effect =>
        refine .inr ⟨effect, rfl, ?_⟩
        simp only
        cases kept : working.keep effect.database with
        | error fault => exact .inl ⟨fault, rfl, rfl⟩
        | ok final => exact .inr ⟨final, rfl, rfl⟩

/-- Whether waiting words entered the index or not, the access on which a change works sees what was
seen before, over what was committed before, and is as idle. -/
theorem working_kept {working : Access} (granted : access.forWriting = .ok held)
    (which : working = held ∨ working = held.indexed) :
    working.visible = access.visible ∧ working.volume.content = access.volume.content ∧
      working.connection.isIdle = access.connection.isIdle := by
  obtain ⟨seen, committed⟩ := for_writing_visible granted
  have idle := for_writing_is_idle granted
  rcases which with rfl | rfl
  · exact ⟨seen, committed, idle⟩
  · rw [indexed_visible, indexed_volume, indexed_is_idle]
    exact ⟨seen, committed, idle⟩

/-- A change keeps the transaction when it is one that can be taken back by itself, and when
it does not run out of numbers. -/
theorem run_change_is_idle (access : Access) (change : Change Stored)
    (keeps : isGuarded access.visible change = true ∨
      access.visible.change change ≠ .error .storageFull) :
    (access.runChange change).access.connection.isIdle = access.connection.isIdle := by
  rcases run_change_cases access change with ⟨fault, -, ran⟩ | ⟨held, working, granted, which, rest⟩
  · rw [ran]
    rfl
  · obtain ⟨seen, -, idle⟩ := working_kept granted which
    rcases rest with ⟨fault, failed, ran⟩ | ⟨effect, -, ⟨fault, -, ran⟩ | ⟨final, kept, ran⟩⟩
    · rw [ran]
      refine (failed_is_idle working _ fault ?_).trans idle
      rcases keeps with guarded | enough
      · exact .inr guarded
      · refine .inl fun full => enough ?_
        rw [← seen, failed, full]
    · rw [ran]
      exact idle
    · rw [ran]
      simpa using (keep_is_idle kept).trans idle

/-- Only an insertion can run out of numbers without being marked: an update always is, and a
deletion that is not marked has no triggers and takes only rows away. -/
theorem run_change_is_idle_of_not_insert (access : Access) (change : Change Stored)
    (other : ∀ insertion, change ≠ .insert insertion) :
    (access.runChange change).access.connection.isIdle = access.connection.isIdle := by
  refine run_change_is_idle access change ?_
  by_cases followed : (access.visible.triggersOn (tableOf change) (eventOf change)).isEmpty
  · cases change with
    | insert insertion => exact absurd rfl (other insertion)
    | update modification => exact .inl (by simp [isGuarded])
    | delete deletion =>
      have quiet : access.visible.triggersOn deletion.table .deletion = [] :=
        List.isEmpty_iff.mp followed
      refine .inr fun full => ?_
      rcases access.visible.change_delete_quiet deletion quiet with missing | ⟨effect, done⟩
      · cases missing.symm.trans full
      · cases done.symm.trans full
  · exact .inl (by simp [isGuarded, followed])

/-- Making an object leaves the connection as idle as it was. -/
theorem perform_creation_is_idle (access : Access) (text : String) (statement : Statement Stored)
    (creates : statement.isCreation) :
    (access.perform text statement).access.connection.isIdle = access.connection.isIdle := by
  cases statement with
  | createTable definition =>
    simpa [perform, definition?, countingIndex] using run_definition_is_idle access _
  | createFullText definition =>
    have kept := run_definition_is_idle access fun database =>
      createFullText database definition text
    simp only [perform, definition?, countingIndex]
    split
    · simpa using kept
    · exact kept
  | createTrigger definition =>
    simpa [perform, definition?, countingIndex] using run_definition_is_idle access _
  | _ => exact creates.elim

/-! ### Running statements -/

/-- A statement that is refused by the check of its names leaves everything as it was. -/
theorem run_cases (access : Access) (statement : Statement Stored) :
    (∃ fault, access.run statement = ⟨access, .error fault⟩) ∨
      access.run statement =
        access.perform (statement.mapOperands Stored.bound).render
          (statement.mapOperands Stored.bound) := by
  unfold run
  simp only
  split
  · exact .inl ⟨_, rfl⟩
  · exact .inr rfl

/-- So does a query with its check before it. -/
theorem run_of_select_is_idle (access : Access) (query : Select Stored) :
    (access.run (.select query)).access.connection.isIdle = access.connection.isIdle := by
  rcases run_cases access (.select query) with ⟨fault, refused⟩ | performed
  · rw [refused]
  · rw [performed]
    exact run_select_is_idle access _

/-- A statement that creates something leaves whether a transaction is open. -/
theorem run_creation_is_idle (access : Access) (statement : Statement Stored)
    (creates : statement.isCreation) :
    (access.run statement).access.connection.isIdle = access.connection.isIdle := by
  rcases run_cases access statement with ⟨fault, refused⟩ | performed
  · rw [refused]
  · rw [performed]
    exact perform_creation_is_idle access _ _ (statement.is_creation_map_operands _ creates)

/-- An update or a deletion keeps the transaction, whatever it answers. -/
theorem run_of_change_is_idle (access : Access) (change : Change Stored)
    (other : ∀ insertion, change ≠ .insert insertion) :
    (access.run (.change change)).access.connection.isIdle = access.connection.isIdle := by
  rcases run_cases access (.change change) with ⟨fault, refused⟩ | performed
  · rw [refused]
  · rw [performed]
    refine run_change_is_idle_of_not_insert access _ ?_
    intro insertion same
    cases change with
    | insert inserted => exact other inserted rfl
    | update modification => cases same
    | delete deletion => cases same

/-- A change that is answered keeps the transaction. -/
theorem run_change_is_idle_of_ok (access : Access) (change : Change Stored) (answer : Answer)
    (answered : (access.run (.change change)).answer = .ok answer) :
    (access.run (.change change)).access.connection.isIdle = access.connection.isIdle := by
  rcases run_cases access (.change change) with ⟨fault, refused⟩ | performed
  · rw [refused]
  · rw [performed] at answered ⊢
    change (access.runChange (change.mapOperands Stored.bound)).access.connection.isIdle = _
    change (access.runChange (change.mapOperands Stored.bound)).answer = _ at answered
    rcases run_change_cases access (change.mapOperands Stored.bound) with
      ⟨fault, -, ran⟩ | ⟨held, working, granted, which, ⟨fault, -, ran⟩ |
        ⟨effect, -, ⟨fault, -, ran⟩ | ⟨final, kept, ran⟩⟩⟩
    · rw [ran]
      rfl
    · rw [ran] at answered
      cases answered
    · rw [ran] at answered
      cases answered
    · rw [ran]
      rw [changed_is_idle]
      exact (keep_is_idle kept).trans (working_kept granted which).2.2

/-- A text that creates leaves the connection as idle as it was, whatever it means. -/
theorem run_text_creation_is_idle (access : Access) (rest : List Char) (parameters : List Stored) :
    (access.runText (String.ofList ("CREATE ".toList ++ rest)) parameters).access.connection.isIdle
      = access.connection.isIdle := by
  unfold runText
  simp only
  split
  · rfl
  · rename_i read prepared
    have parsed : Sql.parse (String.ofList ("CREATE ".toList ++ rest)) = .ok read := by
      cases found : Sql.parse (String.ofList ("CREATE ".toList ++ rest)) with
      | error fault =>
        simp only [found, bind, Except.bind] at prepared
        cases prepared
      | ok result =>
        simp only [found, bind, Except.bind, pure, Except.pure] at prepared
        split at prepared
        · cases prepared
        · split at prepared
          · cases prepared
          · cases prepared
            rfl
    have creates := parse_creates rest read parsed
    exact perform_creation_is_idle access _ _ (read.statement.is_creation_map_operands _ creates)

/-- A text that starts with `CREATE` ends no transaction. -/
theorem text_ends_transaction_creation (rest : List Char) :
    textEndsTransaction (String.ofList ("CREATE ".toList ++ rest)) = false := by
  unfold textEndsTransaction
  cases found : Sql.parse (String.ofList ("CREATE ".toList ++ rest)) with
  | error fault => rfl
  | ok read =>
    simpa [Except.toOption] using
      read.statement.is_creation_ends_transaction (parse_creates rest read found)

/-! ### Transaction statements -/

/-- An idle connection does not refuse to begin. -/
theorem run_begin_idle (access : Access) (idle : access.connection.isIdle = true) :
    (access.run (.begin .deferred)).answer = .ok default ∧
      (access.run (.begin .deferred)).access.connection.isIdle = false := by
  change (access.runBegin .deferred).answer = .ok default ∧
    (access.runBegin .deferred).access.connection.isIdle = false
  have none : access.connection.transaction = none := by
    simpa [Connection.isIdle] using idle
  simp [runBegin, forMode, opened, withTransaction, none, Connection.isIdle]

/-- Rolling back leaves nothing open. -/
theorem run_rollback_is_idle (access : Access) :
    (access.run .rollback).access.connection.isIdle = true := by
  change (access.runRollback).access.connection.isIdle = true
  unfold runRollback
  split
  · rename_i found
    simp [Connection.isIdle, found]
  · rfl

end Access

/-- A new connection is idle. -/
theorem Disk.connect_is_idle {disk : Disk} {path : Option String} {access : Access}
    (connected : disk.connect path = .ok access) : access.connection.isIdle = true := by
  unfold Disk.connect at connected
  simp only at connected
  split at connected
  · cases connected
    rfl
  · split at connected
    · cases connected
      rfl
    · split at connected <;> cases connected
      rfl

end RecordStore.Engine
