import RecordStore.Proofs.Engine.Control

/-!
# What a connection holds

A connection works on its own volume and takes holds under its own number. Whatever statement it
runs, it stays where it is, leaves all other volumes alone, and leaves the other connections what
they hold of its own one. When it is closed, it holds nothing any more.
-/

namespace RecordStore.Engine

open Sql

namespace Volume

variable {number other : Nat}

/-- Giving up a hold leaves what others hold. -/
theorem hold?_release_of_ne (volume : Volume) (different : other ≠ number) :
    (volume.release number).hold? other = volume.hold? other := by
  simp only [release, hold?, List.find?_filter]
  congr 2
  funext entry
  by_cases same : entry.1 = other
  · simp [same, different]
  · simp [same]

/-- Granting a hold leaves what others hold. -/
theorem hold?_grant_of_ne (volume : Volume) (hold : Hold) (different : other ≠ number) :
    (volume.grant number hold).hold? other = volume.hold? other := by
  have elsewhere : (number == other) = false := by simpa using Ne.symm different
  have released := volume.hold?_release_of_ne different
  simp only [hold?] at released ⊢
  simp only [grant, List.find?_append, List.find?_cons, elsewhere, List.find?_nil, Option.or_none]
  exact released

end Volume

namespace Access

variable {access held after last : Access}

/-- A step of a connection that keeps to itself. -/
structure KeepsToItself (access after : Access) : Prop where
  number : after.number = access.number
  location : after.connection.location = access.connection.location
  elsewhere : ∀ location, location ≠ access.connection.location →
    after.disk.volume location = access.disk.volume location
  others : ∀ number, number ≠ access.number →
    after.volume.hold? number = access.volume.hold? number

namespace KeepsToItself

/-- A connection that does nothing keeps to itself. -/
theorem refl (access : Access) : access.KeepsToItself access :=
  ⟨rfl, rfl, fun _ _ => rfl, fun _ _ => rfl⟩

/-- Steps that keep to themselves do so one after the other. -/
theorem trans (first : access.KeepsToItself after) (second : after.KeepsToItself last) :
    access.KeepsToItself last where
  number := second.number.trans first.number
  location := second.location.trans first.location
  elsewhere location different :=
    (second.elsewhere location (first.location ▸ different)).trans
      (first.elsewhere location different)
  others number different :=
    (second.others number (first.number ▸ different)).trans (first.others number different)

/-- Another volume in the place of the own one, with what the others hold. -/
theorem with_volume {volume : Volume}
    (others : ∀ number, number ≠ access.number →
      volume.hold? number = access.volume.hold? number) :
    access.KeepsToItself (access.withVolume volume) where
  number := rfl
  location := rfl
  elsewhere _ different := Disk.volume_put_of_ne _ _ different
  others number different := by
    rw [with_volume_volume]
    exact others number different

/-- Another transaction in the place of the own one is no matter of others. -/
theorem with_transaction (access : Access) (transaction : Option Transaction) :
    access.KeepsToItself (access.withTransaction transaction) :=
  ⟨rfl, rfl, fun _ _ => rfl, fun _ _ => rfl⟩

/-- Counting changes is no matter of others. -/
theorem counting (access : Access) (changes : Nat) :
    access.KeepsToItself (access.counting changes) :=
  ⟨rfl, rfl, fun _ _ => rfl, fun _ _ => rfl⟩

/-- Noting what a change did is no matter of others. -/
theorem changed (access : Access) (effect : Effect) (reaches : Bool) :
    access.KeepsToItself (access.changed effect reaches) :=
  ⟨rfl, rfl, fun _ _ => rfl, fun _ _ => rfl⟩

/-- Ending a transaction gives up the own hold only. -/
theorem ended (access : Access) : access.KeepsToItself access.ended :=
  (with_volume fun _ different => access.volume.hold?_release_of_ne different).trans
    (with_transaction _ none)

/-- Waiting words that enter the index touch the own transaction only. -/
theorem indexed (access : Access) : access.KeepsToItself access.indexed := by
  unfold Access.indexed
  split
  · exact .refl access
  · split
    · exact (with_transaction access _).trans (counting _ 1)
    · exact .refl access

/-- A failure takes back what is the connection's own, if anything. -/
theorem failed (access : Access) (guarded : Bool) (fault : Fault) :
    access.KeepsToItself (access.failed guarded fault) := by
  unfold Access.failed
  split
  · exact (ended access).trans (counting _ 0)
  · exact counting access 0

/-- Opening a transaction is no matter of others. -/
theorem opened (access : Access) : access.KeepsToItself access.opened := by
  unfold Access.opened
  split
  · exact .refl access
  · exact with_transaction access _

/-- A hold for reading is one of the own. -/
theorem for_reading (granted : access.forReading = .ok held) : access.KeepsToItself held := by
  rcases for_reading_ok granted with rfl | ⟨-, rfl⟩
  · exact .refl held
  · exact with_volume fun _ different => access.volume.hold?_grant_of_ne _ different

/-- A hold for writing is one of the own. -/
theorem for_writing (granted : access.forWriting = .ok held) : access.KeepsToItself held := by
  obtain ⟨-, ⟨-, rfl⟩ | ⟨transaction, hold, -, rfl⟩⟩ := for_writing_ok granted
  · exact .refl held
  · exact (with_volume fun _ different => access.volume.hold?_grant_of_ne _ different).trans
      (with_transaction _ _)

/-- What is kept goes into the own draft, or into the own volume under the holds of the others. -/
theorem keep {database : Database} (kept : access.keep database = .ok held) :
    access.KeepsToItself held := by
  rcases keep_ok kept with ⟨transaction, -, rfl⟩ | ⟨-, -, rfl⟩
  · exact with_transaction access _
  · exact with_volume fun _ _ => rfl

/-! ### Statements -/

/-- A query keeps to itself. -/
theorem run_select (access : Access) (query : Select Stored) :
    access.KeepsToItself (access.runSelect query).access := by
  rcases access.run_select_access query with same | granted
  · rw [same]
    exact .refl access
  · exact for_reading granted

/-- A change keeps to itself. -/
theorem run_change (access : Access) (change : Change Stored) :
    access.KeepsToItself (access.runChange change).access := by
  rcases run_change_cases access change with ⟨fault, -, ran⟩ | ⟨held, working, granted, which, rest⟩
  · rw [ran]
    exact counting access 0
  · have worked : access.KeepsToItself working := by
      rcases which with rfl | rfl
      · exact for_writing granted
      · exact (for_writing granted).trans (indexed held)
    rcases rest with ⟨fault, -, ran⟩ | ⟨effect, -, ⟨fault, -, ran⟩ | ⟨final, kept, ran⟩⟩
    · rw [ran]
      exact worked.trans (failed working _ fault)
    · rw [ran]
      exact worked.trans (counting working 0)
    · rw [ran]
      exact (worked.trans (keep kept)).trans (changed final _ _)

/-- A definition keeps to itself. -/
theorem run_definition (access : Access) (define : Database → Except Fault Database) :
    access.KeepsToItself (access.runDefinition define).access := by
  rcases access.run_definition_cases define with
    ⟨fault, ran⟩ | ⟨database, held, -, granted, ⟨fault, ran⟩ | ⟨final, kept, ran⟩⟩
  · rw [ran]
    exact .refl access
  · rw [ran]
    exact for_writing granted
  · rw [ran]
    exact (for_writing granted).trans (keep kept)

/-- The hold with which a transaction begins is one of the own. -/
theorem for_mode {mode : TransactionMode} (granted : access.forMode mode = .ok held) :
    access.KeepsToItself held := by
  rcases for_mode_ok granted with rfl | ⟨writing, writes, rfl | rfl⟩
  · exact opened access
  · exact (opened access).trans (for_writing writes)
  · exact ((opened access).trans (for_writing writes)).trans (with_volume fun _ different =>
      writing.volume.hold?_grant_of_ne _ different)

/-- Beginning a transaction keeps to itself. -/
theorem run_begin (access : Access) (mode : TransactionMode) :
    access.KeepsToItself (access.runBegin mode).access := by
  unfold Access.runBegin
  split
  · exact .refl access
  · rename_i granted
    split <;> exact for_mode granted

/-- Concluding a transaction keeps to itself, whether it is let through or not. -/
theorem conclude (access : Access) (draft : Option Database) :
    access.KeepsToItself (access.conclude draft).access := by
  unfold Access.conclude
  split
  · exact ended access
  · rename_i database
    have written : access.KeepsToItself
        (access.withVolume { access.volume with content := database }) := with_volume fun _ _ => rfl
    simp only
    split
    · exact written.trans (ended _)
    · exact with_volume fun _ different => access.volume.hold?_grant_of_ne _ different

/-- A commit keeps to itself. -/
theorem run_commit (access : Access) : access.KeepsToItself (access.runCommit).access := by
  unfold Access.runCommit
  split
  · exact .refl access
  · exact (indexed access).trans (conclude _ _)

/-- A rollback keeps to itself. -/
theorem run_rollback (access : Access) : access.KeepsToItself (access.runRollback).access := by
  unfold Access.runRollback
  split
  · exact .refl access
  · exact ended access

/-- Setting a savepoint keeps to itself. -/
theorem run_savepoint (access : Access) (name : String) :
    access.KeepsToItself (access.runSavepoint name).access := by
  unfold Access.runSavepoint
  split
  · exact with_transaction access _
  · exact (indexed access).trans (with_transaction _ _)

/-- Releasing a savepoint keeps to itself. -/
theorem run_release (access : Access) (name : String) :
    access.KeepsToItself (access.runRelease name).access := by
  unfold Access.runRelease
  split
  · exact .refl access
  · split
    · exact .refl access
    · split
      · exact (indexed access).trans (conclude _ _)
      · exact (indexed access).trans (with_transaction _ _)

/-- Returning to a savepoint keeps to itself. -/
theorem run_rollback_to (access : Access) (name : String) :
    access.KeepsToItself (access.runRollbackTo name).access := by
  unfold Access.runRollbackTo
  split
  · exact .refl access
  · split
    · exact .refl access
    · exact with_transaction access _

/-- Whatever statement is performed. -/
theorem perform (access : Access) (text : String) (statement : Statement Stored) :
    access.KeepsToItself (access.perform text statement).access := by
  cases controls : statement.isControl with
  | false =>
    rcases perform_plain_cases access text controls with
      ⟨query, performed⟩ | ⟨change, performed⟩ | ⟨define, -, performed⟩
    · rw [performed]
      exact run_select access query
    · rw [performed]
      exact run_change access change
    · rw [performed]
      unfold countingIndex
      split
      · exact (run_definition access define).trans (counting _ 1)
      · exact run_definition access define
  | true =>
    cases statement with
    | begin mode => exact run_begin access mode
    | commit => exact run_commit access
    | rollback => exact run_rollback access
    | savepoint name => exact run_savepoint access name
    | release name => exact run_release access name
    | rollbackTo name => exact run_rollback_to access name
    | _ => cases controls

/-- A statement keeps to itself, whatever it is. -/
theorem run (access : Access) (statement : Statement Stored) :
    access.KeepsToItself (access.run statement).access := by
  rcases run_cases access statement with ⟨fault, refused⟩ | performed
  · rw [refused]
    exact .refl access
  · rw [performed]
    exact perform access _ _

/-- A text keeps to itself, whatever is read from it. -/
theorem run_text (access : Access) (text : String) (parameters : List Stored) :
    access.KeepsToItself (access.runText text parameters).access := by
  rcases run_text_cases access text parameters with ⟨fault, refused⟩ | ⟨read, -, ran⟩
  · rw [refused]
    exact .refl access
  · rw [ran]
    exact perform access _ _

/-- A connection that an outage strikes keeps to itself. -/
theorem struck {α : Type} (access : Access) (outage : Outage) (isEnd : Bool) :
    access.KeepsToItself (access.struck (α := α) outage isEnd).access := by
  unfold Access.struck
  split
  · exact ended access
  · exact .refl access

end KeepsToItself

end Access

end RecordStore.Engine
