import RecordStore.Engine.Connection

/-!
# What a connection sees

A connection sees its own draft, or what is committed. Taking and giving back holds changes
neither. Writing changes the draft inside a transaction and what is committed outside of one;
the end of a transaction commits the draft or forgets it.
-/

namespace RecordStore.Engine

namespace Disk

/-- What is put at a location is what is there. -/
@[simp] theorem volume_put (disk : Disk) (location : Location) (volume : Volume) :
    (disk.put location volume).volume location = volume := by
  simp [put, Disk.volume]

/-- Removing a location leaves what is found at others. -/
theorem find_remove (disk : Disk) {location other : Location} (different : other ≠ location) :
    (disk.remove location).volumes.find? (fun entry => entry.1 == other) =
      disk.volumes.find? (fun entry => entry.1 == other) := by
  simp only [remove, List.find?_filter]
  congr 1
  funext entry
  by_cases same : entry.1 = other
  · simp [same, different]
  · simp [same]

/-- Putting at a location leaves what is at others. -/
theorem volume_put_of_ne (disk : Disk) {location other : Location} (volume : Volume)
    (different : other ≠ location) :
    (disk.put location volume).volume other = disk.volume other := by
  have elsewhere : (location == other) = false := by simpa using Ne.symm different
  simp only [put, Disk.volume, List.find?_cons, elsewhere, find_remove disk different]

/-- Removing a location leaves what is at others. -/
theorem volume_remove_of_ne (disk : Disk) {location other : Location}
    (different : other ≠ location) :
    (disk.remove location).volume other = disk.volume other := by
  simp only [Disk.volume, find_remove disk different]

/-- At a location that was removed there is an empty volume. -/
@[simp] theorem volume_remove (disk : Disk) (location : Location) :
    (disk.remove location).volume location = {} := by
  have none : (disk.remove location).volumes.find? (fun entry => entry.1 == location) = none := by
    simp [remove]
  simp [Disk.volume, none]

end Disk

namespace Access

variable {access held : Access}

/-- An access with a volume works on it. -/
@[simp] theorem with_volume_volume (access : Access) (volume : Volume) :
    (access.withVolume volume).volume = volume :=
  Disk.volume_put access.disk access.connection.location volume

/-- Another transaction leaves the volume. -/
@[simp] theorem with_transaction_volume (access : Access) (transaction : Option Transaction) :
    (access.withTransaction transaction).volume = access.volume := rfl

/-- Counting changes leaves what is seen. -/
@[simp] theorem counting_visible (access : Access) (changes : Nat) :
    (access.counting changes).visible = access.visible := rfl

/-- Without a transaction a connection sees what is committed. -/
theorem visible_of_idle (idle : access.connection.transaction = none) :
    access.visible = access.volume.content := by
  simp [visible, idle]

/-- Volumes with the same content show the same. -/
theorem with_volume_visible (access : Access) (volume : Volume)
    (same : volume.content = access.volume.content) :
    (access.withVolume volume).visible = access.visible := by
  unfold visible
  rw [with_volume_volume, same]
  rfl

/-- Words that enter the index leave the volume. -/
@[simp] theorem indexed_volume (access : Access) : access.indexed.volume = access.volume := by
  unfold indexed
  split
  · rfl
  · split <;> rfl

/-- Words that enter the index leave what is seen. -/
@[simp] theorem indexed_visible (access : Access) : access.indexed.visible = access.visible := by
  unfold indexed
  split
  · rfl
  · rename_i transaction found
    split
    · simp [counting, withTransaction, visible, volume, found]
    · rfl

/-! ### What a statement takes and keeps -/

/-- Nobody else may be writing where something is written. Outside of a transaction nothing is held
for it; inside of one its hold is taken, and the draft is started. -/
theorem for_writing_ok (granted : access.forWriting = .ok held) :
    access.volume.mayWrite access.number = true ∧
    ((access.connection.transaction = none ∧ held = access) ∨
      ∃ transaction hold, access.connection.transaction = some transaction ∧
        held = (access.withVolume (access.volume.grant access.number hold)).withTransaction
          (some { transaction with draft := some access.visible })) := by
  unfold forWriting at granted
  simp only at granted
  split at granted
  · rename_i mayWrite
    refine ⟨mayWrite, ?_⟩
    split at granted
    · rename_i idle
      cases granted
      exact .inl ⟨idle, rfl⟩
    · rename_i transaction busy
      cases granted
      exact .inr ⟨transaction, _, busy, rfl⟩
  · cases granted

/-- A connection that may not write is told that the volume is locked. -/
theorem for_writing_error {fault : Fault} (refused : access.forWriting = .error fault) :
    fault = .locked ∧ access.volume.mayWrite access.number = false := by
  unfold forWriting at refused
  simp only at refused
  split at refused
  · split at refused <;> cases refused
  · rename_i held
    cases refused
    exact ⟨rfl, eq_false_of_ne_true held⟩

/-- What is written is kept in the draft of the transaction; outside of one it is kept for
everybody, if nobody holds the volume. -/
theorem keep_ok {database : Database} (kept : access.keep database = .ok held) :
    (∃ transaction, access.connection.transaction = some transaction ∧
      held = access.withTransaction (some { transaction with draft := some database })) ∨
    (access.connection.transaction = none ∧ access.volume.mayClose access.number = true ∧
      held = access.withVolume { access.volume with content := database }) := by
  unfold keep at kept
  split at kept
  · rename_i transaction busy
    cases kept
    exact .inl ⟨transaction, busy, rfl⟩
  · rename_i idle
    simp only at kept
    split at kept
    · rename_i mayClose
      cases kept
      exact .inr ⟨idle, mayClose, rfl⟩
    · cases kept

/-- What cannot be kept is locked by others, outside of a transaction. -/
theorem keep_error {database : Database} {fault : Fault}
    (refused : access.keep database = .error fault) :
    fault = .locked ∧ access.connection.transaction = none ∧
      access.volume.mayClose access.number = false := by
  unfold keep at refused
  split at refused
  · cases refused
  · rename_i idle
    simp only at refused
    split at refused
    · cases refused
    · rename_i held
      cases refused
      exact ⟨rfl, idle, eq_false_of_ne_true held⟩

/-- What is read is not held outside of a transaction, nor inside of one that has a hold already. -/
theorem for_reading_ok (granted : access.forReading = .ok held) :
    held = access ∨ access.connection.isIdle = false ∧
      held = access.withVolume (access.volume.grant access.number .reading) := by
  unfold forReading at granted
  simp only at granted
  split at granted
  · cases granted
    exact .inl rfl
  · rename_i busy _
    split at granted <;> cases granted
    exact .inr ⟨by simp [Connection.isIdle, busy], rfl⟩
  · split at granted <;> cases granted
    exact .inl rfl

/-- A query leaves the access as it is, or takes the hold for reading. -/
theorem run_select_access (access : Access) (query : Sql.Select Stored) :
    (access.runSelect query).access = access ∨
      access.forReading = .ok (access.runSelect query).access := by
  unfold runSelect
  split
  · exact .inl rfl
  · split
    · exact .inl rfl
    · rename_i granted
      exact .inr granted

/-- The ways in which the making of an object can end: it cannot be made or the hold for writing is
refused, there is no leave to commit it, or it is kept. -/
theorem run_definition_cases (access : Access) (define : Database → Except Fault Database) :
    (∃ fault, access.runDefinition define = ⟨access, .error fault⟩) ∨
    ∃ database held, define access.visible = .ok database ∧ access.forWriting = .ok held ∧
      ((∃ fault, access.runDefinition define = ⟨held, .error fault⟩) ∨
      ∃ final, held.keep database = .ok final ∧
        access.runDefinition define = ⟨final, .ok default⟩) := by
  unfold runDefinition
  cases defined : define access.visible with
  | error fault => exact .inl ⟨fault, rfl⟩
  | ok database =>
    cases granted : access.forWriting with
    | error fault => exact .inl ⟨fault, rfl⟩
    | ok held =>
      refine .inr ⟨database, held, rfl, rfl, ?_⟩
      simp only
      cases kept : held.keep database with
      | error fault => exact .inl ⟨fault, rfl⟩
      | ok final => exact .inr ⟨final, rfl, rfl⟩

/-- What a new transaction holds from its start on: nothing, what a statement takes that writes, or
beside that the whole volume. -/
theorem for_mode_ok {mode : Sql.TransactionMode} (granted : access.forMode mode = .ok held) :
    held = access.opened ∨ ∃ writing, access.opened.forWriting = .ok writing ∧
      (held = writing ∨
        held = writing.withVolume (writing.volume.grant writing.number .alone)) := by
  unfold forMode at granted
  cases mode with
  | deferred =>
    cases granted
    exact .inl rfl
  | immediate => exact .inr ⟨held, granted, .inl rfl⟩
  | exclusive =>
    simp only [bind, Except.bind] at granted
    cases writes : access.opened.forWriting with
    | error fault =>
      rw [writes] at granted
      cases granted
    | ok writing =>
      rw [writes] at granted
      simp only at granted
      split at granted
      · cases granted
        exact .inr ⟨writing, rfl, .inr rfl⟩
      · cases granted

/-! ### What is seen then -/

/-- The hold for writing changes nothing that is seen or committed. -/
theorem for_writing_visible (granted : access.forWriting = .ok held) :
    held.visible = access.visible ∧ held.volume.content = access.volume.content := by
  obtain ⟨-, ⟨-, rfl⟩ | ⟨transaction, hold, -, rfl⟩⟩ := for_writing_ok granted
  · exact ⟨rfl, rfl⟩
  · exact ⟨rfl, by simp [Volume.grant, Volume.release]⟩

/-- The hold for reading changes nothing that is seen or committed. -/
theorem for_reading_visible (granted : access.forReading = .ok held) :
    held.visible = access.visible ∧ held.volume.content = access.volume.content := by
  rcases for_reading_ok granted with rfl | ⟨-, rfl⟩
  · exact ⟨rfl, rfl⟩
  · exact ⟨with_volume_visible _ _ rfl, by simp [Volume.grant, Volume.release]⟩

/-- What was kept is seen, and outside of a transaction it is committed. -/
theorem keep_visible {database : Database} (kept : access.keep database = .ok held) :
    held.visible = database ∧
      (held.volume.content = access.volume.content ∨ held.volume.content = database) := by
  rcases keep_ok kept with ⟨transaction, -, rfl⟩ | ⟨idle, -, rfl⟩
  · exact ⟨by simp [visible, withTransaction], .inl rfl⟩
  · refine ⟨?_, .inr (by simp)⟩
    rw [visible_of_idle (by exact idle), with_volume_volume]

/-- Ending a transaction leaves what is committed. -/
@[simp] theorem ended_volume_content (access : Access) :
    access.ended.volume.content = access.volume.content := by
  simp [ended, Volume.release]

/-- The end of a transaction that forgets its draft shows what is committed. -/
@[simp] theorem ended_visible (access : Access) :
    access.ended.visible = access.volume.content := by
  rw [visible_of_idle rfl, ended_volume_content]

/-- Noting what a change did leaves the volume. -/
@[simp] theorem changed_volume (access : Access) (effect : Effect) (reaches : Bool) :
    (access.changed effect reaches).volume = access.volume := rfl

/-- Noting what a change did leaves what is seen. -/
@[simp] theorem changed_visible (access : Access) (effect : Effect) (reaches : Bool) :
    (access.changed effect reaches).visible = access.visible := by
  unfold visible
  rw [changed_volume]
  cases found : access.connection.transaction <;> simp [changed, found]

end Access

end RecordStore.Engine
