import RecordStore.Proofs.Engine.Holds
import RecordStore.Proofs.Engine.Insertion

/-!
# Changes after changes

A change rewrites rows and nothing else: afterwards the same tables can be changed, and the same
triggers follow. Nor does it move the holds of others. So whoever was let through with a change
could read before it, and is let through with the next one: that comes out as it does in the
database that is seen.
-/

namespace RecordStore.Engine

open Sql

/-! ### The tables and triggers of a database -/

/-- Another relation in the place of the one of its name hides none and shows none. -/
theorem is_some_relation?_with_relation (database : Database) (changed : Relation) (name : String) :
    ((database.withRelation changed).relation? name).isSome = (database.relation? name).isSome := by
  unfold Database.relation? Database.withRelation
  rw [Bool.eq_iff_iff, List.findSome?_map, List.findSome?_isSome_iff, List.findSome?_isSome_iff]
  refine exists_congr fun object => and_congr_right fun _ => ?_
  cases object with
  | relation kept =>
    by_cases same : sameName kept.name changed.name = true
    · simp [same, same_name_congr same]
    · simp [same]
  | _ => rfl

/-- A changed full-text table stands under its name as before. -/
theorem is_some_full_text?_with_full_text (database : Database) (changed : FullTextTable)
    (name : String) :
    ((database.withFullText changed).fullText? name).isSome = (database.fullText? name).isSome := by
  unfold Database.fullText? Database.withFullText
  rw [Bool.eq_iff_iff, List.findSome?_map, List.findSome?_isSome_iff, List.findSome?_isSome_iff]
  refine exists_congr fun object => and_congr_right fun _ => ?_
  cases object with
  | fullText kept =>
    by_cases same : sameName kept.name changed.name = true
    · simp [same, same_name_congr same]
    · simp [same]
  | _ => rfl

/-- A database with tables under the same names as another one, and with the same triggers. -/
structure Database.Resembles (base database : Database) : Prop where
  relations : ∀ name, (database.relation? name).isSome = (base.relation? name).isSome
  fullTexts : ∀ name, (database.fullText? name).isSome = (base.fullText? name).isSome
  triggers : ∀ name event, database.triggersOn name event = base.triggersOn name event

/-- Every step of a change leaves the tables and triggers. -/
theorem kept_by_steps_resembles (base : Database) :
    KeptBySteps (fun _ => True) base.Resembles where
  congr _ _ := trivial
  withRelation _ resembles := {
    relations name := (is_some_relation?_with_relation _ _ name).trans (resembles.relations name)
    fullTexts name := by simpa using resembles.fullTexts name
    triggers name event := by simpa using resembles.triggers name event }
  withFullText _ resembles := {
    relations name := by simpa using resembles.relations name
    fullTexts name := (is_some_full_text?_with_full_text _ _ name).trans (resembles.fullTexts name)
    triggers name event := by simpa using resembles.triggers name event }
  noteNumber relation row resembles := by
    unfold Engine.noteNumber
    split
    · exact ⟨resembles.relations, resembles.fullTexts, resembles.triggers⟩
    · exact resembles

/-- A change leaves the names of all tables and all triggers. -/
theorem Database.change_resembles {database : Database} {change : Change Stored} {effect : Effect}
    (done : database.change change = .ok effect) : database.Resembles effect.database :=
  change_keeps (kept_by_steps_resembles database) (fun _ _ _ _ _ _ _ _ _ => trivial) trivial
    ⟨fun _ => rfl, fun _ => rfl, fun _ _ => rfl⟩ done

/-- A table can be changed if it is a relation or a full-text table. -/
theorem is_some_changed_names (database : Database) (name : String) :
    (changedNames database name).toOption.isSome =
      ((database.relation? name).isSome || (database.fullText? name).isSome) := by
  unfold changedNames
  cases database.relation? name with
  | some relation => rfl
  | none =>
    cases database.fullText? name with
    | some table => rfl
    | none =>
      simp only
      split <;> rfl

/-- What triggers are about is there as it was. -/
theorem Database.Resembles.check_triggers {base database : Database}
    (resembles : base.Resembles database) (change : Change Stored) :
    checkTriggers database change = checkTriggers base change := by
  unfold Engine.checkTriggers
  simp only [resembles.triggers, is_some_changed_names, resembles.relations, resembles.fullTexts]

/-! ### Connections that are let through -/

namespace Access

variable {access held final : Access}

/-- Nothing that others hold keeps a connection from changing its database: nobody else writes, and
outside of a transaction nobody else reads. -/
structure MayChange (access : Access) : Prop where
  writes : access.volume.mayWrite access.number = true
  closes : access.connection.isIdle = true → access.volume.mayClose access.number = true

/-- It depends on what others hold and on whether a transaction is open, and on nothing else. -/
theorem MayChange.congr (may : access.MayChange)
    (others : held.volume.others held.number = access.volume.others access.number)
    (idle : held.connection.isIdle = access.connection.isIdle) : held.MayChange where
  writes := by
    rw [Volume.mayWrite, others]
    exact may.writes
  closes isIdle := by
    rw [Volume.mayClose, others]
    exact may.closes (idle ▸ isIdle)

/-- A connection that may write leaves what others hold. -/
theorem for_writing_others (granted : access.forWriting = .ok held) :
    access.volume.mayWrite access.number = true ∧
      held.volume.others held.number = access.volume.others access.number := by
  obtain ⟨mayWrite, ⟨-, rfl⟩ | ⟨transaction, hold, -, rfl⟩⟩ := for_writing_ok granted
  · exact ⟨mayWrite, rfl⟩
  · refine ⟨mayWrite, ?_⟩
    rw [with_transaction_volume, with_volume_volume]
    exact others_grant _ _ _

/-- What is kept outside of a transaction may be closed, and what others hold stays. -/
theorem keep_others {database : Database} (kept : access.keep database = .ok held) :
    (access.connection.isIdle = true → access.volume.mayClose access.number = true) ∧
      held.volume.others held.number = access.volume.others access.number := by
  rcases keep_ok kept with ⟨transaction, busy, rfl⟩ | ⟨-, mayClose, rfl⟩
  · exact ⟨fun idle => by simp [Connection.isIdle, busy] at idle, rfl⟩
  · refine ⟨fun _ => mayClose, ?_⟩
    rw [with_volume_volume]
    rfl

/-- A change that is answered has passed the checks. -/
theorem run_change_checked {change : Change Stored} {answer : Answer}
    (answered : (access.run (.change change)).answer = .ok answer) :
    checkChange access.visible [] (change.mapOperands Stored.bound) = .ok () ∧
      checkTriggers access.visible (change.mapOperands Stored.bound) = .ok () := by
  cases checked : access.check (.change (change.mapOperands Stored.bound)) with
  | error fault =>
    unfold run at answered
    simp only [Statement.mapOperands, checked] at answered
    cases answered
  | ok _ =>
    obtain ⟨_, changes, triggers⟩ := bind_ok checked
    exact ⟨changes, triggers⟩

/-- Waiting words that enter the index move no holds. -/
theorem working_others {working : Access} (granted : access.forWriting = .ok held)
    (which : working = held ∨ working = held.indexed) :
    working.volume.others working.number = access.volume.others access.number := by
  have others := (for_writing_others granted).2
  rcases which with rfl | rfl
  · exact others
  · rw [indexed_volume, indexed_number]
    exact others

/-- Whoever was let through with a change is let through again. -/
theorem run_change_may_change {change : Change Stored} {answer : Answer}
    (answered : (access.run (.change change)).answer = .ok answer) :
    access.MayChange ∧ (access.run (.change change)).access.MayChange := by
  rcases run_cases access (.change change) with ⟨fault, refused⟩ | performed
  · rw [refused] at answered
    cases answered
  · rw [performed] at answered ⊢
    change (access.runChange (change.mapOperands Stored.bound)).answer = .ok answer at answered
    change _ ∧ (access.runChange (change.mapOperands Stored.bound)).access.MayChange
    rcases run_change_cases access (change.mapOperands Stored.bound) with
      ⟨fault, -, ran⟩ | ⟨held, working, granted, which, ⟨fault, -, ran⟩ |
        ⟨effect, -, ⟨fault, -, ran⟩ | ⟨final, kept, ran⟩⟩⟩
    · rw [ran] at answered
      cases answered
    · rw [ran] at answered
      cases answered
    · rw [ran] at answered
      cases answered
    · obtain ⟨mayClose, keeps⟩ := keep_others kept
      have idle := (working_kept granted which).2.2
      have others := working_others granted which
      have may : access.MayChange := by
        refine ⟨(for_writing_others granted).1, fun isIdle => ?_⟩
        have closes := mayClose (idle.trans isIdle)
        rwa [Volume.mayClose, others] at closes
      rw [ran]
      refine ⟨may, may.congr (keeps.trans others) ?_⟩
      rw [changed_is_idle, keep_is_idle kept, idle]

/-- Whoever is let through with changes may read. -/
theorem MayChange.for_reading (may : access.MayChange) : access.forReading.isOk = true := by
  have reads : access.volume.mayRead access.number = true := by
    have writes := may.writes
    rw [Volume.mayWrite, List.all_eq_true] at writes
    rw [Volume.mayRead, List.all_eq_true]
    intro hold member
    have reading := writes hold member
    cases hold <;> first | rfl | cases reading
  unfold Access.forReading
  simp only [reads, if_true]
  split <;> rfl

/-- A change with which a connection is let through comes out as it does in the database that is
seen, and its rows are counted. Proof: outside of a transaction nobody else holds anything, and
inside of one nobody asks, so the change is performed. -/
theorem MayChange.run_change (may : access.MayChange) {change : Change Stored} {effect : Effect}
    (done : access.visible.change change = .ok effect) :
    (access.runChange change).answer = .ok default ∧
      (access.runChange change).access.connection.changes = effect.changed := by
  rcases run_change_cases access change with
    ⟨fault, refused, -⟩ | ⟨held, working, granted, which, rest⟩
  · cases may.writes.symm.trans (for_writing_error refused).2
  · obtain ⟨seen, -, idle⟩ := working_kept granted which
    rcases rest with ⟨fault, failed, -⟩ | ⟨other, doneToo, ⟨fault, refused, -⟩ | ⟨final, -, ran⟩⟩
    · rw [seen, done] at failed
      cases failed
    · have still := may.congr (working_others granted which) idle
      obtain ⟨-, none, held⟩ := keep_error refused
      cases (still.closes (by simp [Connection.isIdle, none])).symm.trans held
    · rw [seen, done] at doneToo
      cases doneToo
      rw [ran]
      exact ⟨rfl, rfl⟩

/-- So such a change is answered if it passes the checks. -/
theorem MayChange.run_of_change (may : access.MayChange) {change : Change Stored} {effect : Effect}
    (changes : checkChange access.visible [] (change.mapOperands Stored.bound) = .ok ())
    (triggers : checkTriggers access.visible (change.mapOperands Stored.bound) = .ok ())
    (done : access.visible.change (change.mapOperands Stored.bound) = .ok effect) :
    (access.run (.change change)).answer = .ok default ∧
      (access.run (.change change)).access.connection.changes = effect.changed := by
  have checked : access.check (.change (change.mapOperands Stored.bound)) = .ok () := by
    simp only [check, changes, triggers]
    rfl
  unfold run
  simp only [Statement.mapOperands, checked]
  exact may.run_change done

end Access

end RecordStore.Engine
