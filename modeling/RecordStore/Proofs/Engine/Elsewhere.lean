import RecordStore.Proofs.Engine.Steps

/-!
# What a change does not touch

A change touches the table that it is about, and its triggers touch the tables that they are
about. Tables with other names stay what they were, and so do all triggers.
-/

namespace RecordStore.Engine

open Sql

/-- A name that the engine tells apart from all names of a list. -/
def Outside (names : List String) (name : String) : Prop :=
  ∀ kept ∈ names, sameName name kept = false

/-- Two databases with the same tables under some names, and with the same triggers. -/
structure Database.AgreeOn (names : List String) (left right : Database) : Prop where
  relations : ∀ name ∈ names, right.relation? name = left.relation? name
  fullTexts : ∀ name ∈ names, right.fullText? name = left.fullText? name
  triggers : ∀ name event, right.triggersOn name event = left.triggersOn name event

/-- Triggers on tables outside of some names are about tables outside of them. -/
def Database.ClosedOutside (names : List String) (database : Database) : Prop :=
  ∀ name event, Outside names name → ∀ trigger ∈ database.triggersOn name event,
    ∀ step ∈ trigger.body, Outside names (tableOf step)

namespace Database.AgreeOn

variable {names : List String} {base database : Database}

/-- A database agrees with itself. -/
theorem refl (names : List String) (database : Database) : AgreeOn names database database :=
  ⟨fun _ _ => rfl, fun _ _ => rfl, fun _ _ => rfl⟩

/-- Databases that agree under some names still do if a table outside of them is changed in one. -/
theorem with_relation (agree : AgreeOn names base database) {changed : Relation}
    (outside : Outside names changed.name) :
    AgreeOn names base (database.withRelation changed) where
  relations name member := by
    rw [relation?_with_relation_of_ne database (outside name member)]
    exact agree.relations name member
  fullTexts name member := by
    rw [full_text?_with_relation]
    exact agree.fullTexts name member
  triggers name event := by
    rw [triggers_on_with_relation]
    exact agree.triggers name event

/-- So they do if a full-text table outside of them is changed in one. -/
theorem with_full_text (agree : AgreeOn names base database) {changed : FullTextTable}
    (outside : Outside names changed.name) :
    AgreeOn names base (database.withFullText changed) where
  relations name member := by
    rw [relation?_with_full_text]
    exact agree.relations name member
  fullTexts name member := by
    rw [full_text?_with_full_text_of_ne database (outside name member)]
    exact agree.fullTexts name member
  triggers name event := by
    rw [triggers_on_with_full_text]
    exact agree.triggers name event

/-- Noting a number touches no table. -/
theorem note_number (agree : AgreeOn names base database) (relation : Relation) (row : Row) :
    AgreeOn names base (noteNumber database relation row) := by
  unfold Engine.noteNumber
  split
  · exact ⟨agree.relations, agree.fullTexts, agree.triggers⟩
  · exact agree

end Database.AgreeOn

/-- Whether a name is outside of others does not depend on how it is written. -/
theorem Outside.congr {names : List String} {left right : String}
    (outside : Outside names left) (same : sameName right left = true) : Outside names right := by
  intro kept member
  rw [same_name_congr same]
  exact outside kept member

/-- Steps about other tables keep the tables under some names. -/
theorem kept_by_steps_agree_on (names : List String) (base : Database) :
    KeptBySteps (Outside names) (base.AgreeOn names) where
  congr := Outside.congr
  withRelation outside agree := agree.with_relation outside
  withFullText outside agree := agree.with_full_text outside
  noteNumber relation row agree := agree.note_number relation row

/-- A change with all that its triggers do touches no table under some names, if it is about
none of them and no trigger outside of them is. -/
theorem Database.change_outside {names : List String} {database : Database}
    {change : Change Stored} {effect : Effect} (closed : database.ClosedOutside names)
    (outside : Outside names (tableOf change))
    (done : database.change change = .ok effect) : database.AgreeOn names effect.database := by
  refine change_keeps (kept_by_steps_agree_on names database) ?_ outside (.refl names database) done
  intro name outsideNow event after agree trigger listed
  rw [agree.triggers] at listed
  exact closed name event outsideNow trigger listed

/-- What follows a row of a table touches no table under some names, if no trigger is about one of
them. -/
theorem follow_outside (names : List String) {base : Database}
    (spared : ∀ name event, ∀ trigger ∈ base.triggersOn name event, ∀ step ∈ trigger.body,
      Outside names (tableOf step)) (depth : Nat) (running : List String) (name : String) :
    (follow depth running name).Keeps (base.AgreeOn names) := by
  have about : ∀ name event after, base.AgreeOn names after →
      ∀ trigger ∈ after.triggersOn name event, ∀ step ∈ trigger.body,
        Outside names (tableOf step) := by
    intro name event after agree trigger listed
    rw [agree.triggers] at listed
    exact spared name event trigger listed
  exact follow_keeps (kept_by_steps_agree_on names base) (fun name _ => about name) depth running
    (about name)

end RecordStore.Engine
