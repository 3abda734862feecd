import Mathlib.Data.List.Forall2
import RecordStore.Engine.Connection
import RecordStore.Proofs.Engine.Elsewhere

/-!
# Making objects

An object that is made comes behind all others. Names that found something still find it, and
the name of the new object finds the new object, since it was not taken.
-/

namespace RecordStore.Engine

open Sql

namespace Database

variable {database : Database} {name : String}

/-! ### What is found behind a new object -/

/-- A table that is put behind all objects is found where no table of its name was. -/
theorem relation?_push_relation (database : Database) (relation : Relation) (name : String) :
    (database.push (.relation relation)).relation? name =
      (database.relation? name).or
        (if sameName relation.name name then some relation else none) := by
  unfold relation? push
  rw [List.findSome?_append]
  by_cases meant : sameName relation.name name = true <;> simp [meant]

/-- No other object changes which table is found. -/
theorem relation?_push_other {object : Object} (other : ∀ relation, object ≠ .relation relation)
    (database : Database) (name : String) :
    (database.push object).relation? name = database.relation? name := by
  unfold relation? push
  rw [List.findSome?_append]
  cases object with
  | relation relation => exact absurd rfl (other relation)
  | _ => simp

/-- A full-text table that is put behind all objects is found where none of its name was. -/
theorem full_text?_push_full_text (database : Database) (table : FullTextTable) (name : String) :
    (database.push (.fullText table)).fullText? name =
      (database.fullText? name).or (if sameName table.name name then some table else none) := by
  unfold fullText? push
  rw [List.findSome?_append]
  by_cases meant : sameName table.name name = true <;> simp [meant]

/-- No other object changes which full-text table is found. -/
theorem full_text?_push_other {object : Object} (other : ∀ table, object ≠ .fullText table)
    (database : Database) (name : String) :
    (database.push object).fullText? name = database.fullText? name := by
  unfold fullText? push
  rw [List.findSome?_append]
  cases object with
  | fullText table => exact absurd rfl (other table)
  | _ => simp

/-- A trigger that is put behind all objects fires before the others on its table. -/
theorem triggers_on_push_trigger (database : Database) (trigger : Trigger) (name : String)
    (event : RowEvent) :
    (database.push (.trigger trigger)).triggersOn name event =
      if sameName trigger.table name && trigger.event == event then
        trigger :: database.triggersOn name event
      else database.triggersOn name event := by
  unfold triggersOn push
  rw [List.filterMap_append, List.reverse_append]
  by_cases meant : (sameName trigger.table name && trigger.event == event) = true
  · simp only [List.filterMap_cons, List.filterMap_nil, meant, if_true]
    rfl
  · simp only [List.filterMap_cons, List.filterMap_nil, meant, if_false, Bool.false_eq_true]
    rfl

/-- No other object changes which triggers fire. -/
theorem triggers_on_push_other {object : Object} (other : ∀ trigger, object ≠ .trigger trigger)
    (database : Database) (name : String) (event : RowEvent) :
    (database.push object).triggersOn name event = database.triggersOn name event := by
  unfold triggersOn push
  rw [List.filterMap_append]
  cases object with
  | trigger trigger => exact absurd rfl (other trigger)
  | _ => simp

/-! ### Triggers behind each other -/

/-- The database with triggers behind all of its objects. -/
def pushTriggers (database : Database) (triggers : List Trigger) : Database :=
  triggers.foldl (fun database trigger => database.push (.trigger trigger)) database

/-- Triggers change no table. -/
@[simp] theorem relation?_push_triggers (database : Database) (triggers : List Trigger)
    (name : String) : (database.pushTriggers triggers).relation? name =
      database.relation? name := by
  induction triggers generalizing database with
  | nil => rfl
  | cons trigger rest inductionHypothesis =>
    exact (inductionHypothesis _).trans
      (relation?_push_other (fun _ same => by cases same) database name)

/-- Triggers change no full-text table. -/
@[simp] theorem full_text?_push_triggers (database : Database) (triggers : List Trigger)
    (name : String) : (database.pushTriggers triggers).fullText? name =
      database.fullText? name := by
  induction triggers generalizing database with
  | nil => rfl
  | cons trigger rest inductionHypothesis =>
    exact (inductionHypothesis _).trans
      (full_text?_push_other (fun _ same => by cases same) database name)

/-- The triggers that were made last come first. -/
theorem triggers_on_push_triggers (database : Database) (triggers : List Trigger) (name : String)
    (event : RowEvent) :
    (database.pushTriggers triggers).triggersOn name event =
      (triggers.filter fun trigger => sameName trigger.table name && trigger.event == event).reverse
        ++ database.triggersOn name event := by
  induction triggers generalizing database with
  | nil => rfl
  | cons trigger rest inductionHypothesis =>
    refine (inductionHypothesis (database.push (.trigger trigger))).trans ?_
    rw [triggers_on_push_trigger, List.filter_cons]
    by_cases meant : (sameName trigger.table name && trigger.event == event) = true
    · simp [meant]
    · simp [meant]

/-- What fires after triggers were added is one of them, if it is on the table, or fired before. -/
theorem mem_triggers_on_push_triggers {triggers : List Trigger} {event : RowEvent}
    {listed : Trigger} (member : listed ∈ (database.pushTriggers triggers).triggersOn name event) :
    (listed ∈ triggers ∧ sameName listed.table name = true) ∨
      listed ∈ database.triggersOn name event := by
  rw [triggers_on_push_triggers] at member
  rcases List.mem_append.mp member with new | old
  · have kept := List.mem_filter.mp (List.mem_reverse.mp new)
    simp only [Bool.and_eq_true] at kept
    exact .inl ⟨kept.1, kept.2.1⟩
  · exact .inr old

/-! ### Names that are taken -/

/-- A table that is found is one that is there. -/
theorem has_table_of_relation? {relation : Relation}
    (held : database.relation? name = some relation) : database.hasTable name = true := by
  obtain ⟨object, member, matched⟩ := List.exists_of_findSome?_eq_some held
  split at matched
  · split at matched
    · rename_i kept same
      exact List.any_eq_true.mpr ⟨_, member, by simp [Object.tableNames, same_name_comm name, same]⟩
    · cases matched
  · cases matched

/-- A full-text table that is found is one that is there. -/
theorem has_table_of_full_text? {table : FullTextTable}
    (held : database.fullText? name = some table) : database.hasTable name = true := by
  obtain ⟨object, member, matched⟩ := List.exists_of_findSome?_eq_some held
  split at matched
  · split at matched
    · rename_i kept same
      exact List.any_eq_true.mpr ⟨_, member, by simp [Object.tableNames, same_name_comm name, same]⟩
    · cases matched
  · cases matched

/-- Whether a table is there does not depend on how its name is written. -/
theorem has_table_congr {left right : String} (same : sameName left right = true)
    (database : Database) : database.hasTable left = database.hasTable right := by
  unfold hasTable
  congr 1
  funext object
  congr 1
  funext other
  exact same_name_congr same other

/-- A name that is free finds nothing. -/
theorem relation?_of_free (free : database.hasTable name = false) :
    database.relation? name = none := by
  cases held : database.relation? name with
  | none => rfl
  | some relation =>
    rw [has_table_of_relation? held] at free
    cases free

/-- Under a free name no full-text table is found. -/
theorem full_text?_of_free (free : database.hasTable name = false) :
    database.fullText? name = none := by
  cases held : database.fullText? name with
  | none => rfl
  | some table =>
    rw [has_table_of_full_text? held] at free
    cases free

/-- A name that finds something is not the same as a free one. -/
theorem apart_of_free {other : String} (free : database.hasTable other = false)
    (taken : database.hasTable name = true) : sameName other name = false := by
  by_contra same
  rw [has_table_congr (by simpa using same), taken] at free
  cases free

/-- A table stays there when an object is added. -/
theorem has_table_push {object : Object} (held : database.hasTable name = true) :
    (database.push object).hasTable name = true := by
  unfold hasTable push at *
  rw [List.any_append, held]
  rfl

/-- A table stays there when triggers are added. -/
theorem has_table_push_triggers (triggers : List Trigger) (held : database.hasTable name = true) :
    (database.pushTriggers triggers).hasTable name = true := by
  induction triggers generalizing database with
  | nil => exact held
  | cons trigger rest inductionHypothesis => exact inductionHypothesis (has_table_push held)

/-- Databases in which all triggers are about tables that are there: they follow changes of
such tables, and they change full-text tables. -/
structure WellFollowed (database : Database) : Prop where
  follows : ∀ name event trigger, trigger ∈ database.triggersOn name event →
    database.hasTable name = true
  changes : ∀ name event trigger, trigger ∈ database.triggersOn name event →
    ∀ step ∈ trigger.body, (database.fullText? (tableOf step)).isSome = true

/-- Without objects there is no trigger that could be about a missing table. -/
theorem well_followed_of_empty (empty : database.objects = []) : database.WellFollowed := by
  constructor
  · intro name event trigger listed
    simp [triggersOn, empty] at listed
  · intro name event trigger listed
    simp [triggersOn, empty] at listed

/-- A table that is made leaves the triggers about tables that are there. -/
theorem WellFollowed.push_table {object : Object} (well : database.WellFollowed)
    (table : ∀ trigger, object ≠ .trigger trigger) : (database.push object).WellFollowed := by
  constructor
  · intro name event trigger listed
    rw [triggers_on_push_other table] at listed
    exact has_table_push (well.follows name event trigger listed)
  · intro name event trigger listed step inBody
    rw [triggers_on_push_other table] at listed
    have found := well.changes name event trigger listed step inBody
    cases object with
    | fullText made =>
      rw [full_text?_push_full_text, Option.isSome_or, found]
      rfl
    | relation _ => rwa [full_text?_push_other fun _ same => by cases same]
    | trigger follower => exact absurd rfl (table follower)
    | sequence => rwa [full_text?_push_other fun _ same => by cases same]

/-- So do triggers that are about tables that are there. -/
theorem WellFollowed.push_triggers {triggers : List Trigger} (well : database.WellFollowed)
    (follows : ∀ trigger ∈ triggers, database.hasTable trigger.table = true)
    (changes : ∀ trigger ∈ triggers, ∀ step ∈ trigger.body,
      (database.fullText? (tableOf step)).isSome = true) :
    (database.pushTriggers triggers).WellFollowed := by
  constructor
  · intro name event listed member
    rcases mem_triggers_on_push_triggers member with ⟨new, same⟩ | old
    · rw [← has_table_congr same]
      exact has_table_push_triggers triggers (follows listed new)
    · exact has_table_push_triggers triggers (well.follows name event listed old)
  · intro name event listed member step inBody
    rw [full_text?_push_triggers]
    rcases mem_triggers_on_push_triggers member with ⟨new, -⟩ | old
    · exact changes listed new step inBody
    · exact well.changes name event listed old step inBody

end Database

/-! ### What a creation makes -/

/-- A table is to be made under a name that is free; where one is there already, nothing may be to
be done. -/
theorem require_new_table_ok {database : Database} {name : String} {ifMissing make : Bool}
    (required : requireNewTable database name ifMissing = .ok make) :
    (ifMissing = true ∧ make = false) ∨ (database.hasTable name = false ∧ make = true) := by
  unfold requireNewTable at required
  by_cases internal : isInternalName name = true
  · simp only [internal, if_true] at required
    cases required
  · by_cases taken : database.hasTable name = true
    · simp only [internal, taken, if_true, if_false, Bool.false_eq_true] at required
      split at required
      · rename_i mayBe
        cases required
        exact .inl ⟨mayBe, rfl⟩
      · cases required
    · simp only [internal, taken, if_false, Bool.false_eq_true] at required
      cases required
      exact .inr ⟨by simpa using taken, rfl⟩

section Created

variable {database after : Database} {text : String}

/-- A table that is created is the relation of its definition, under a name that was free, unless it
may be there already. A relation whose numbers are never given again may bring the table that shows
them. -/
theorem create_table_cases {definition : TableDefinition}
    (created : createTable database definition text = .ok after) :
    (definition.ifMissing = true ∧ after = database) ∨
    database.hasTable definition.name = false ∧
      ∃ relation, relationOf definition text = .ok relation ∧
        (after = database.push (.relation relation) ∨
          after = (database.push (.relation relation)).push .sequence) := by
  unfold createTable at created
  obtain ⟨make, required, created⟩ := bind_ok created
  rcases require_new_table_ok required with ⟨mayBe, rfl⟩ | ⟨free, rfl⟩
  · cases created
    exact .inl ⟨mayBe, rfl⟩
  · simp only [Bool.not_true, Bool.false_eq_true, if_false] at created
    obtain ⟨relation, made, created⟩ := bind_ok created
    refine .inr ⟨free, relation, made, ?_⟩
    simp only [pure, Except.pure, Except.ok.injEq] at created
    split at created
    · exact .inr created.symm
    · exact .inl created.symm

/-- A full-text table that is created has the columns of its definition and no rows, under a name
that was free, unless it may be there already. -/
theorem create_full_text_cases {definition : FullTextDefinition}
    (created : createFullText database definition text = .ok after) :
    (definition.ifMissing = true ∧ after = database) ∨
    database.hasTable definition.name = false ∧
      after = database.push (.fullText ⟨definition.name, definition.columns, [], text⟩) := by
  unfold createFullText at created
  obtain ⟨make, required, created⟩ := bind_ok created
  rcases require_new_table_ok required with ⟨mayBe, rfl⟩ | ⟨free, rfl⟩
  · cases created
    exact .inl ⟨mayBe, rfl⟩
  · refine .inr ⟨free, ?_⟩
    simp only [Bool.not_true, Bool.false_eq_true, if_false] at created
    split at created
    · cases created
    · split at created
      · cases created
      · split at created
        · cases created
        · cases created
          rfl

/-- A trigger that is created follows a relation that is there, unless it may be there already. -/
theorem create_trigger_cases {definition : TriggerDefinition Stored}
    (created : createTrigger database definition text = .ok after) :
    (definition.ifMissing = true ∧ after = database) ∨
    ∃ relation, database.relation? definition.table = some relation ∧
      after = database.push (.trigger
        ⟨definition.name, definition.event, relation.name, definition.body, text⟩) := by
  unfold createTrigger at created
  by_cases fullText : (database.fullText? definition.table).isSome = true
  · simp only [fullText, if_true] at created
    cases created
  · simp only [fullText, if_false, Bool.false_eq_true] at created
    cases held : database.relation? definition.table with
    | none =>
      simp only [held] at created
      cases created
    | some relation =>
      simp only [held] at created
      by_cases internal : isInternalName definition.name = true
      · simp only [internal, if_true] at created
        cases created
      · simp only [internal, if_false, Bool.false_eq_true] at created
        split at created
        · split at created
          · rename_i mayBe
            cases created
            exact .inl ⟨mayBe, rfl⟩
          · cases created
        · cases created
          exact .inr ⟨relation, rfl, rfl⟩

/-- A new table is the relation of its definition, under a name that was free. -/
theorem create_table_ok {definition : TableDefinition} (new : definition.ifMissing = false)
    (created : createTable database definition text = .ok after) :
    database.hasTable definition.name = false ∧
      ∃ relation, relationOf definition text = .ok relation ∧
        (after = database.push (.relation relation) ∨
          after = (database.push (.relation relation)).push .sequence) :=
  (create_table_cases created).resolve_left (by simp [new])

/-- A new full-text table has the columns of its definition and no rows, under a name that was
free. -/
theorem create_full_text_ok {definition : FullTextDefinition} (new : definition.ifMissing = false)
    (created : createFullText database definition text = .ok after) :
    database.hasTable definition.name = false ∧
      after = database.push (.fullText ⟨definition.name, definition.columns, [], text⟩) :=
  (create_full_text_cases created).resolve_left (by simp [new])

/-- A new trigger follows a relation that is there. -/
theorem create_trigger_ok {definition : TriggerDefinition Stored}
    (new : definition.ifMissing = false)
    (created : createTrigger database definition text = .ok after) :
    ∃ relation, database.relation? definition.table = some relation ∧
      after = database.push (.trigger
        ⟨definition.name, definition.event, relation.name, definition.body, text⟩) :=
  (create_trigger_cases created).resolve_left (by simp [new])

end Created

/-- What a statement makes of a database. -/
def making (database : Database) (statement : Statement Stored) : Except Fault Database :=
  match Access.definition? statement.render statement with
  | some define => define database
  | none => .ok database

/-- A trigger that was made from a definition. -/
structure MadeFrom (definition : TriggerDefinition Stored) (trigger : Trigger) : Prop where
  event : trigger.event = definition.event
  body : trigger.body = definition.body
  follows : sameName trigger.table definition.table = true

/-- Every trigger that was made has the definition of which it was made. -/
theorem exists_definition {definitions : List (TriggerDefinition Stored)}
    {triggers : List Trigger} (made : List.Forall₂ MadeFrom definitions triggers) :
    ∀ trigger ∈ triggers, ∃ definition ∈ definitions, MadeFrom definition trigger := by
  induction made with
  | nil => exact fun _ member => by cases member
  | cons from' _ inductionHypothesis =>
    intro trigger member
    rcases List.mem_cons.mp member with rfl | later
    · exact ⟨_, List.mem_cons_self, from'⟩
    · obtain ⟨definition, among, made⟩ := inductionHypothesis trigger later
      exact ⟨definition, List.mem_cons_of_mem _ among, made⟩

/-- Triggers that are made one after the other come behind all other objects. -/
theorem create_triggers_ok {database after : Database}
    (definitions : List (TriggerDefinition Stored))
    (new : ∀ definition ∈ definitions, definition.ifMissing = false)
    (created : (definitions.map Statement.createTrigger).foldlM making database = .ok after) :
    ∃ triggers, after = database.pushTriggers triggers ∧
      List.Forall₂ MadeFrom definitions triggers := by
  induction definitions generalizing database with
  | nil =>
    cases created
    exact ⟨[], rfl, .nil⟩
  | cons definition rest inductionHypothesis =>
    rw [List.map_cons, List.foldlM_cons] at created
    obtain ⟨next, first, later⟩ := bind_ok created
    obtain ⟨relation, held, rfl⟩ := create_trigger_ok (new definition List.mem_cons_self) first
    obtain ⟨triggers, rfl, made⟩ :=
      inductionHypothesis (fun other member => new other (List.mem_cons_of_mem _ member)) later
    refine ⟨_ :: triggers, rfl, .cons ⟨rfl, rfl, ?_⟩ made⟩
    exact Database.relation?_name held

end RecordStore.Engine
