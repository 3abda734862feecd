import RecordStore.Engine.Connection
import RecordStore.Proofs.Engine.Definitions
import RecordStore.Proofs.Shadow.Changes

/-!
# Making tables and their mirrors

The statements of a table make its relation, its full-text table and the triggers between them,
all of them new. What they make is a mirror of nothing, and the mirrors of tables that were made
before stay what they are.
-/

namespace RecordStore

open Engine Sql

namespace Table

variable {table : Table} {database after : Database} {relation : Relation}
  {shadow : FullTextTable}

/-! ### New objects beside a mirror -/

/-- What is found under the names of a table, and what follows its changes, decides whether it
was made. -/
theorem IsShadowed.extend (made : table.IsShadowed database relation shadow)
    (relations : after.relation? table.name = database.relation? table.name)
    (unrelated : after.relation? table.shadowName = database.relation? table.shadowName)
    (fullTexts : after.fullText? table.shadowName = database.fullText? table.shadowName)
    (triggers : ∀ event, after.triggersOn table.name event = database.triggersOn table.name event)
    (closed : after.ClosedOutside table.ownNames) : table.IsShadowed after relation shadow where
  made := relations.trans made.made
  attributes := made.attributes
  apart := made.apart
  keyed := made.keyed
  shadowed := fullTexts.trans made.shadowed
  unrelated := unrelated.trans made.unrelated
  carried := made.carried
  followed event := by
    rw [triggers]
    exact made.followed event
  closed := closed

/-- A table that is made under a free name leaves a mirror as it was. -/
theorem IsShadowed.push_table {object : Object}
    (made : table.IsShadowed database relation shadow)
    (isTable : ∀ trigger, object ≠ .trigger trigger)
    (free : ∀ new, object = .relation new → database.hasTable new.name = false) :
    table.IsShadowed (database.push object) relation shadow := by
  have triggers : ∀ name event,
      (database.push object).triggersOn name event = database.triggersOn name event :=
    fun name event => Database.triggers_on_push_other isTable database name event
  refine made.extend ?_ ?_ ?_ (triggers table.name) ?_
  · by_cases isRelation : ∃ new, object = .relation new
    · obtain ⟨new, rfl⟩ := isRelation
      rw [Database.relation?_push_relation, made.made]
      rfl
    · exact Database.relation?_push_other (fun new same => isRelation ⟨new, same⟩) _ _
  · by_cases isRelation : ∃ new, object = .relation new
    · obtain ⟨new, rfl⟩ := isRelation
      have apart := Database.apart_of_free (free new rfl)
        (Database.has_table_of_full_text? made.shadowed)
      rw [Database.relation?_push_relation, apart]
      simp
    · exact Database.relation?_push_other (fun new same => isRelation ⟨new, same⟩) _ _
  · by_cases isFullText : ∃ new, object = .fullText new
    · obtain ⟨new, rfl⟩ := isFullText
      rw [Database.full_text?_push_full_text, made.shadowed]
      rfl
    · exact Database.full_text?_push_other (fun new same => isFullText ⟨new, same⟩) _ _
  · intro name event outside trigger listed
    rw [triggers] at listed
    exact made.closed name event outside trigger listed

/-- So do triggers on other tables that change other tables. -/
theorem IsShadowed.push_triggers {triggers : List Trigger}
    (made : table.IsShadowed database relation shadow)
    (elsewhere : ∀ trigger ∈ triggers, sameName trigger.table table.name = false)
    (outside : ∀ trigger ∈ triggers, ∀ step ∈ trigger.body,
      Outside table.ownNames (tableOf step)) :
    table.IsShadowed (database.pushTriggers triggers) relation shadow := by
  refine made.extend (by simp) (by simp) (by simp) (fun event => ?_) ?_
  · rw [Database.triggers_on_push_triggers, List.filter_eq_nil_iff.mpr]
    · rfl
    · intro trigger member
      simp [elsewhere trigger member]
  · intro name event outsideName listed member
    rcases Database.mem_triggers_on_push_triggers member with ⟨new, -⟩ | old
    · exact outside listed new
    · exact made.closed name event outsideName listed old

/-! ### The statements of a table -/

/-- The statements of a table hold no values. -/
theorem creation_map_operands (table : Table) {statement : Statement Stored}
    (member : statement ∈ table.creationStatements) :
    statement.mapOperands Stored.bound = statement := by
  have insertion : table.shadowInsertion.mapOperands Stored.bound = table.shadowInsertion := by
    simp [shadowInsertion, Change.mapOperands, Rows.mapOperands, Expression.mapOperands]
  have deletion : table.shadowDeletion.mapOperands Stored.bound = table.shadowDeletion := by
    simp [shadowDeletion, Change.mapOperands, mapConditions, Expression.mapOperands]
  rcases List.mem_cons.mp member with rfl | side
  · rfl
  · unfold shadowStatements at side
    split at side
    · rcases List.mem_cons.mp side with rfl | trigger
      · rfl
      · obtain ⟨definition, among, rfl⟩ := List.mem_map.mp trigger
        simp only [shadowTriggers, List.mem_cons, List.not_mem_nil, or_false] at among
        rcases among with rfl | rfl | rfl <;>
          simp [Statement.mapOperands, TriggerDefinition.mapOperands, shadowTrigger, insertion,
            deletion]
    · cases side

/-! ### Making a table -/

/-- The names under which a table and its full-text table are made. -/
def madeNames (table : Table) : List String := table.name :: table.shadowName?.toList

/-- What making a table does to a database. -/
structure IsMadeFrom (table : Table) (database after : Database) : Prop where
  free : ∀ name ∈ table.madeNames, database.hasTable name = false
  taken : ∀ name ∈ table.madeNames, after.hasTable name = true
  apart : ToldApart table.madeNames
  kept : ∀ name, database.hasTable name = true → after.hasTable name = true
  well : after.WellFollowed
  mirrored : table.isAnalyzed = true → table.IsMirrored after
  others : ∀ other : Table, other.IsMirrored database → other.IsMirrored after

/-- What making the relation of a table does to a database. -/
structure IsBegunFrom (table : Table) (relation : Relation) (database after : Database) :
    Prop where
  free : database.hasTable table.name = false
  found : after.relation? table.name = some relation
  empty : relation.rows = []
  attributes : relation.attributes = table.attributes
  apart : ToldApart table.columnNames
  keyed : table.primaryKey ≠ [] → relation.IsKeyedBy table.primaryKey
  triggers : ∀ name event, after.triggersOn name event = database.triggersOn name event
  kept : ∀ name, database.hasTable name = true → after.hasTable name = true
  well : after.WellFollowed
  others : ∀ (other : Table) (relation : Relation) (shadow : FullTextTable),
    other.IsShadowed database relation shadow → other.IsShadowed after relation shadow

/-- The table of given numbers may come along. -/
theorem IsBegunFrom.push_sequence (begun : table.IsBegunFrom relation database after) :
    table.IsBegunFrom relation database (after.push .sequence) where
  free := begun.free
  found := (Database.relation?_push_other (fun _ same => by cases same) _ _).trans begun.found
  empty := begun.empty
  attributes := begun.attributes
  apart := begun.apart
  keyed := begun.keyed
  triggers name event :=
    (Database.triggers_on_push_other (fun _ same => by cases same) _ _ _).trans
      (begun.triggers name event)
  kept name held := Database.has_table_push (begun.kept name held)
  well := begun.well.push_table fun _ same => by cases same
  others other relation shadow made :=
    (begun.others other relation shadow made).push_table (fun _ same => by cases same)
      (fun _ same => by cases same)

/-- The first statement of a table makes its relation. -/
theorem create_table_begins {text : String} (well : database.WellFollowed)
    (created : createTable database table.definition text = .ok after) :
    ∃ relation, table.IsBegunFrom relation database after := by
  obtain ⟨taken, relation, made, which⟩ := create_table_ok rfl created
  have free : database.hasTable table.name = false := taken
  obtain ⟨named, empty, attributes, apart, keyed⟩ := relation_of_definition made
  have begun : table.IsBegunFrom relation database (database.push (.relation relation)) := {
    free := free
    found := by
      rw [Database.relation?_push_relation, Database.relation?_of_free free, named, same_name_refl]
      rfl
    empty := empty
    attributes := attributes
    apart := apart
    keyed := keyed
    triggers := Database.triggers_on_push_other (fun _ same => by cases same) database
    kept := fun _ held => Database.has_table_push held
    well := well.push_table fun _ same => by cases same
    others := fun other otherRelation shadow otherMade =>
      otherMade.push_table (fun _ same => by cases same) fun new same => by
        cases same
        rw [named]
        exact free }
  rcases which with rfl | rfl
  · exact ⟨relation, begun⟩
  · exact ⟨relation, begun.push_sequence⟩

/-- The triggers of a table are to be made anew. -/
theorem shadow_triggers_new {definition : TriggerDefinition Stored}
    (among : definition ∈ table.shadowTriggers) : definition.ifMissing = false := by
  simp only [shadowTriggers, List.mem_cons, List.not_mem_nil, or_false] at among
  rcases among with rfl | rfl | rfl <;> rfl

/-- The triggers of a table follow the table and change its full-text table. -/
theorem shadow_triggers_made {triggers : List Trigger}
    (made : List.Forall₂ MadeFrom table.shadowTriggers triggers) :
    ∀ trigger ∈ triggers, sameName trigger.table table.name = true ∧
      ∀ step ∈ trigger.body, tableOf step = table.shadowName := by
  intro trigger member
  obtain ⟨definition, among, from'⟩ := exists_definition made trigger member
  have about : definition.table = table.name ∧
      ∀ step ∈ definition.body, tableOf step = table.shadowName := by
    simp only [shadowTriggers, List.mem_cons, List.not_mem_nil, or_false] at among
    rcases among with rfl | rfl | rfl <;>
      simp [shadowTrigger, shadowInsertion, shadowDeletion, tableOf]
  exact ⟨about.1 ▸ from'.follows, from'.body ▸ about.2⟩

/-- Each event on a table is followed by the one trigger for it. -/
theorem shadow_triggers_follow {triggers : List Trigger}
    (made : List.Forall₂ MadeFrom table.shadowTriggers triggers)
    (nothing : ∀ event, database.triggersOn table.name event = []) (event : RowEvent) :
    ((database.pushTriggers triggers).triggersOn table.name event).map Trigger.body =
      table.followers event := by
  rw [Database.triggers_on_push_triggers, nothing]
  obtain ⟨insertion, _, first, others, rfl⟩ := List.forall₂_cons_left_iff.mp made
  obtain ⟨deletion, _, second, last, rfl⟩ := List.forall₂_cons_left_iff.mp others
  obtain ⟨modification, _, third, none, rfl⟩ := List.forall₂_cons_left_iff.mp last
  cases List.forall₂_nil_left_iff.mp none
  have firstFollows : sameName insertion.table table.name = true := first.follows
  have secondFollows : sameName deletion.table table.name = true := second.follows
  have thirdFollows : sameName modification.table table.name = true := third.follows
  simp only [List.filter_cons, List.filter_nil, firstFollows, secondFollows, thirdFollows,
    first.event, second.event, third.event, shadowTrigger, Bool.true_and]
  cases event
  · exact congrArg (fun body => [body]) first.body
  · exact congrArg (fun body => [body]) second.body
  · exact congrArg (fun body => [body]) third.body

/-- Triggers change tables that are there, and none that is made under a free name. -/
theorem triggers_outside {names : List String} (well : database.WellFollowed)
    (free : ∀ name ∈ names, database.hasTable name = false) {name : String} {event : RowEvent}
    {trigger : Trigger} (listed : trigger ∈ database.triggersOn name event) :
    ∀ step ∈ trigger.body, Outside names (tableOf step) := by
  intro step inBody kept member
  obtain ⟨found, held⟩ :=
    Option.isSome_iff_exists.mp (well.changes name event trigger listed step inBody)
  rw [same_name_comm]
  exact Database.apart_of_free (free kept member) (Database.has_table_of_full_text? held)

/-- A table with a full-text table holds both its names. -/
theorem IsShadowed.own_names_taken (made : table.IsShadowed database relation shadow) :
    ∀ name ∈ table.ownNames, database.hasTable name = true := by
  intro name member
  simp only [ownNames, List.mem_cons, List.not_mem_nil, or_false] at member
  rcases member with rfl | rfl
  · exact Database.has_table_of_relation? made.made
  · exact Database.has_table_of_full_text? made.shadowed

/-- A table whose relation was just made and whose full-text table is still to be made was under
free names before. -/
theorem IsBegunFrom.own_names_free {middle : Database}
    (begun : table.IsBegunFrom relation database middle)
    (free : middle.hasTable table.shadowName = false) :
    ∀ name ∈ table.ownNames, database.hasTable name = false := by
  intro name member
  simp only [ownNames, List.mem_cons, List.not_mem_nil, or_false] at member
  rcases member with rfl | rfl
  · exact begun.free
  · by_contra taken
    rw [begun.kept _ (by simpa using taken)] at free
    cases free

/-- The triggers of a table that was made under free names leave other mirrors as they were. -/
theorem shadow_triggers_leave {other : Table} {before : Database} {triggers : List Trigger}
    (from' : List.Forall₂ MadeFrom table.shadowTriggers triggers)
    (free : ∀ name ∈ table.ownNames, database.hasTable name = false)
    (otherBefore : other.IsShadowed database relation shadow)
    (otherNow : other.IsShadowed before relation shadow) :
    other.IsShadowed (before.pushTriggers triggers) relation shadow := by
  have about := shadow_triggers_made from'
  have taken := otherBefore.own_names_taken
  refine otherNow.push_triggers (fun trigger new => ?_) fun trigger new step inBody name member =>
    ?_
  · rw [same_name_congr (about trigger new).1]
    exact Database.apart_of_free (free _ List.mem_cons_self) (taken _ List.mem_cons_self)
  · rw [(about trigger new).2 step inBody]
    exact Database.apart_of_free (free _ (List.mem_cons_of_mem _ List.mem_cons_self))
      (taken name member)

/-- The empty full-text table of a table, as it is made. -/
def emptyShadow (table : Table) : FullTextTable where
  name := table.shadowName
  columns := table.shadowDefinition.columns
  rows := []
  text := (Statement.createFullText table.shadowDefinition : Statement Stored).render

/-- The full-text side of an analyzed table makes it a table with a full-text table. -/
theorem is_shadowed_of_begun {middle : Database} {triggers : List Trigger}
    (well : database.WellFollowed) (keyed : table.primaryKey ≠ [])
    (begun : table.IsBegunFrom relation database middle)
    (free : middle.hasTable table.shadowName = false)
    (freeBefore : ∀ name ∈ table.ownNames, database.hasTable name = false)
    (from' : List.Forall₂ MadeFrom table.shadowTriggers triggers) :
    table.IsShadowed ((middle.push (.fullText table.emptyShadow)).pushTriggers triggers) relation
      table.emptyShadow := by
  have relations : ∀ name,
      ((middle.push (.fullText table.emptyShadow)).pushTriggers triggers).relation? name =
        middle.relation? name := fun name =>
    (Database.relation?_push_triggers _ _ _).trans
      (Database.relation?_push_other (fun _ same => by cases same) _ _)
  have triggersBefore : ∀ name event,
      (middle.push (.fullText table.emptyShadow)).triggersOn name event =
        database.triggersOn name event := fun name event =>
    (Database.triggers_on_push_other (fun _ same => by cases same) _ _ _).trans
      (begun.triggers name event)
  refine ⟨(relations _).trans begun.found, begun.attributes, begun.apart, begun.keyed keyed, ?_,
    (relations _).trans (Database.relation?_of_free free), rfl, ?_, ?_⟩
  · rw [Database.full_text?_push_triggers, Database.full_text?_push_full_text,
      Database.full_text?_of_free free]
    exact if_pos (same_name_refl table.shadowName)
  · refine shadow_triggers_follow from' fun event => ?_
    rw [triggersBefore]
    refine List.eq_nil_iff_forall_not_mem.mpr fun trigger listed => ?_
    have unfollowed := begun.free
    rw [well.follows _ _ _ listed] at unfollowed
    cases unfollowed
  · intro name event outside trigger listed
    rcases Database.mem_triggers_on_push_triggers listed with ⟨new, same⟩ | old
    · have own := outside table.name List.mem_cons_self
      rw [← same_name_congr same, (shadow_triggers_made from' trigger new).1] at own
      cases own
    · rw [triggersBefore] at old
      exact triggers_outside well freeBefore old

/-- The full-text side of an analyzed table leaves every trigger with the tables it follows and
changes. -/
theorem shadow_side_well_followed {middle : Database} {triggers : List Trigger}
    (begun : table.IsBegunFrom relation database middle)
    (from' : List.Forall₂ MadeFrom table.shadowTriggers triggers)
    (shadowed : table.IsShadowed
      ((middle.push (.fullText table.emptyShadow)).pushTriggers triggers) relation
      table.emptyShadow) :
    ((middle.push (.fullText table.emptyShadow)).pushTriggers triggers).WellFollowed := by
  have about := shadow_triggers_made from'
  have takenName : middle.hasTable table.name = true := Database.has_table_of_relation? begun.found
  have pushed : (middle.push (.fullText table.emptyShadow)).WellFollowed :=
    begun.well.push_table fun _ same => by cases same
  refine pushed.push_triggers (fun trigger new => ?_) fun trigger new step inBody => ?_
  · rw [Database.has_table_congr (about trigger new).1]
    exact Database.has_table_push takenName
  · have found := shadowed.shadowed
    rw [Database.full_text?_push_triggers] at found
    rw [(about trigger new).2 step inBody, found]
    rfl

/-- What the full-text side of an analyzed table makes of a database in which the relation of
the table was made. -/
theorem shadow_statements_make {middle : Database} (well : database.WellFollowed)
    (keyed : table.primaryKey ≠ []) (begun : table.IsBegunFrom relation database middle)
    (analyzed : table.isAnalyzed = true)
    (made : table.shadowStatements.foldlM making middle = .ok after) :
    table.IsMadeFrom database after := by
  unfold shadowStatements at made
  simp only [analyzed, if_true, List.foldlM_cons] at made
  obtain ⟨next, fullText, triggersMade⟩ := bind_ok made
  obtain ⟨taken, pushed⟩ := create_full_text_ok rfl fullText
  have free : middle.hasTable table.shadowName = false := taken
  cases (show next = middle.push (.fullText table.emptyShadow) from pushed)
  obtain ⟨triggers, rfl, from'⟩ :=
    create_triggers_ok table.shadowTriggers (fun _ => shadow_triggers_new) triggersMade
  have names : table.madeNames = table.ownNames := by
    simp [madeNames, ownNames, shadowName?, analyzed]
  have freeBefore := begun.own_names_free free
  have shadowed := is_shadowed_of_begun well keyed begun free freeBefore from'
  exact {
    free := names ▸ freeBefore
    taken := names ▸ shadowed.own_names_taken
    apart := by
      rw [names]
      simpa [ToldApart, ownNames] using shadowed.name_ne_shadow
    kept := fun name held =>
      Database.has_table_push_triggers _ (Database.has_table_push (begun.kept name held))
    well := shadow_side_well_followed begun from' shadowed
    mirrored := fun _ => ⟨relation, table.emptyShadow, shadowed, by simp [begun.empty],
      by simp [begun.empty], by simp [begun.empty, Relation.KeyTells],
      by simp [begun.empty, emptyShadow]⟩
    others := by
      rintro other ⟨otherRelation, otherShadow, otherMade, copied⟩
      have otherBegun := begun.others other otherRelation otherShadow otherMade
      exact ⟨otherRelation, otherShadow, shadow_triggers_leave from' freeBefore otherMade
        (otherBegun.push_table (fun _ same => by cases same) fun _ same => by cases same),
        copied⟩ }

/-- What the statements of a table make of a database. -/
theorem creation_statements_make (well : database.WellFollowed)
    (keyed : table.isAnalyzed = true → table.primaryKey ≠ [])
    (made : table.creationStatements.foldlM making database = .ok after) :
    table.IsMadeFrom database after := by
  rw [creationStatements, List.foldlM_cons] at made
  obtain ⟨middle, relationMade, shadowMade⟩ := bind_ok made
  obtain ⟨relation, begun⟩ := create_table_begins well relationMade
  by_cases analyzed : table.isAnalyzed = true
  · exact shadow_statements_make well (keyed analyzed) begun analyzed shadowMade
  · have names : table.madeNames = [table.name] := by
      simp [madeNames, shadowName?, analyzed]
    simp only [shadowStatements, analyzed, if_false, Bool.false_eq_true] at shadowMade
    cases shadowMade
    exact {
      free := by simpa [names] using begun.free
      taken := by simpa [names] using Database.has_table_of_relation? begun.found
      apart := by simp [names, ToldApart]
      kept := begun.kept
      well := begun.well
      mirrored := fun isAnalyzed => absurd isAnalyzed analyzed
      others := fun other ⟨relation, shadow, otherMade, copied⟩ =>
        ⟨relation, shadow, begun.others other relation shadow otherMade, copied⟩ }

end Table

end RecordStore
