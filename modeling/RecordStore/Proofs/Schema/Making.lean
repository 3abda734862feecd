import RecordStore.Proofs.Engine.Taken
import RecordStore.Proofs.Schema.Names
import RecordStore.Proofs.Store.Creations

/-!
# Tables that are made beside each other

A table that a schema admits is made beside other tables exactly if its own names suit the engine
and none of the names that it takes is taken; if it is not made then the fault is one of names. So
it is for tables that are made one after the other: all of them are made exactly if all of their
names are told apart.
-/

namespace RecordStore

open Engine Sql

namespace Table

/-- The names that the full-text table of a table takes: its own, and those of its parts. -/
def shadowNames (table : Table) : List String :=
  table.shadowName :: FullTextTable.partNames table.shadowName

/-- The names that a table takes from other tables once it is created. -/
def createdNames (table : Table) : List String :=
  table.name :: if table.isAnalyzed then table.shadowNames else []

/-- The names of the triggers of a table. -/
def triggerNames (table : Table) : List String :=
  if table.isAnalyzed then table.shadowTriggers.map TriggerDefinition.name else []

/-- A table whose own names let the engine make its relation. -/
structure IsNameable (table : Table) : Prop where
  plain : isInternalName table.name = false
  apart : ToldApart table.columnNames

/-- A table whose full-text table carries no column under a name that is kept for columns there, or
under the name of the full-text table itself. -/
structure IsCarriable (table : Table) : Prop where
  unreserved : ∀ name ∈ table.carriedColumns, ∀ kept ∈ fullTextNames, sameName name kept = false
  other : ∀ name ∈ table.carriedColumns, sameName table.shadowName name = false

/-- A table whose own names let the engine make its relation and its full-text table, if it is to
have one. -/
structure IsCreatable (table : Table) : Prop extends table.IsNameable where
  carriable : table.isAnalyzed = true → table.IsCarriable

variable {table : Table} {name : String}

/-- The names of a full-text table are its own and those of its parts. -/
theorem mem_shadow_names : name ∈ table.shadowNames ↔
    name = table.shadowName ∨ ∃ suffix ∈ partSuffixes, name = table.shadowName ++ suffix := by
  rw [shadowNames, List.mem_cons, mem_part_names]

/-- The names that a table takes are its own and, if it is analyzed, those of its full-text
table. -/
theorem mem_created_names : name ∈ table.createdNames ↔
    name = table.name ∨ table.isAnalyzed = true ∧ name ∈ table.shadowNames := by
  unfold createdNames
  split <;> simp_all

end Table

namespace Engine

/-! ### The relation of a table -/

variable {names triggers : List String} {database : Database} {table : Table}

/-- What a database is like in which the relation of a table was made, under a name that no
full-text table has. -/
structure HasRelation (table : Table) (names triggers : List String) (after : Database) : Prop where
  lists : after.Lists (names ++ [table.name]) triggers
  found : (after.relation? table.name).isSome = true
  unsearched : after.fullText? table.name = none

/-- The table of remembered numbers beside it leaves a relation as it was made. -/
theorem HasRelation.push_sequence (made : HasRelation table names triggers database) :
    HasRelation table names triggers (database.push .sequence) where
  lists := made.lists.push_sequence
  found := by
    rw [Database.relation?_push_other fun _ same => by cases same]
    exact made.found
  unsearched := by
    rw [Database.full_text?_push_other fun _ same => by cases same]
    exact made.unsearched

/-- A relation that is put under a free name has been made. -/
theorem has_relation_push {relation : Relation} (lists : database.Lists names triggers)
    (free : database.hasTable table.name = false) (named : relation.name = table.name) :
    HasRelation table names triggers (database.push (.relation relation)) where
  lists := by
    have pushed := lists.push_table (.relation relation) fun _ same => by cases same
    rwa [show Object.tableNames (.relation relation) =
      [table.name] by simp [Object.tableNames, named]] at pushed
  found := by
    rw [Database.relation?_push_relation, named, same_name_refl, Option.isSome_or]
    simp
  unsearched := by
    rw [Database.full_text?_push_other fun _ same => by cases same]
    exact Database.full_text?_of_free free

/-- The relation of an admitted table is made exactly if the table has a name that is free and that
the engine does not keep for itself, and columns that are told apart. -/
theorem making_relation (admitted : table.IsAdmitted) (lists : database.Lists names triggers) :
    IsMadeIf (table.IsNameable ∧ IsFree names table.name) (HasRelation table names triggers)
      (making database (.createTable table.definition)) := by
  change IsMadeIf _ _ (createTable database table.definition _)
  rw [create_table_eq rfl, show table.definition.name = table.name from rfl]
  by_cases internal : isInternalName table.name = true
  · rw [if_pos internal]
    exact .refused (fun fits => Bool.false_ne_true (fits.1.plain.symm.trans internal)) rfl
  have plain : isInternalName table.name = false := eq_false_of_ne_true internal
  rw [if_neg internal]
  by_cases taken : database.hasTable table.name = true
  · rw [if_pos taken]
    refine .refused (fun fits => ?_) rfl
    exact Bool.false_ne_true (((lists.is_free_iff plain).mp fits.2).symm.trans taken)
  have free : database.hasTable table.name = false := eq_false_of_ne_true taken
  rw [if_neg taken]
  rcases relation_of_cases admitted (Statement.createTable table.definition :
    Statement Stored).render with ⟨apart, relation, made⟩ | ⟨together, column, -, refused⟩
  · have pushed := has_relation_push lists free (relation_of_definition made).1
    rw [made]
    refine .made ⟨⟨plain, apart⟩, (lists.is_free_iff plain).mpr free⟩ ?_
    dsimp only
    split
    · exact pushed.push_sequence
    · exact pushed
  · rw [refused]
    exact .refused (fun fits => together fits.1.apart) rfl

/-! ### The full-text table of a table -/

/-- The engine keeps for itself none of the names that a full-text table takes. -/
theorem is_internal_name_shadow_names (table : Table) :
    ∀ name ∈ table.shadowNames, isInternalName name = false := by
  intro name member
  rcases Table.mem_shadow_names.mp member with rfl | ⟨suffix, -, rfl⟩
  · exact is_internal_name_shadow table.name
  · rw [Table.shadowName, String.append_assoc]
    exact is_internal_name_shadow (table.name ++ suffix)

/-- The full-text table of a table with columns that are told apart is made exactly if its names are
free and it can carry the columns. -/
theorem making_full_text (apart : ToldApart table.columnNames)
    (lists : database.Lists names triggers) :
    IsMadeIf ((∀ name ∈ table.shadowNames, IsFree names name) ∧ table.IsCarriable)
      (· = database.push (.fullText table.emptyShadow))
      (making database (.createFullText table.shadowDefinition)) := by
  have plain := is_internal_name_shadow_names table
  have ownName : table.shadowName ∈ table.shadowNames := List.mem_cons_self
  have carried : table.shadowDefinition.columns.map FullTextColumn.name = table.carriedColumns := by
    simp [Table.shadowDefinition, Function.comp_def]
  change IsMadeIf _ _ (createFullText database table.shadowDefinition _)
  rw [create_full_text_eq rfl, show table.shadowDefinition.name =
    table.shadowName from rfl, carried]
  dsimp only
  rw [if_neg (by simp [plain _ ownName])]
  by_cases taken : database.hasTable table.shadowName = true
  · rw [if_pos taken]
    refine .refused (fun fits => ?_) rfl
    have free := (lists.is_free_iff (plain _ ownName)).mp (fits.1 _ ownName)
    exact Bool.false_ne_true (free.symm.trans taken)
  rw [if_neg taken]
  cases reserved : table.carriedColumns.find? fun name => fullTextNames.any (sameName name) with
  | some name =>
    have isKept := List.find?_some reserved
    obtain ⟨kept, among, same⟩ := List.any_eq_true.mp isKept
    refine .refused (fun fits => ?_) rfl
    cases (fits.2.unreserved name (List.mem_of_find?_eq_some reserved) kept among).symm.trans same
  | none =>
    cases parts : (FullTextTable.partNames table.shadowName).find? database.hasTable with
    | some part =>
      have isPart : part ∈ table.shadowNames :=
        List.mem_cons_of_mem _ (List.mem_of_find?_eq_some parts)
      refine .refused (fun fits => ?_) rfl
      have free := (lists.is_free_iff (plain _ isPart)).mp (fits.1 _ isPart)
      exact Bool.false_ne_true (free.symm.trans (List.find?_some parts))
    | none =>
      dsimp only
      by_cases duplicate : hasDuplicate (table.shadowName :: table.carriedColumns) = true
      · rw [if_pos duplicate]
        refine .refused (fun fits => ?_) rfl
        have told : ToldApart (table.shadowName :: table.carriedColumns) :=
          List.pairwise_cons.mpr ⟨fits.2.other, Table.carried_apart apart⟩
        exact Bool.false_ne_true ((has_duplicate_iff.mpr told).symm.trans duplicate)
      · rw [if_neg duplicate]
        have told : ToldApart (table.shadowName :: table.carriedColumns) :=
          has_duplicate_iff.mp (eq_false_of_ne_true duplicate)
        refine .made ⟨fun name member => (lists.is_free_iff (plain _ member)).mpr ?_, ?_, ?_⟩ rfl
        · rcases List.mem_cons.mp member with rfl | part
          · exact eq_false_of_ne_true taken
          · exact eq_false_of_ne_true (List.find?_eq_none.mp parts name part)
        · simpa using List.find?_eq_none.mp reserved
        · exact (List.pairwise_cons.mp told).1

/-! ### The triggers of a table -/

/-- What the names of the triggers of a table end with. -/
def triggerSuffixes : List String := ["_ai", "_ad", "_au"]

/-- No two of these suffixes end with the same letter. -/
theorem trigger_suffixes_end_apart : EndApart triggerSuffixes := by decide +kernel

/-- The triggers are named by the full-text table and a suffix. -/
theorem shadow_triggers_names (table : Table) :
    table.shadowTriggers.map TriggerDefinition.name =
      triggerSuffixes.map (table.shadowName ++ ·) := rfl

/-- A name of a trigger is the name of the full-text table with one of the suffixes. -/
theorem mem_trigger_names {name : String} (member : name ∈ table.triggerNames) :
    ∃ suffix ∈ triggerSuffixes, name = table.shadowName ++ suffix := by
  unfold Table.triggerNames at member
  split at member
  · rw [shadow_triggers_names] at member
    obtain ⟨suffix, among, rfl⟩ := List.mem_map.mp member
    exact ⟨suffix, among, rfl⟩
  · cases member

/-- New triggers on a relation are made. -/
theorem making_triggers {definitions : List (TriggerDefinition Stored)}
    (found : (database.relation? table.name).isSome = true)
    (unsearched : database.fullText? table.name = none)
    (follow : ∀ definition ∈ definitions,
      definition.table = table.name ∧ isInternalName definition.name = false)
    (lists : database.Lists names triggers)
    (apart : ToldApart (triggers ++ definitions.map TriggerDefinition.name)) :
    ∃ after, (definitions.map Statement.createTrigger).foldlM making database = .ok after ∧
      after.Lists names (triggers ++ definitions.map TriggerDefinition.name) := by
  induction definitions generalizing database triggers with
  | nil => exact ⟨database, rfl, by simpa using lists⟩
  | cons definition rest inductionHypothesis =>
    obtain ⟨relation, held⟩ := Option.isSome_iff_exists.mp found
    obtain ⟨isTable, plain⟩ := follow definition List.mem_cons_self
    have new : (database.trigger? definition.name).isSome = false := by
      rw [lists.triggers]
      exact is_free_iff.mp ((told_apart_append.mp apart).2.2 _ List.mem_cons_self)
    have first : ∃ trigger : Trigger, trigger.name = definition.name ∧
        making database (.createTrigger definition) = .ok (database.push (.trigger trigger)) := by
      change ∃ trigger : Trigger, _ ∧ createTrigger database definition _ = _
      rw [create_trigger_eq, isTable, unsearched, held]
      simp only [plain, new, Option.isSome_none, Bool.false_eq_true, if_false]
      exact ⟨_, rfl, rfl⟩
    obtain ⟨trigger, named, made⟩ := first
    rw [List.map_cons, List.map_cons, List.foldlM_cons, made, ← List.singleton_append,
      ← List.append_assoc, ← named]
    refine inductionHypothesis ?_ ?_ (fun other later =>
      follow other (List.mem_cons_of_mem _ later)) (lists.push_trigger trigger) ?_
    · rwa [Database.relation?_push_other fun _ same => by cases same]
    · rwa [Database.full_text?_push_other fun _ same => by cases same]
    · rwa [named, List.append_assoc, List.singleton_append, ← List.map_cons]

/-! ### A table beside others -/

/-- A database in which exactly these tables have been created. -/
def HasCreated (tables : List Table) (database : Database) : Prop :=
  database.Lists (tables.flatMap Table.createdNames) (tables.flatMap Table.triggerNames)

variable {tables : List Table}

/-- The names of the triggers of a table are free if the name of the table is. -/
theorem trigger_names_free (free : IsFree (tables.flatMap Table.createdNames) table.name) :
    ∀ name ∈ table.shadowTriggers.map TriggerDefinition.name,
      IsFree (tables.flatMap Table.triggerNames) name := by
  intro name member taken among
  obtain ⟨suffix, inSuffixes, rfl⟩ := List.mem_map.mp (shadow_triggers_names table ▸ member)
  obtain ⟨other, inTables, isTrigger⟩ := List.mem_flatMap.mp among
  obtain ⟨otherSuffix, otherIn, rfl⟩ := mem_trigger_names isTrigger
  by_contra same
  have shadows := ((trigger_suffixes_end_apart.same_name inSuffixes otherIn).mp
    (eq_true_of_ne_false same)).2
  rw [Table.shadowName, Table.shadowName, same_name_prefixed] at shadows
  cases (free other.name (List.mem_flatMap.mpr ⟨other, inTables, List.mem_cons_self⟩)).symm.trans
    shadows

/-- Triggers are told apart if their tables are. -/
theorem trigger_names_apart (apart : ToldApart (tables.flatMap Table.createdNames)) :
    ToldApart (tables.flatMap Table.triggerNames) := by
  refine List.pairwise_flatMap.mpr ⟨fun table _ => ?_, (List.pairwise_flatMap.mp apart).2.imp ?_⟩
  · unfold Table.triggerNames
    split
    · rw [shadow_triggers_names]
      exact trigger_suffixes_end_apart.told_apart table.shadowName
    · exact .nil
  · intro left right names leftTrigger isLeft rightTrigger isRight
    obtain ⟨suffix, among, rfl⟩ := mem_trigger_names isLeft
    obtain ⟨otherSuffix, otherAmong, rfl⟩ := mem_trigger_names isRight
    by_contra same
    have shadows := ((trigger_suffixes_end_apart.same_name among otherAmong).mp
      (eq_true_of_ne_false same)).2
    rw [Table.shadowName, Table.shadowName, same_name_prefixed] at shadows
    cases (names left.name List.mem_cons_self right.name List.mem_cons_self).symm.trans shadows

/-- The triggers of a table follow the table, under names that the engine does not keep for
itself. -/
theorem shadow_triggers_about (table : Table) : ∀ definition ∈ table.shadowTriggers,
    definition.table = table.name ∧ isInternalName definition.name = false := by
  intro definition member
  have plain : ∀ suffix, isInternalName (table.shadowName ++ suffix) = false := fun suffix => by
    rw [Table.shadowName, String.append_assoc]
    exact is_internal_name_shadow (table.name ++ suffix)
  simp only [Table.shadowTriggers, List.mem_cons, List.not_mem_nil, or_false] at member
  rcases member with rfl | rfl | rfl <;> exact ⟨rfl, plain _⟩

/-- Once the full-text table of a table was made, its triggers are made as well. -/
theorem making_followers (analyzed : table.isAnalyzed = true)
    (free : IsFree (tables.flatMap Table.createdNames) table.name)
    (namesApart : ToldApart (tables.flatMap Table.createdNames))
    (made : HasRelation table (tables.flatMap Table.createdNames)
      (tables.flatMap Table.triggerNames) database) :
    ∃ after, (table.shadowTriggers.map Statement.createTrigger).foldlM making
        (database.push (.fullText table.emptyShadow)) = .ok after ∧
      HasCreated (tables ++ [table]) after := by
  have notTrigger : ∀ trigger, Object.fullText table.emptyShadow ≠ .trigger trigger :=
    fun _ same => by cases same
  have apart : ToldApart (tables.flatMap Table.triggerNames ++
      table.shadowTriggers.map TriggerDefinition.name) := by
    refine told_apart_append.mpr ⟨trigger_names_apart namesApart, ?_, trigger_names_free free⟩
    rw [shadow_triggers_names]
    exact trigger_suffixes_end_apart.told_apart table.shadowName
  have relation : ((database.push (.fullText table.emptyShadow)).relation? table.name).isSome =
      true := by
    rw [Database.relation?_push_other fun _ same => by cases same]
    exact made.found
  have unsearched : (database.push (.fullText table.emptyShadow)).fullText? table.name = none := by
    have other : sameName table.emptyShadow.name table.name = false := by
      rw [same_name_comm]
      exact same_name_prefix_self (by decide)
    rw [Database.full_text?_push_full_text, made.unsearched, other]
    simp
  obtain ⟨after, ran, lists⟩ := making_triggers relation unsearched (shadow_triggers_about table)
    (made.lists.push_table _ notTrigger) apart
  refine ⟨after, ran, ?_⟩
  unfold HasCreated
  simpa [Table.createdNames, Table.triggerNames, analyzed, Object.tableNames, Table.shadowNames,
    Table.emptyShadow] using lists

/-- The full-text side of a table is made exactly if its names are free and it can carry the
columns. -/
theorem making_shadow (apart : ToldApart table.columnNames)
    (free : IsFree (tables.flatMap Table.createdNames) table.name)
    (namesApart : ToldApart (tables.flatMap Table.createdNames))
    (made : HasRelation table (tables.flatMap Table.createdNames)
      (tables.flatMap Table.triggerNames) database) :
    IsMadeIf
      (table.isAnalyzed = true → (∀ name ∈ table.shadowNames,
        IsFree (tables.flatMap Table.createdNames ++ [table.name]) name) ∧ table.IsCarriable)
      (HasCreated (tables ++ [table])) (table.shadowStatements.foldlM making database) := by
  unfold Table.shadowStatements
  by_cases analyzed : table.isAnalyzed = true
  · rw [if_pos analyzed, List.foldlM_cons]
    have followed : ∀ middle, middle = database.push (.fullText table.emptyShadow) →
        IsMadeIf True (HasCreated (tables ++ [table]))
          ((table.shadowTriggers.map Statement.createTrigger).foldlM making middle) := by
      rintro middle rfl
      obtain ⟨after, ran, created⟩ := making_followers analyzed free namesApart made
      rw [ran]
      exact .made trivial created
    exact ((making_full_text apart made.lists).bind fun middle _ => followed middle).imp
      (by simp [analyzed]) fun _ _ created => created
  · rw [if_neg analyzed]
    refine .made (fun isAnalyzed => absurd isAnalyzed analyzed) ?_
    unfold HasCreated
    simpa [Table.createdNames, Table.triggerNames, analyzed] using made.lists

/-- The full-text table of a table takes no name that is the same as that of the table. -/
theorem shadow_names_other (table : Table) :
    ∀ name ∈ table.shadowNames, sameName name table.name = false := by
  intro name member
  rw [same_name_comm]
  rcases Table.mem_shadow_names.mp member with rfl | ⟨suffix, -, rfl⟩
  · exact same_name_prefix_self (by decide)
  · refine apart_of_length ?_
    rw [Table.shadowName, String.toList_append, String.toList_append, List.length_append,
      List.length_append]
    have start : "fts_".toList.length = 4 := by decide
    omega

/-- The names of one table are told apart from one another, whatever the table. -/
theorem created_names_apart (table : Table) : ToldApart table.createdNames := by
  unfold Table.createdNames
  refine List.pairwise_cons.mpr ⟨fun name member => ?_, ?_⟩
  · split at member
    · rw [same_name_comm]
      exact shadow_names_other table name member
    · cases member
  · split
    · refine List.pairwise_cons.mpr ⟨fun part isPart => ?_, part_suffixes_end_apart.told_apart _⟩
      obtain ⟨suffix, among, rfl⟩ := mem_part_names.mp isPart
      exact same_name_part_self _ among
    · exact .nil

/-- An admitted table is created beside others exactly if its own names suit the engine and are
free. -/
theorem making_table (admitted : table.IsAdmitted)
    (namesApart : ToldApart (tables.flatMap Table.createdNames))
    (created : HasCreated tables database) :
    IsMadeIf
      (table.IsCreatable ∧
        ∀ name ∈ table.createdNames, IsFree (tables.flatMap Table.createdNames) name)
      (HasCreated (tables ++ [table])) (table.creationStatements.foldlM making database) := by
  rw [Table.creationStatements, List.foldlM_cons]
  refine ((making_relation admitted created).bind fun middle fits made =>
    making_shadow fits.1.apart fits.2 namesApart made).imp ?_ fun _ _ final => final
  constructor
  · rintro ⟨⟨nameable, free⟩, searched⟩
    refine ⟨⟨nameable, fun analyzed => (searched analyzed).2⟩, fun name member => ?_⟩
    rcases Table.mem_created_names.mp member with rfl | ⟨analyzed, shadow⟩
    · exact free
    · exact (is_free_append.mp ((searched analyzed).1 name shadow)).1
  · rintro ⟨creatable, free⟩
    refine ⟨⟨creatable.toIsNameable, free _ (Table.mem_created_names.mpr (.inl rfl))⟩, ?_⟩
    intro analyzed
    refine ⟨fun name member => is_free_append.mpr ⟨?_, ?_⟩, creatable.carriable analyzed⟩
    · exact free name (Table.mem_created_names.mpr (.inr ⟨analyzed, member⟩))
    · intro taken among
      rw [List.mem_singleton.mp among]
      exact shadow_names_other table name member

/-! ### Tables one after the other -/

/-- If each table is made beside earlier ones exactly if it fits by itself and its names are free,
then all tables are made one after the other exactly if they fit and their names are told apart.
What was made grows at its end, so the induction is on what is still to be made. -/
theorem making_each {steps : Table → List (Statement Stored)} {namesOf : Table → List String}
    {Fits : Table → Prop} {Reached : List Table → Database → Prop}
    (own : ∀ table, ToldApart (namesOf table)) (made : List Table)
    (step : ∀ table ∈ tables, ∀ made database, ToldApart (made.flatMap namesOf) →
      Reached made database →
      IsMadeIf (Fits table ∧ ∀ name ∈ namesOf table, IsFree (made.flatMap namesOf) name)
        (Reached (made ++ [table])) ((steps table).foldlM making database))
    (apart : ToldApart (made.flatMap namesOf)) (reached : Reached made database) :
    IsMadeIf ((∀ table ∈ tables, Fits table) ∧ ToldApart ((made ++ tables).flatMap namesOf))
      (Reached (made ++ tables)) ((tables.flatMap steps).foldlM making database) := by
  induction tables generalizing made database with
  | nil => exact .made ⟨nofun, by simpa using apart⟩ (by simpa using reached)
  | cons table rest inductionHypothesis =>
    have onward : ∀ middle, (Fits table ∧ ∀ name ∈ namesOf table,
      IsFree (made.flatMap namesOf) name) →
        Reached (made ++ [table]) middle → IsMadeIf
          ((∀ other ∈ rest, Fits other) ∧ ToldApart ((made ++ table :: rest).flatMap namesOf))
          (Reached (made ++ table :: rest)) ((rest.flatMap steps).foldlM making middle) := by
      intro middle fits reachedNext
      have apartNext : ToldApart ((made ++ [table]).flatMap namesOf) := by
        rw [List.flatMap_append, List.flatMap_singleton]
        exact told_apart_append.mpr ⟨apart, own table, fits.2⟩
      have later := inductionHypothesis (made ++ [table])
        (fun other member => step other (List.mem_cons_of_mem _ member)) apartNext reachedNext
      rwa [List.append_assoc, List.singleton_append] at later
    rw [List.flatMap_cons, List.foldlM_append]
    refine ((step table List.mem_cons_self made database apart reached).bind onward).imp ?_
      fun _ _ final => final
    rw [List.forall_mem_cons]
    constructor
    · rintro ⟨⟨fits, -⟩, others, all⟩
      exact ⟨⟨fits, others⟩, all⟩
    · rintro ⟨⟨fits, others⟩, all⟩
      refine ⟨⟨fits, fun name member => ?_⟩, others, all⟩
      rw [List.flatMap_append] at all
      refine (told_apart_append.mp all).2.2 name ?_
      rw [List.flatMap_cons]
      exact List.mem_append_left _ member

/-- The relations of tables are made one after the other exactly if the tables can be named and
their names are told apart. -/
theorem making_relations (admitted : ∀ table ∈ tables, table.IsAdmitted)
    (empty : database.objects = []) :
    IsMadeIf ((∀ table ∈ tables, table.IsNameable) ∧ ToldApart (tables.map Table.name))
      (fun after => after.Lists (tables.map Table.name) [])
      ((tables.map fun table => Statement.createTable table.definition).foldlM making
        database) := by
  let Reached (made : List Table) (database : Database) : Prop :=
    database.Lists (made.flatMap fun table => [table.name]) []
  have step : ∀ table ∈ tables, ∀ made database,
    ToldApart (made.flatMap fun table => [table.name]) →
      Reached made database →
      IsMadeIf (table.IsNameable ∧ ∀ name ∈ [table.name],
          IsFree (made.flatMap fun table => [table.name]) name)
        (Reached (made ++ [table]))
        ([Statement.createTable table.definition].foldlM making database) := by
    intro table member made database _ reached
    rw [List.foldlM_cons, List.forall_mem_singleton]
    refine ((making_relation (admitted table member) reached).bind fun after _ relation =>
      .made trivial ?_).imp (and_iff_left trivial) fun _ _ after => after
    simpa [Reached] using relation.lists
  have nothing : Reached [] database := Database.lists_of_empty empty
  have all := making_each (fun table => List.pairwise_singleton _ _) [] step .nil nothing
  simp only [Reached, List.nil_append, ← List.map_eq_flatMap] at all
  exact all

/-- Tables are created one after the other, with their full-text tables, exactly if each of them can
be created by itself and all names that they take are told apart. -/
theorem making_tables (admitted : ∀ table ∈ tables, table.IsAdmitted)
    (empty : database.objects = []) :
    IsMadeIf ((∀ table ∈ tables, table.IsCreatable) ∧ ToldApart (tables.flatMap Table.createdNames))
      (HasCreated tables) ((tables.flatMap Table.creationStatements).foldlM making database) := by
  have nothing : HasCreated [] database := Database.lists_of_empty empty
  exact making_each created_names_apart []
    (fun table member _ _ apart created => making_table (admitted table member) apart created)
    .nil nothing

end Engine

end RecordStore
