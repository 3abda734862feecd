import RecordStore.Proofs.Store.AllOrNothing
import RecordStore.Proofs.Store.SoundTables

/-!
# Tables that were just made

A table that was just made has the relation of its definition, without rows, and its name is none of
a full-text table. What is made after it leaves it so. Whichever way the tables of a schema are
created, in a transaction for each or in one for all of them, a store that answers keeps each of
them soundly, in what it shows and in what is committed.
-/

namespace RecordStore

open Engine Sql

/-- A table as it is made, which no full-text table has the name of. -/
structure Table.IsFreshIn (table : Table) (database : Database) : Prop where
  made : ∃ relation text, database.relation? table.name = some relation ∧
    relationOf table.definition text = .ok relation
  plain : database.fullText? table.name = none

namespace Table.IsFreshIn

variable {table other : Table} {database after : Database}

/-- The name of a fresh table is taken. -/
theorem taken (fresh : table.IsFreshIn database) : database.hasTable table.name = true := by
  obtain ⟨relation, -, found, -⟩ := fresh.made
  exact Database.has_table_of_relation? found

/-- An object that is made leaves a fresh table fresh. -/
theorem push (fresh : table.IsFreshIn database) {object : Object}
    (free : ∀ new, object = .fullText new → database.hasTable new.name = false) :
    table.IsFreshIn (database.push object) := by
  obtain ⟨relation, text, found, definition⟩ := fresh.made
  constructor
  · refine ⟨relation, text, ?_, definition⟩
    by_cases isRelation : ∃ new, object = .relation new
    · obtain ⟨new, rfl⟩ := isRelation
      rw [Database.relation?_push_relation, found]
      rfl
    · rw [Database.relation?_push_other fun new same => isRelation ⟨new, same⟩]
      exact found
  · by_cases isFullText : ∃ new, object = .fullText new
    · obtain ⟨new, rfl⟩ := isFullText
      rw [Database.full_text?_push_full_text, fresh.plain,
        Database.apart_of_free (free new rfl) fresh.taken]
      rfl
    · rw [Database.full_text?_push_other fun new same => isFullText ⟨new, same⟩]
      exact fresh.plain

/-- So does a statement of any table. -/
theorem making (fresh : table.IsFreshIn database) {statement : Statement Stored}
    (among : statement ∈ other.creationStatements)
    (makes : Engine.making database statement = .ok after) : table.IsFreshIn after := by
  obtain ⟨object, -, -, free, rfl | rfl⟩ := making_adds among makes
  · exact fresh.push free
  · exact (fresh.push free).push fun _ same => by cases same

/-- What is made for another table leaves a fresh one fresh. -/
theorem making_all (fresh : table.IsFreshIn database) {statements : List (Statement Stored)}
    (among : statements ⊆ other.creationStatements)
    (makes : statements.foldlM Engine.making database = .ok after) : table.IsFreshIn after :=
  foldl_m_keeps table.IsFreshIn Engine.making statements fresh
    (fun _ _ _ member freshNow made => making freshNow (among member) made) makes

/-- A fresh table is kept soundly, where triggers change full-text tables only. -/
theorem is_soundly_kept (fresh : table.IsFreshIn database) (well : database.WellFollowed) :
    table.IsSoundlyKept database := by
  obtain ⟨relation, text, found, definition⟩ := fresh.made
  have empty : relation.rows = [] := (relation_of_definition definition).2.1
  refine ⟨relation, ⟨⟨found, ⟨text, relation, definition, rfl⟩, ?_, ?_⟩, ⟨?_, ?_⟩⟩⟩
  · rw [empty]
    exact nofun
  · intro other event trigger listed step inBody
    refine eq_false_of_ne_true fun same => ?_
    have changes := well.changes other event trigger listed step inBody
    rw [Database.full_text?_congr same, fresh.plain] at changes
    cases changes
  · rw [empty]
    exact nofun
  · rw [empty]
    exact .nil

end Table.IsFreshIn

/-- The statements of a table make it fresh. -/
theorem Table.creation_statements_fresh {table : Table} {database after : Database}
    (makes : table.creationStatements.foldlM Engine.making database = .ok after) :
    table.IsFreshIn after := by
  rw [creationStatements, List.foldlM_cons] at makes
  obtain ⟨middle, relationMade, shadowMade⟩ := bind_ok makes
  obtain ⟨taken, relation, definition, which⟩ := create_table_ok rfl relationMade
  have free : database.hasTable table.name = false := taken
  have named : relation.name = table.name := (relation_of_definition definition).1
  have fresh : table.IsFreshIn (database.push (.relation relation)) := by
    refine ⟨⟨relation, _, ?_, definition⟩, ?_⟩
    · rw [Database.relation?_push_relation, Database.relation?_of_free free, named, same_name_refl]
      rfl
    · rw [Database.full_text?_push_other fun _ same => by cases same]
      exact Database.full_text?_of_free free
  have among : table.shadowStatements ⊆ table.creationStatements := fun _ => List.mem_cons_of_mem _
  refine IsFreshIn.making_all ?_ among shadowMade
  rcases which with rfl | rfl
  · exact fresh
  · exact fresh.push fun _ same => by cases same

/-! ### Creating the tables of a schema -/

/-- A database in which tables are fresh, and triggers are about tables that are there. -/
structure AreFresh (tables : List Table) (database : Database) : Prop where
  fresh : ∀ table ∈ tables, table.IsFreshIn database
  well : database.WellFollowed

/-- Tables are fresh beside one more when that one is made. -/
theorem AreFresh.make {tables : List Table} {table : Table} {database after : Database}
    (fresh : AreFresh tables database) (admitted : table.IsAdmitted)
    (makes : table.creationStatements.foldlM Engine.making database = .ok after) :
    AreFresh (tables ++ [table]) after where
  fresh other member := by
    rcases List.mem_append.mp member with old | new
    · exact (fresh.fresh other old).making_all (fun _ among => among) makes
    · cases List.mem_singleton.mp new
      exact Table.creation_statements_fresh makes
  well := (Table.creation_statements_make fresh.well admitted.keyed makes).well

namespace Operation

variable {base : Database} {store after : Store} {schema : Schema}

/-- Creating tables one after the other makes all of them fresh, if each answers where the one
before it left off and makes what its statements say. -/
theorem create_tables_fresh {Calm : Store → Prop} {tables made : List Table}
    (faultless : ∀ table ∈ tables, table.fault? = none)
    (creates : ∀ table : Table, table.fault? = none → ∀ store after, Calm store →
      (createTable table).apply store = (.ok (), after) →
      Calm after ∧ table.creationStatements.foldlM making store.visible = .ok after.visible)
    (calm : Calm store) (fresh : AreFresh made store.visible)
    (answered : (tables.forM createTable).apply store = (.ok (), after)) :
    Calm after ∧ AreFresh (made ++ tables) after.visible := by
  induction tables generalizing made store with
  | nil =>
    cases answered
    rw [List.append_nil]
    exact ⟨calm, fresh⟩
  | cons table rest inductionHypothesis =>
    obtain ⟨next, created, others⟩ := for_m_cons_answered answered
    have plain := faultless table List.mem_cons_self
    obtain ⟨nextCalm, makes⟩ := creates table plain store next calm created
    rw [← List.singleton_append, ← List.append_assoc]
    exact inductionHypothesis (fun other member => faultless other (List.mem_cons_of_mem _ member))
      nextCalm (fresh.make (Table.is_admitted_of_fault? plain) makes) others

/-- Inside of a transaction creating a table runs its statements. -/
theorem create_table_ok_inside {table : Table} (faultless : table.fault? = none)
    (inside : store.IsInside base) (answered : (createTable table).apply store = (.ok (), after)) :
    after.IsInside base ∧
      table.creationStatements.foldlM making store.visible = .ok after.visible := by
  have kept := create_table_is_inside table store inside
  rw [answered] at kept
  refine ⟨kept, ?_⟩
  rw [createTable, atomically_flagged inside.flagged] at answered
  exact creating_all faultless (fun _ among => among) answered

/-- Creating a schema with nothing put into it makes all of its tables fresh. -/
theorem create_database_fresh (faultless : ∀ table ∈ schema.tables, table.fault? = none)
    (idle : store.IsIdle) (well : store.visible.WellFollowed)
    (answered : Operation.apply (createDatabase schema : Operation Unit) store = (.ok (), after)) :
    after.IsIdle ∧ AreFresh schema.tables after.visible := by
  rw [create_database_in_own_transaction] at answered
  obtain ⟨opened, created, begun, worked, committed⟩ := in_own_transaction_answered answered
  obtain ⟨⟨⟩, _, ran, ended⟩ := bind_answered worked
  cases ended
  obtain ⟨inside, seen⟩ := begin_is_inside idle begun
  have nothing : AreFresh [] opened.visible := ⟨nofun, seen ▸ well⟩
  obtain ⟨-, fresh⟩ := create_tables_fresh faultless
    (fun table plain before left => create_table_ok_inside plain) inside nothing ran
  obtain ⟨finallyIdle, same⟩ := commit_visible committed
  rw [same]
  exact ⟨finallyIdle, fresh⟩

end Operation

/-- Two ways in which a store comes to have the tables of a schema: they are created one after the
other, or all in one transaction. -/
inductive Schema.IsCreated (schema : Schema) (store made : Store) : Prop where
  | tables (answered : (Operation.createTables schema).apply store = (.ok (), made))
  | database
    (answered : Operation.apply (Operation.createDatabase schema : Operation Unit) store =
      (.ok (), made))

/-- Either way an idle store shows the tables as they are made. -/
theorem Schema.IsCreated.fresh {tables : List Table} {schema : Schema} {store made : Store}
    (accepted : Schema.ofTables tables = .ok schema) (idle : store.IsIdle)
    (well : store.visible.WellFollowed) (created : schema.IsCreated store made) :
    made.IsIdle ∧ AreFresh schema.tables made.visible := by
  have faultless := of_tables_fault? accepted
  cases created with
  | tables answered =>
    have nothing : AreFresh [] store.visible := ⟨nofun, well⟩
    exact Operation.create_tables_fresh faultless
      (fun table plain before left => Operation.create_table_ok plain) idle nothing answered
  | database answered => exact Operation.create_database_fresh faultless idle well answered

/-- So it shows the tables, and commits them, soundly kept. -/
theorem Schema.IsCreated.shows {tables : List Table} {schema : Schema} {store made : Store}
    {table : Table} (accepted : Schema.ofTables tables = .ok schema)
    (member : table ∈ schema.tables) (idle : store.IsIdle) (well : store.visible.WellFollowed)
    (created : schema.IsCreated store made) : made.Shows table.IsSoundlyKept := by
  obtain ⟨madeIdle, fresh⟩ := created.fresh accepted idle well
  have kept := (fresh.fresh table member).is_soundly_kept fresh.well
  obtain ⟨connection, opened, -⟩ := madeIdle.idle
  refine ⟨by simp [Driver.isConnected, opened], kept, ?_⟩
  rw [← madeIdle.visible_eq]
  exact kept

end RecordStore
