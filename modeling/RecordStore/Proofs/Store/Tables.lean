import RecordStore.Proofs.Schema.Admission
import RecordStore.Proofs.Shadow.Creation
import RecordStore.Proofs.Store.Sight
import RecordStore.Proofs.Store.Synchrony

/-!
# The tables of a schema in a store

A store that creates the tables of a schema, and answers, shows them: each has been made, under
names of its own, and the full-text table of each analyzed one mirrors it. All of it is
committed.
-/

namespace RecordStore

open Engine Sql

/-! ### Declarations that fit together -/

namespace Schema

/-- The tables of a schema are in order each by itself. -/
theorem declaration_fault?_none {before : List String} {tables : List Table}
    (accepted : declarationFault? before tables = none) :
    ∀ table ∈ tables, table.fault? = none := by
  induction tables generalizing before with
  | nil => exact fun _ member => by cases member
  | cons first rest inductionHypothesis =>
    unfold declarationFault? at accepted
    split at accepted
    · cases accepted
    · split at accepted
      · cases accepted
      · rename_i faultless
        intro table member
        rcases List.mem_cons.mp member with rfl | later
        · exact faultless
        · exact inductionHypothesis accepted table later

/-- A schema has the tables of which it was made. -/
theorem of_tables_tables {tables : List Table} {schema : Schema}
    (accepted : ofTables tables = .ok schema) : schema.tables = tables := by
  unfold ofTables at accepted
  split at accepted
  · cases accepted
  · split at accepted
    · cases accepted
    · cases accepted
      rfl

/-- Declarations without a fault of which no full-text table takes the name of another fit
together. -/
theorem of_tables_ok {tables : List Table} (faultless : declarationFault? [] tables = none)
    (clear : collision? (tables.map Table.name) tables = none) :
    ofTables tables = .ok ⟨tables⟩ := by
  unfold ofTables
  rw [faultless]
  dsimp only
  rw [clear]

/-- None of them has a fault. -/
theorem of_tables_fault? {tables : List Table} {schema : Schema}
    (accepted : ofTables tables = .ok schema) : ∀ table ∈ schema.tables, table.fault? = none := by
  rw [of_tables_tables accepted]
  unfold ofTables at accepted
  split at accepted
  · cases accepted
  · rename_i faultless
    exact declaration_fault?_none faultless

end Schema

namespace Engine.Access

variable {access : Access}

/-- Behind a definition that is answered what it made is seen. -/
theorem run_definition_visible {define : Database → Except Fault Database} {answer : Answer}
    (answered : (access.runDefinition define).answer = .ok answer) :
    define access.visible = .ok (access.runDefinition define).access.visible := by
  rcases access.run_definition_cases define with
    ⟨fault, ran⟩ | ⟨database, held, defined, granted, ⟨fault, ran⟩ | ⟨final, kept, ran⟩⟩
  · rw [ran] at answered
    cases answered
  · rw [ran] at answered
    cases answered
  · rw [ran, defined, (keep_visible kept).1]

/-- Counting the first row of an index leaves the answer. -/
@[simp] theorem counting_index_answer (statement : Statement Stored) (outcome : Outcome Answer) :
    (countingIndex statement outcome).answer = outcome.answer := by
  unfold countingIndex
  split <;> rfl

/-- Counting it leaves what is seen. -/
@[simp] theorem counting_index_visible (statement : Statement Stored)
    (outcome : Outcome Answer) :
    (countingIndex statement outcome).access.visible = outcome.access.visible := by
  unfold countingIndex
  split
  · exact counting_visible _ _
  · rfl

/-- A creation is performed as the definition that it is. -/
theorem perform_creation (access : Access) {statement : Statement Stored}
    (creation : statement.isCreation) (text : String) :
    ∃ define, definition? text statement = some define ∧
      access.perform text statement = countingIndex statement (access.runDefinition define) := by
  cases statement with
  | createTable definition => exact ⟨_, rfl, rfl⟩
  | createFullText definition => exact ⟨_, rfl, rfl⟩
  | createTrigger definition => exact ⟨_, rfl, rfl⟩
  | _ => exact creation.elim

/-- A creation that is answered makes of the database that is seen what its statement says. -/
theorem run_creation_visible {statement : Statement Stored} {answer : Answer}
    (creation : statement.isCreation) (plain : statement.mapOperands Stored.bound = statement)
    (answered : (access.run statement).answer = .ok answer) :
    making access.visible statement = .ok (access.run statement).access.visible := by
  rcases run_cases access statement with ⟨fault, refused⟩ | performed
  · rw [refused] at answered
    cases answered
  · obtain ⟨define, defined, runs⟩ :=
      perform_creation access creation statement.render
    rw [performed, plain, runs] at answered ⊢
    rw [counting_index_answer] at answered
    rw [counting_index_visible]
    simp only [making, defined]
    exact run_definition_visible answered

/-- A commit that is answered commits what is seen. -/
theorem run_commit_visible {answer : Answer}
    (answered : (access.run .commit).answer = .ok answer) :
    (access.run .commit).access.connection.isIdle = true ∧
      (access.run .commit).access.visible = access.visible := by
  rcases access.run_commit_cases with ⟨-, concludes⟩ | ⟨fault, refused, -⟩
  · exact ⟨concludes.idle, concludes.seen⟩
  · cases refused.symm.trans answered

end Engine.Access

/-- An open store in which no transaction is open. -/
structure Store.IsIdle (store : Store) : Prop where
  unflagged : store.driver.inTransaction = false
  idle : ∃ connection, store.driver.connection = some connection ∧ connection.isIdle = true

/-- An idle store shows what is committed. -/
theorem Store.IsIdle.visible_eq {store : Store} (idle : store.IsIdle) :
    store.visible = store.committed := by
  obtain ⟨connection, opened, isIdle⟩ := idle.idle
  rw [visible_of_connection opened, committed_of_connection opened]
  exact Access.visible_of_idle (by simpa [Connection.isIdle] using isIdle)

namespace Operation

variable {store after : Store}

/-- A creation that is answered makes of the database that the store shows what its statement
says. -/
theorem creating_ok {table : Table} {statement : Statement Stored} {count : Nat}
    (faultless : table.fault? = none) (among : statement ∈ table.creationStatements)
    (answered : (creating table statement).apply store = (.ok count, after)) :
    making store.visible statement = .ok after.visible := by
  rw [creating, faultless, Option.isNone_none, if_pos rfl] at answered
  obtain ⟨connection, opened, done, execution, rfl⟩ := on_connection_ok answered
  obtain ⟨⟨answer, ran⟩, -⟩ := Access.counted_ok done
  rw [Store.visible_of_connection opened, Store.used_visible, counted_access]
  exact Access.run_creation_visible (creation_render table statement among).1
    (table.creation_map_operands among) ran

/-- So do creations one after the other. -/
theorem creating_all {table : Table} {statements : List (Statement Stored)}
    (faultless : table.fault? = none) (among : statements ⊆ table.creationStatements)
    (answered : (statements.forM fun statement => do
      let _ ← creating table statement).apply store = (.ok (), after)) :
    statements.foldlM making store.visible = .ok after.visible := by
  induction statements generalizing store with
  | nil =>
    cases answered
    rfl
  | cons first rest inductionHypothesis =>
    obtain ⟨next, one, others⟩ := for_m_cons_answered answered
    obtain ⟨count, _, made, ended⟩ := bind_answered one
    cases ended
    rw [List.foldlM_cons, creating_ok faultless (among List.mem_cons_self) made]
    exact inductionHypothesis (List.subset_of_cons_subset among) others

/-- Beginning a transaction leaves what a store shows. -/
theorem begin_visible (idle : store.IsIdle) (answered : begin.apply store = (.ok (), after)) :
    after.visible = store.visible := by
  obtain ⟨connection, opened, isIdle⟩ := idle.idle
  have shows' : store.Shows (· = store.visible) :=
    ⟨by simp [Driver.isConnected, opened], rfl, idle.visible_eq.symm⟩
  have kept := begin_shows store shows'
  rw [answered] at kept
  exact kept.2.1

/-- A commit that is answered leaves an idle store that shows what it showed. -/
theorem commit_visible (answered : commit.apply store = (.ok (), after)) :
    after.IsIdle ∧ after.visible = store.visible := by
  obtain ⟨connection, answer, opened, -, done, execution, rfl⟩ := ending_answered answered
  obtain ⟨isIdle, seen⟩ := Access.run_commit_visible done
  refine ⟨⟨by simp [Store.flagged, isIdle], _, rfl, isIdle⟩, ?_⟩
  rw [Store.visible_of_connection opened]
  exact seen

/-- Creating a table in an idle store makes of the database that it shows what the statements
of the table say, and leaves it idle. -/
theorem create_table_ok {table : Table} (faultless : table.fault? = none) (idle : store.IsIdle)
    (answered : (createTable table).apply store = (.ok (), after)) :
    after.IsIdle ∧
      table.creationStatements.foldlM making store.visible = .ok after.visible := by
  rw [createTable, atomically_unflagged idle.unflagged] at answered
  obtain ⟨opened, created, began, worked, committed⟩ := in_own_transaction_answered answered
  obtain ⟨finallyIdle, seen⟩ := commit_visible committed
  refine ⟨finallyIdle, ?_⟩
  rw [seen, ← begin_visible idle began]
  exact creating_all faultless (fun _ among => among) worked

end Operation

/-- A database in which tables have been made, all under names of their own. -/
structure HoldsTables (tables : List Table) (database : Database) : Prop where
  taken : ∀ table ∈ tables, ∀ name ∈ table.madeNames, database.hasTable name = true
  apart : ToldApart (tables.flatMap Table.madeNames)
  well : database.WellFollowed
  mirrored : ∀ table ∈ tables, table.isAnalyzed = true → table.IsMirrored database

/-- An empty database holds no tables. -/
theorem holds_tables_of_empty {database : Database} (empty : database.objects = []) :
    HoldsTables [] database :=
  ⟨nofun, .nil, Database.well_followed_of_empty empty, nofun⟩

namespace HoldsTables

variable {tables : List Table} {table : Table} {database after : Database}

/-- A further table comes beside the tables that have been made. -/
theorem make (holds : HoldsTables tables database) (made : table.IsMadeFrom database after) :
    HoldsTables (tables ++ [table]) after where
  taken other member := by
    rcases List.mem_append.mp member with old | new
    · exact fun name among => made.kept name (holds.taken other old name among)
    · cases List.mem_singleton.mp new
      exact made.taken
  apart := by
    rw [List.flatMap_append, List.flatMap_singleton]
    refine List.pairwise_append.mpr ⟨holds.apart, made.apart, fun left old right new => ?_⟩
    obtain ⟨other, member, among⟩ := List.mem_flatMap.mp old
    rw [same_name_comm]
    exact Database.apart_of_free (made.free right new) (holds.taken other member left among)
  well := made.well
  mirrored other member analyzed := by
    rcases List.mem_append.mp member with old | new
    · exact made.others other (holds.mirrored other old analyzed)
    · cases List.mem_singleton.mp new
      exact made.mirrored analyzed

/-- Two tables are the same, or all of their names are told apart. -/
theorem apart_names (holds : HoldsTables tables database) {left right : Table}
    (leftMember : left ∈ tables) (rightMember : right ∈ tables) :
    left = right ∨ ∀ leftName ∈ left.madeNames, ∀ rightName ∈ right.madeNames,
      sameName leftName rightName = false := by
  have pairs := (List.pairwise_flatMap.mp holds.apart).2
  refine List.Pairwise.forall_of_forall_of_flip (R := fun left right => left = right ∨
    ∀ leftName ∈ left.madeNames, ∀ rightName ∈ right.madeNames,
      sameName leftName rightName = false) (fun _ _ => .inl rfl) (pairs.imp .inr)
    (pairs.imp fun apart => .inr ?_) leftMember rightMember
  intro otherName otherAmong oneName oneAmong
  rw [same_name_comm]
  exact apart oneName oneAmong otherName otherAmong

end HoldsTables

/-- Creating tables one after the other, in an idle store. -/
theorem Operation.create_tables_ok {tables made : List Table} {store after : Store}
    (faultless : ∀ table ∈ tables, table.fault? = none) (idle : store.IsIdle)
    (holds : HoldsTables made store.visible)
    (answered : (tables.forM createTable).apply store = (.ok (), after)) :
    after.IsIdle ∧ HoldsTables (made ++ tables) after.visible := by
  induction tables generalizing made store with
  | nil =>
    cases answered
    rw [List.append_nil]
    exact ⟨idle, holds⟩
  | cons table rest inductionHypothesis =>
    obtain ⟨next, created, others⟩ := for_m_cons_answered answered
    have plain := faultless table List.mem_cons_self
    obtain ⟨nextIdle, making⟩ := create_table_ok plain idle created
    have nextHolds := holds.make (Table.creation_statements_make holds.well
      (Table.is_admitted_of_fault? plain).keyed making)
    rw [← List.singleton_append, ← List.append_assoc]
    exact inductionHypothesis (fun other member => faultless other (List.mem_cons_of_mem _ member))
      nextIdle nextHolds others

end RecordStore
