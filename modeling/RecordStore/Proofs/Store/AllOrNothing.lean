import RecordStore.Proofs.Store.PlainCalls

/-!
# Creating a schema, all or nothing

Creating a schema runs the statements of its tables, in the order in which the tables were
declared, and then the work of the caller, in one transaction. The first failure of a statement
or of the work is the failure of the whole, and nothing of it all is left. Without a failure the
objects of the tables stand in the catalog in their order when the work begins, and what the
work leaves to be seen is committed.
-/

namespace RecordStore

open Engine Sql

/-- The statements that create the tables of a schema, each with its table, in the order in which
they run. -/
def Schema.creations (schema : Schema) : List (Table × Statement Stored) :=
  schema.tables.flatMap fun table => table.creationStatements.map fun statement =>
    (table, statement)

/-- An object as a creating statement makes it. -/
inductive Engine.IsMadeBy : Statement Stored → Object → Prop where
  | relation {definition : TableDefinition} {relation : Relation} {text : String}
      (made : relationOf definition text = .ok relation) :
      IsMadeBy (.createTable definition) (.relation relation)
  | fullText (definition : FullTextDefinition) (text : String) :
      IsMadeBy (.createFullText definition)
        (.fullText ⟨definition.name, definition.columns, [], text⟩)
  | trigger (definition : TriggerDefinition Stored) (relation : Relation) (text : String)
      (follows : sameName relation.name definition.table = true) :
      IsMadeBy (.createTrigger definition)
        (.trigger ⟨definition.name, definition.event, relation.name, definition.body, text⟩)

/-- Whether an object is one that no statement makes by itself: the table of given numbers. -/
def Engine.Object.isSequence : Object → Bool
  | .sequence => true
  | _ => false

/-- A creating statement of a table adds its object to the catalog, and perhaps the table of
given numbers behind it. A full-text table comes under a name that was free. -/
theorem Table.making_adds {table : Table} {statement : Statement Stored}
    {database after : Database} (among : statement ∈ table.creationStatements)
    (made : making database statement = .ok after) :
    ∃ object, IsMadeBy statement object ∧ object.isSequence = false ∧
      (∀ new, object = .fullText new → database.hasTable new.name = false) ∧
      (after = database.push object ∨ after = (database.push object).push .sequence) := by
  rcases List.mem_cons.mp among with rfl | shadow
  · obtain ⟨-, relation, from', which⟩ := create_table_ok rfl made
    exact ⟨.relation relation, .relation from', rfl, (fun _ same => by cases same), which⟩
  · unfold shadowStatements at shadow
    split at shadow
    · rcases List.mem_cons.mp shadow with rfl | trigger
      · obtain ⟨free, same⟩ := create_full_text_ok rfl made
        refine ⟨_, .fullText _ _, rfl, fun new isNew => ?_, .inl same⟩
        cases isNew
        exact free
      · obtain ⟨definition, among', rfl⟩ := List.mem_map.mp trigger
        obtain ⟨relation, held, same⟩ := create_trigger_ok (shadow_triggers_new among') made
        exact ⟨_, .trigger _ relation _ (Database.relation?_name held), rfl,
          (fun _ isNew => by cases isNew), .inl same⟩
    · cases shadow

/-- The statements of a schema are those of its tables. -/
theorem Schema.mem_creations {schema : Schema} {table : Table} {statement : Statement Stored}
    (member : (table, statement) ∈ schema.creations) :
    table ∈ schema.tables ∧ statement ∈ table.creationStatements := by
  obtain ⟨declared, among, paired⟩ := List.mem_flatMap.mp member
  obtain ⟨listed, inDeclared, same⟩ := List.mem_map.mp paired
  cases same
  exact ⟨among, inDeclared⟩

namespace Operation

variable {base : Database} {store after : Store}

/-- Runs one of the statements of a schema. -/
def creation (of' : Table × Statement Stored) : Operation PUnit := do
  let _ ← creating of'.1 of'.2

/-- A statement of a schema that answers adds its object to what the store shows. -/
theorem creation_adds {table : Table} {statement : Statement Stored}
    (faultless : table.fault? = none) (among : statement ∈ table.creationStatements)
    (answered : (creation (table, statement)).apply store = (.ok (), after)) :
    ∃ object, IsMadeBy statement object ∧ object.isSequence = false ∧
      (after.visible.objects = store.visible.objects ++ [object] ∨
        after.visible.objects = store.visible.objects ++ [object, .sequence]) := by
  obtain ⟨count, _, made, ended⟩ := bind_answered answered
  cases ended
  obtain ⟨object, from', plain, -, which⟩ :=
    Table.making_adds among (creating_ok faultless among made)
  refine ⟨object, from', plain, which.imp (fun same => ?_) fun same => ?_⟩
  · rw [same]
    rfl
  · rw [same]
    exact List.append_assoc _ _ _

/-- So do the statements of a schema one after the other, in their order. -/
theorem creations_add {creations : List (Table × Statement Stored)}
    (fit : ∀ entry ∈ creations, entry.1.fault? = none ∧ entry.2 ∈ entry.1.creationStatements)
    (answered : (creations.forM creation).apply store = (.ok (), after)) :
    ∃ made, after.visible.objects = store.visible.objects ++ made ∧
      List.Forall₂ IsMadeBy (creations.map Prod.snd)
        (made.filter fun object => !object.isSequence) := by
  induction creations generalizing store with
  | nil =>
    cases answered
    exact ⟨[], by simp, .nil⟩
  | cons first rest inductionHypothesis =>
    obtain ⟨next, ran, later⟩ := for_m_cons_answered answered
    obtain ⟨faultless, among⟩ := fit first List.mem_cons_self
    obtain ⟨object, from', plain, added⟩ := creation_adds faultless among ran
    obtain ⟨others, listed, match'⟩ := inductionHypothesis
      (fun entry later => fit entry (List.mem_cons_of_mem first later)) later
    rcases added with one | two
    · have kept : ((object :: others).filter fun object => !object.isSequence) =
          object :: others.filter fun object => !object.isSequence :=
        List.filter_cons_of_pos (by rw [plain]; rfl)
      refine ⟨object :: others, by rw [listed, one]; simp, ?_⟩
      rw [kept]
      exact .cons from' match'
    · have kept : ((object :: .sequence :: others).filter fun object => !object.isSequence) =
          object :: others.filter fun object => !object.isSequence :=
        (List.filter_cons_of_pos (by rw [plain]; rfl)).trans
          (congrArg _ (List.filter_cons_of_neg nofun))
      refine ⟨object :: .sequence :: others, by rw [listed, two]; simp, ?_⟩
      rw [kept]
      exact .cons from' match'

/-- Inside of a transaction the tables of a schema are created by their statements alone: no
table begins a transaction of its own. -/
theorem create_tables_is_inside {tables : List Table} (inside : store.IsInside base) :
    (tables.forM createTable).apply store =
      ((tables.flatMap fun table =>
        table.creationStatements.map fun statement => (table, statement)).forM creation).apply
          store := by
  induction tables generalizing store with
  | nil => rfl
  | cons table rest inductionHypothesis =>
    have joined : (createTable table).apply store =
        ((table.creationStatements.map fun statement => (table, statement)).forM creation).apply
          store := by
      rw [createTable, atomically_flagged inside.flagged]
      simp only [List.forM_eq_forM, List.forM_map]
      rfl
    rw [List.flatMap_cons, List.forM_eq_forM, List.forM_eq_forM, List.forM_append, List.forM_cons,
      apply_bind, apply_bind, joined]
    have kept := create_table_is_inside table store inside
    rw [joined] at kept
    rw [List.forM_eq_forM] at kept ⊢
    rcases ran : (forM (table.creationStatements.map fun statement => (table, statement))
      creation : Operation PUnit).apply store with ⟨problem | ⟨⟩, next⟩
    · rfl
    · rw [ran] at kept
      exact inductionHypothesis kept

/-! ### Failures -/

/-- An idle store that shows what an idle store showed. -/
structure Unchanged (before after : Store) : Prop where
  idle : after.IsIdle
  visible : after.visible = before.visible
  committed : after.committed = before.committed

/-- Two idle stores with the same committed database show the same. -/
theorem unchanged_of_committed (beforeIdle : store.IsIdle) (idle : after.IsIdle)
    (committed : after.committed = store.committed) : Unchanged store after :=
  ⟨idle, (idle.visible_eq.trans committed).trans beforeIdle.visible_eq.symm, committed⟩

/-- Rolling back what was done over a committed database leaves that, also where the engine has
taken the transaction back already. -/
theorem try_rollback_is_over (above : store.IsOver base) (quiet : store.host.outage? = none) :
    (tryRollback.apply store).2.IsIdle ∧ (tryRollback.apply store).2.committed = base := by
  obtain ⟨connection, opened⟩ := Option.isSome_iff_exists.mp above.connected
  cases flag : store.driver.inTransaction with
  | false =>
    have idle : connection.isIdle = true := by
      by_contra busy
      have up := above.flagged (by simpa [Driver.engineInTransaction, opened] using busy)
      cases flag.symm.trans up
    rw [try_rollback_unflagged flag]
    exact ⟨⟨flag, connection, opened, idle⟩, above.committed⟩
  | true =>
    obtain ⟨left, kept, ended⟩ := ending_flagged .rollback opened flag
    rw [try_rollback_flagged flag, rollback, ended]
    rcases answering_cases .rollback opened with ⟨outage, strikes, -⟩ | ⟨execution, -, asked⟩
    · cases quiet.symm.trans strikes
    · rw [asked] at kept ⊢
      have content := above.committed
      rw [Store.committed_of_connection opened] at content
      have idle := (⟨connection, store.host.disk⟩ : Access).run_rollback_is_idle
      cases kept
      refine ⟨⟨by simp [Store.flagged, idle], _, rfl, idle⟩, ?_⟩
      exact (Access.run_rollback_content _).trans content

variable {schema : Schema} {initializer : Operation Unit} {opened failed created : Store}
  {problem : StoreError}

/-- The work of creating a schema: the statements of its tables, and then the caller's. -/
theorem populate_is_inside (inside : opened.IsInside base) :
    (createTables schema >>= fun _ => initializer).apply opened =
      match (schema.creations.forM creation).apply opened with
      | (.ok _, created) => initializer.apply created
      | (.error problem, failed) => (.error problem, failed) := by
  rw [apply_bind, createTables, create_tables_is_inside inside, Schema.creations]
  rcases (List.forM _ creation : Operation PUnit).apply opened with ⟨problem | ⟨⟩, left⟩ <;> rfl

/-- When the work fails its failure is the failure of the whole, and what comes of the rollback
is left. -/
theorem create_database_fails (begun : begin.apply store = (.ok (), opened))
    (fails : (createTables schema >>= fun _ => initializer).apply opened =
      (.error problem, failed)) :
    Operation.apply (createDatabase schema initializer) store =
      (.error problem, (tryRollback.apply failed).2) := by
  rw [create_database_in_own_transaction, apply_in_own_transaction, begun]
  simp only [fails]

/-- What is left then is what was there before, if the work left the store over what was
committed. -/
theorem create_database_undoes (idle : store.IsIdle) (begun : begin.apply store = (.ok (), opened))
    (fails : (createTables schema >>= fun _ => initializer).apply opened =
      (.error problem, failed)) (above : failed.IsOver store.committed) :
    (Operation.apply (createDatabase schema initializer) store).1 = .error problem ∧
      (failed.host.outage? = none →
        Unchanged store (Operation.apply (createDatabase schema initializer) store).2) := by
  rw [create_database_fails begun fails]
  refine ⟨rfl, fun quiet => ?_⟩
  obtain ⟨finallyIdle, committed⟩ := try_rollback_is_over above quiet
  exact unchanged_of_committed idle finallyIdle committed

/-- A transaction that cannot be begun is answered as such. -/
theorem create_database_not_begun (schema : Schema) (initializer : Operation Unit)
    (idle : store.IsIdle) (refused : begin.apply store = (.error problem, failed)) :
    Operation.apply (createDatabase schema initializer) store = (.error problem, failed) ∧
      Unchanged store failed := by
  refine ⟨?_, ?_⟩
  · rw [create_database_in_own_transaction, apply_in_own_transaction, refused]
  · rcases begin_idle idle with ⟨_, left, refused', stillIdle, committed⟩ | ⟨left, begun, -, -⟩
    · cases refused.symm.trans refused'
      exact unchanged_of_committed idle stillIdle committed
    · cases refused.symm.trans begun

/-- A beginning that is answered puts an idle store inside of a transaction. -/
theorem begin_is_inside (idle : store.IsIdle) (begun : begin.apply store = (.ok (), opened)) :
    opened.IsInside store.committed ∧ opened.visible = store.visible := by
  rcases begin_idle idle with ⟨_, left, refused, -, -⟩ | ⟨left, begun', inside, visible⟩
  · cases begun.symm.trans refused
  · cases begun.symm.trans begun'
    exact ⟨inside, visible⟩

/-- The statements of a schema keep the store inside of the transaction. -/
theorem creations_is_inside (schema : Schema) {creations : List (Table × Statement Stored)}
    (among : creations ⊆ schema.creations) :
    Keeps (Store.IsInside base) (creations.forM creation) := by
  refine .for_m creations fun entry member => ?_
  obtain ⟨-, inTable⟩ := Schema.mem_creations (among member)
  exact .bind (creating_is_inside entry.1 entry.2 inTable) fun _ => .pure _

variable {reached filled final : Store} {earlier later : List (Table × Statement Stored)}
  {entry : Table × Statement Stored}

/-- A statement that fails at any position is the failure of the whole. -/
theorem create_database_statement_fails (idle : store.IsIdle)
    (begun : begin.apply store = (.ok (), opened))
    (split : schema.creations = earlier ++ entry :: later)
    (ran : (earlier.forM creation).apply opened = (.ok (), reached))
    (fails : (creation entry).apply reached = (.error problem, failed)) :
    (Operation.apply (createDatabase schema initializer) store).1 = .error problem ∧
      (failed.host.outage? = none →
        Unchanged store (Operation.apply (createDatabase schema initializer) store).2) := by
  obtain ⟨inside, -⟩ := begin_is_inside idle begun
  have among : earlier ++ entry :: later ⊆ schema.creations := split ▸ fun _ member => member
  have reachedInside := creations_is_inside schema
    (fun _ member => among (List.mem_append_left _ member)) opened inside
  rw [ran] at reachedInside
  have failedInside : failed.IsInside store.committed := by
    have member : entry ∈ earlier ++ entry :: later :=
      List.mem_append_right earlier List.mem_cons_self
    have inTable := (Schema.mem_creations (among member)).2
    have kept := Keeps.bind (creating_is_inside entry.1 entry.2 inTable)
      (fun _ => .pure PUnit.unit) reached reachedInside
    rwa [show (creating entry.1 entry.2 >>= fun _ => pure PUnit.unit).apply reached = _ from fails]
      at kept
  refine create_database_undoes idle begun ?_ failedInside.is_over
  rw [populate_is_inside inside, split, List.forM_eq_forM, List.forM_append, apply_bind,
    ← List.forM_eq_forM, ran]
  simp only
  rw [List.forM_eq_forM, List.forM_cons, apply_bind, fails]

/-- The caller's work begins inside of the transaction. -/
theorem begun_is_inside (idle : store.IsIdle)
    (begins : (begin >>= fun _ => createTables schema).apply store = (.ok (), created)) :
    created.IsInside store.committed := by
  obtain ⟨⟨⟩, left, begun, created'⟩ := bind_answered begins
  have kept := Keeps.for_m schema.tables (fun table _ => create_table_is_inside table) left
    (begin_is_inside idle begun).1
  rwa [show (schema.tables.forM createTable).apply left = _ from created'] at kept

/-- It begins when all statements have been answered. -/
theorem create_tables_begins (idle : store.IsIdle) (begun : begin.apply store = (.ok (), opened))
    (ran : (schema.creations.forM creation).apply opened = (.ok (), created)) :
    (begin >>= fun _ => createTables schema).apply store = (.ok (), created) := by
  obtain ⟨inside, -⟩ := begin_is_inside idle begun
  rw [apply_bind, begun]
  simp only
  rw [createTables, create_tables_is_inside inside]
  exact ran

/-- Work of the caller's that fails is the failure of the whole. -/
theorem create_database_work_fails (idle : store.IsIdle)
    (begun : begin.apply store = (.ok (), opened))
    (ran : (schema.creations.forM creation).apply opened = (.ok (), created))
    (plain : created.Works (initializer.apply created).2)
    (fails : initializer.apply created = (.error problem, failed)) :
    (Operation.apply (createDatabase schema initializer) store).1 = .error problem ∧
      (failed.host.outage? = none →
        Unchanged store (Operation.apply (createDatabase schema initializer) store).2) := by
  obtain ⟨inside, -⟩ := begin_is_inside idle begun
  have above := plain.is_over (begun_is_inside idle (create_tables_begins idle begun ran))
  rw [fails] at above
  refine create_database_undoes idle begun ?_ above
  rw [populate_is_inside inside, ran]
  exact fails

/-- When nothing fails, what the commit leaves is left. -/
theorem create_database_completes (idle : store.IsIdle)
    (begun : begin.apply store = (.ok (), opened))
    (ran : (schema.creations.forM creation).apply opened = (.ok (), created))
    (works : initializer.apply created = (.ok (), filled))
    (committed : commit.apply filled = (.ok (), final)) :
    Operation.apply (createDatabase schema initializer) store = (.ok (), final) := by
  obtain ⟨inside, -⟩ := begin_is_inside idle begun
  rw [create_database_in_own_transaction, apply_in_own_transaction, begun]
  simp only
  rw [populate_is_inside inside, ran]
  simp only
  rw [works]
  simp only
  rw [committed]
  rfl

/-- The statements leave the objects of all tables behind the earlier ones. -/
theorem creations_catalog (faultless : ∀ table ∈ schema.tables, table.fault? = none)
    (idle : store.IsIdle) (begun : begin.apply store = (.ok (), opened))
    (ran : (schema.creations.forM creation).apply opened = (.ok (), created)) :
    ∃ made, created.visible.objects = store.visible.objects ++ made ∧
      List.Forall₂ IsMadeBy (schema.creations.map Prod.snd)
        (made.filter fun object => !object.isSequence) := by
  have fit : ∀ entry ∈ schema.creations,
      entry.1.fault? = none ∧ entry.2 ∈ entry.1.creationStatements := fun entry member =>
    ⟨faultless entry.1 (Schema.mem_creations member).1, (Schema.mem_creations member).2⟩
  obtain ⟨made, added, objects⟩ := creations_add fit ran
  exact ⟨made, by rw [added, (begin_is_inside idle begun).2], objects⟩

end Operation

/-- Creating a schema is all or nothing, whatever the database holds, for work of the caller's
that makes calls that are not about transactions, and none of them after the engine has taken
the transaction back. Where a transaction is open already it is refused and changes nothing. If
the transaction cannot be begun, or a statement of a table fails at any position, or the work
fails, then that failure is answered, and with the rollback undisturbed the store is idle and
shows what it showed. If nothing fails and the commit is answered, then the work began on a
catalog in which the objects of all tables stood behind the earlier ones in the order of their
statements, and what the work left to be seen is committed.

Proof: by where the creation ends: before the transaction, at a statement, in the work, or with the
commit. In the first three cases the work is inside of the transaction over what is committed, by
induction on its calls, so the rollback takes all of it back. -/
theorem create_database_all_or_nothing {tables : List Table} {schema : Schema} {store : Store}
    {initializer : Operation Unit} (accepted : Schema.ofTables tables = .ok schema)
    (plain : ∀ created, (Operation.begin >>= fun _ => Operation.createTables schema).apply store =
      (.ok (), created) → created.Works (initializer.apply created).2) :
    let result := (Operation.apply (Operation.createDatabase schema initializer) store).1
    let after := (Operation.apply (Operation.createDatabase schema initializer) store).2
    (store.driver.isConnected = true → store.driver.inTransaction = true →
      result = .error .alreadyInTransaction ∧ after = store) ∧
    (store.IsIdle →
      (∀ problem left, Operation.begin.apply store = (.error problem, left) →
        result = .error problem ∧ Operation.Unchanged store after) ∧
      ∀ opened, Operation.begin.apply store = (.ok (), opened) →
        (∀ earlier entry later reached problem failed,
          schema.creations = earlier ++ entry :: later →
          (earlier.forM Operation.creation).apply opened = (.ok (), reached) →
          (Operation.creation entry).apply reached = (.error problem, failed) →
          result = .error problem ∧
            (failed.host.outage? = none → Operation.Unchanged store after)) ∧
        (∀ created problem failed,
          (schema.creations.forM Operation.creation).apply opened = (.ok (), created) →
          initializer.apply created = (.error problem, failed) →
          result = .error problem ∧
            (failed.host.outage? = none → Operation.Unchanged store after)) ∧
        ∀ created filled final,
          (schema.creations.forM Operation.creation).apply opened = (.ok (), created) →
          initializer.apply created = (.ok (), filled) →
          Operation.commit.apply filled = (.ok (), final) →
          result = .ok () ∧ after.IsIdle ∧ after.committed = filled.visible ∧
            ∃ made, created.visible.objects = store.visible.objects ++ made ∧
              List.Forall₂ IsMadeBy (schema.creations.map Prod.snd)
                (made.filter fun object => !object.isSequence)) := by
  intro result after
  refine ⟨fun connected flag => ?_, fun idle => ⟨fun problem left refused => ?_, fun opened begun =>
    ⟨?_, ?_, ?_⟩⟩⟩
  · have same := Operation.create_database_flagged schema initializer connected flag
    exact ⟨congrArg Prod.fst same, congrArg Prod.snd same⟩
  · obtain ⟨same, unchanged⟩ := Operation.create_database_not_begun schema initializer idle refused
    exact ⟨congrArg Prod.fst same, by simpa only [after, same] using unchanged⟩
  · intro earlier entry later reached problem failed split ran fails
    exact Operation.create_database_statement_fails idle begun split ran fails
  · intro created problem failed ran fails
    exact Operation.create_database_work_fails idle begun ran
      (plain created (Operation.create_tables_begins idle begun ran)) fails
  · intro created filled final ran works committed
    have whole := Operation.create_database_completes idle begun ran works committed
    obtain ⟨finallyIdle, seen⟩ := Operation.commit_visible committed
    have final' : after = final := congrArg Prod.snd whole
    rw [final']
    exact ⟨congrArg Prod.fst whole, finallyIdle, finallyIdle.visible_eq.symm.trans seen,
      Operation.creations_catalog (Schema.of_tables_fault? accepted) idle begun ran⟩

/-! ### A register that is full -/

namespace Register

/-- A table that has given its last number. -/
def lines : Relation where
  name := "line"
  attributes := [⟨"number", .integer, false, .null⟩]
  identity := .shown "number" true
  uniques := []
  rows := []
  text := ""

/-- An open store over these lines. -/
def opened : Store where
  driver := { config := {}, connection := some { number := 0, location := .memory 0 } }
  host := {
    disk := {
      volumes := [(.memory 0,
        { content := { objects := [.relation lines], given := [("line", Int64.maxValue)] } })] } }

/-- No transaction is open in it. -/
theorem opened_idle : opened.IsIdle := ⟨rfl, _, rfl, rfl⟩

/-- A page of a book. -/
def page : Table := ⟨"page", [{ name := "text", type := .string }]⟩

/-- The cover of a book. -/
def cover : Table := ⟨"cover", [{ name := "title", type := .string }]⟩

/-- What is said when a book is torn. -/
def torn : StoreError := .invalidArgument "torn"

/-- Makes a cover and then fails. -/
def binding : Operation Unit := Operation.createTable cover >>= fun _ => throw torn

/-- Asks for one line too many, makes a cover all the same and then fails. -/
def writing : Operation Unit :=
  Operation.attempt (Operation.execute "INSERT INTO line DEFAULT VALUES" []) >>= fun _ => binding

/-- The page is a table of a schema. -/
theorem page_accepted : Schema.ofTables [page] = .ok ⟨[page]⟩ :=
  Schema.of_tables_ok (by decide +kernel) (by decide +kernel)

/-- What binding leaves is what making the cover leaves. -/
theorem binding_left (store : Store) :
    (binding.apply store).2 = ((Operation.createTable cover).apply store).2 := by
  rw [binding, Operation.apply_bind]
  rcases (Operation.createTable cover).apply store with ⟨problem | ⟨⟩, left⟩ <;> rfl

end Register

open Register in
/-- Nothing of the page and the cover is left when the caller's work fails. -/
theorem create_database_all_or_nothing_torn :
    Schema.ofTables [page] = .ok ⟨[page]⟩ ∧ opened.IsIdle ∧
      (Operation.apply (Operation.createDatabase ⟨[page]⟩ binding) opened).1 = .error torn ∧
      Operation.Unchanged opened
        (Operation.apply (Operation.createDatabase ⟨[page]⟩ binding) opened).2 := by
  have plain : ∀ created,
      (Operation.begin >>= fun _ => Operation.createTables ⟨[page]⟩).apply opened =
        (.ok (), created) → created.Works (binding.apply created).2 := by
    intro created begins
    rw [binding_left]
    exact .single ⟨(Operation.begun_is_inside opened_idle begins).busy, .createTable cover⟩
  obtain ⟨begun, ran, fails, quiet⟩ :
      (Operation.begin.apply opened).1 = .ok () ∧
      ((Schema.creations ⟨[page]⟩).forM Operation.creation |>.apply
        (Operation.begin.apply opened).2).1 = .ok () ∧
      (binding.apply ((Schema.creations ⟨[page]⟩).forM Operation.creation |>.apply
        (Operation.begin.apply opened).2).2).1 = .error torn ∧
      (binding.apply ((Schema.creations ⟨[page]⟩).forM Operation.creation |>.apply
        (Operation.begin.apply opened).2).2).2.host.outage? = none := by
    decide +kernel
  obtain ⟨-, whole⟩ := create_database_all_or_nothing page_accepted plain
  obtain ⟨result, unchanged⟩ := ((whole opened_idle).2 _ (Prod.ext begun rfl)).2.1 _ torn _
    (Prod.ext ran rfl) (Prod.ext fails rfl)
  exact ⟨page_accepted, opened_idle, result, unchanged quiet⟩

open Register in
/-- A cover that was made after the engine took the transaction back outlives the failure of the
whole, though none of the caller's calls is about transactions. -/
theorem create_database_can_leave_something :
    ∃ (schema : Schema) (store : Store) (initializer : Operation Unit),
      Schema.ofTables [page] = .ok schema ∧ store.IsIdle ∧
      (∀ created, (Operation.begin >>= fun _ => Operation.createTables schema).apply store =
        (.ok (), created) →
        Relation.ReflTransGen Store.PlainCall created (initializer.apply created).2) ∧
      (Operation.apply (Operation.createDatabase schema initializer) store).1 = .error torn ∧
      (Operation.apply (Operation.createDatabase schema initializer) store).2.committed ≠
        store.committed := by
  have plainText : Sql.textControls "INSERT INTO line DEFAULT VALUES" = false := by decide +kernel
  refine ⟨⟨[page]⟩, opened, writing, page_accepted, opened_idle, fun created _ => ?_, ?_, ?_⟩
  · have left : (writing.apply created).2 = (binding.apply
        ((Operation.execute "INSERT INTO line DEFAULT VALUES" []).apply created).2).2 := rfl
    rw [left, binding_left]
    exact .tail (.single (.execute _ [] plainText)) (.createTable cover)
  · decide +kernel
  · intro same
    have objects : (Operation.apply (Operation.createDatabase ⟨[page]⟩ writing)
        opened).2.committed.objects.length ≠ opened.committed.objects.length := by
      decide +kernel
    exact objects (congrArg (fun database => database.objects.length) same)

end RecordStore
