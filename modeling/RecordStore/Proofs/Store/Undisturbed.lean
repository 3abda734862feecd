import RecordStore.Proofs.Schema.Making
import RecordStore.Proofs.Store.AllOrNothing

/-!
# Statements that nothing disturbs

Where the engine answers each call and no other connection holds anything of the volume, a statement
that makes an object comes out as it does in the database that the store shows: it is answered if
the object can be made, and refused with the fault of the database otherwise. So do statements one
after the other, and the creation of a whole schema.
-/

namespace RecordStore

open Engine Sql

/-! ### What a check foresees -/

namespace Engine

/-- The text of a definition is what the catalog shows of its relation, and nothing else. -/
theorem relation_of_text (definition : TableDefinition) (text other : String) :
    relationOf definition other =
      (relationOf definition text).map fun relation => { relation with text := other } := by
  unfold relationOf
  simp only [bind, Except.bind]
  cases definition.columns.foldlM (declareColumn definition.name) {} with
  | error fault => rfl
  | ok columns =>
    dsimp only
    cases definition.keys.foldlM (declareKey definition.name) columns with
    | error fault => rfl
    | ok keyed =>
      dsimp only
      cases definition.uniques.foldlM (declareUnique definition.name) keyed with
      | error fault => rfl
      | ok declared =>
        dsimp only
        repeat' split
        all_goals rfl

/-- Whether a table is made does not depend on the text of its statement. -/
theorem create_table_text {definition : TableDefinition} (new : definition.ifMissing = false)
    (database : Database) (text other : String) :
    (createTable database definition other).map (fun _ => ()) =
      (createTable database definition text).map fun _ => () := by
  rw [create_table_eq new, create_table_eq new, relation_of_text definition text other]
  split
  · rfl
  · split
    · rfl
    · cases relationOf definition text <;> rfl

/-- Nor does whether a full-text table is made. -/
theorem create_full_text_text {definition : FullTextDefinition} (new : definition.ifMissing = false)
    (database : Database) (text other : String) :
    (createFullText database definition other).map (fun _ => ()) =
      (createFullText database definition text).map fun _ => () := by
  rw [create_full_text_eq new, create_full_text_eq new]
  dsimp only
  repeat' split
  all_goals rfl

/-- Nor does whether a trigger is made. -/
theorem create_trigger_text (database : Database) (definition : TriggerDefinition Stored)
    (text other : String) :
    (createTrigger database definition other).map (fun _ => ()) =
      (createTrigger database definition text).map fun _ => () := by
  rw [create_trigger_eq, create_trigger_eq]
  repeat' split
  all_goals rfl

variable {table : Table} {statement : Statement Stored}

/-- A statement of a table passes the check exactly if what it says can be made. -/
theorem Access.check_creation (access : Access) (among : statement ∈ table.creationStatements) :
    access.check statement = (making access.visible statement).map fun _ => () := by
  rcases List.mem_cons.mp among with rfl | shadow
  · exact create_table_text rfl _ _ _
  · unfold Table.shadowStatements at shadow
    split at shadow
    · rcases List.mem_cons.mp shadow with rfl | trigger
      · exact create_full_text_text rfl _ _ _
      · obtain ⟨definition, -, rfl⟩ := List.mem_map.mp trigger
        exact create_trigger_text _ _ _ _
    · cases shadow

/-! ### Connections that are alone -/

namespace Access

variable {access : Access}

/-- Whether no other connection holds anything of the volume. -/
def IsAlone (access : Access) : Prop := access.volume.others access.number = []

/-- Who is alone may write. -/
theorem IsAlone.may_write (alone : access.IsAlone) :
    access.volume.mayWrite access.number = true := by
  rw [Volume.mayWrite, alone]
  rfl

/-- Who is alone may close. -/
theorem IsAlone.may_close (alone : access.IsAlone) :
    access.volume.mayClose access.number = true := by
  rw [Volume.mayClose, alone]
  rfl

/-- Who is alone is let through for writing and stays alone. -/
theorem IsAlone.for_writing (alone : access.IsAlone) :
    ∃ held, access.forWriting = .ok held ∧ held.IsAlone := by
  unfold Access.forWriting
  simp only [alone.may_write, if_true]
  split
  · exact ⟨_, rfl, alone⟩
  · refine ⟨_, rfl, ?_⟩
    unfold IsAlone
    rw [with_transaction_volume, with_volume_volume]
    exact (others_grant _ _ _).trans alone

/-- Who is alone can keep what was made and stays alone. -/
theorem IsAlone.keep (alone : access.IsAlone) (database : Database) :
    ∃ final, access.keep database = .ok final ∧ final.IsAlone := by
  unfold Access.keep
  split
  · exact ⟨_, rfl, alone⟩
  · simp only [alone.may_close, if_true]
    refine ⟨_, rfl, ?_⟩
    unfold IsAlone
    rw [with_volume_volume]
    exact alone

/-- A definition that can be made is answered for who is alone. -/
theorem IsAlone.run_definition (alone : access.IsAlone) {define : Database → Except Fault Database}
    {database : Database} (defined : define access.visible = .ok database) :
    (access.runDefinition define).answer = .ok default ∧
      (access.runDefinition define).access.IsAlone := by
  obtain ⟨held, granted, heldAlone⟩ := alone.for_writing
  obtain ⟨final, kept, finalAlone⟩ := heldAlone.keep database
  unfold Access.runDefinition
  simp only [defined, granted, kept]
  exact ⟨trivial, finalAlone⟩

/-- Counting the first row of an index leaves who is alone. -/
theorem counting_index_is_alone {outcome : Outcome Answer} (alone : outcome.access.IsAlone) :
    (countingIndex statement outcome).access.IsAlone := by
  unfold countingIndex
  split
  · exact alone
  · exact alone

/-- What comes of a statement of a table on a connection that is alone: the statement is refused and
nothing has happened if its object cannot be made, and answered otherwise. -/
theorem IsAlone.run_creation (alone : access.IsAlone)
    (among : statement ∈ table.creationStatements) :
    (∀ fault, making access.visible statement = .error fault →
      access.run statement = ⟨access, .error fault⟩) ∧
    ∀ database, making access.visible statement = .ok database →
      (access.run statement).answer = .ok default ∧ (access.run statement).access.IsAlone ∧
        (access.run statement).access.visible = database := by
  have plain := table.creation_map_operands among
  have creates := (Operation.creation_render table statement among).1
  have checked := access.check_creation among
  constructor
  · intro fault refused
    rw [refused] at checked
    unfold run
    simp only [plain, checked, Except.map]
  · intro database made
    obtain ⟨define, defined, performed⟩ := perform_creation access creates statement.render
    have isMade : define access.visible = .ok database := by
      simpa only [making, defined] using made
    have ran : access.run statement = countingIndex statement (access.runDefinition define) := by
      rw [made] at checked
      unfold run
      simp only [plain, checked, Except.map]
      exact performed
    obtain ⟨answer, stillAlone⟩ := alone.run_definition isMade
    have answered : (access.run statement).answer = .ok default := by
      rw [ran, counting_index_answer, answer]
    refine ⟨answered, ?_, ?_⟩
    · rw [ran]
      exact counting_index_is_alone stillAlone
    · have visible := run_creation_visible creates plain answered
      exact (Except.ok.inj (made.symm.trans visible)).symm

/-- A commit of who is alone is answered. -/
theorem IsAlone.run_commit (alone : access.IsAlone) (busy : access.connection.isIdle = false) :
    (access.run .commit).answer = .ok default ∧ (access.run .commit).access.IsAlone := by
  have released : ∀ reached : Access, reached.IsAlone → reached.ended.IsAlone := by
    intro reached isAlone
    unfold IsAlone Access.ended
    rw [with_transaction_volume, with_volume_volume]
    refine Eq.trans ?_ isAlone
    simp [Volume.release, Volume.others, number, withTransaction, withVolume, List.filter_filter]
  have indexedAlone : access.indexed.IsAlone := by
    unfold IsAlone
    rw [indexed_volume, indexed_number]
    exact alone
  change (access.runCommit).answer = .ok default ∧ (access.runCommit).access.IsAlone
  unfold runCommit
  cases found : access.connection.transaction with
  | none => simp [Connection.isIdle, found] at busy
  | some transaction =>
    simp only
    unfold conclude
    split
    · exact ⟨rfl, released _ indexedAlone⟩
    · simp only [indexedAlone.may_close, if_true]
      refine ⟨trivial, released _ ?_⟩
      unfold IsAlone
      rw [with_volume_volume]
      exact indexedAlone

end Access

end Engine

/-! ### Stores that nothing disturbs -/

/-- An open store in which the engine answers each call, and whose volume no other connection
holds. -/
structure Store.IsUndisturbed (store : Store) : Prop where
  calm : store.host.outages = []
  alone : ∃ connection, store.driver.connection = some connection ∧
    Access.IsAlone ⟨connection, store.host.disk⟩

namespace Store

variable {store : Store} {access : Access}

/-- No outage strikes an undisturbed store. -/
theorem IsUndisturbed.quiet (undisturbed : store.IsUndisturbed) : store.host.outage? = none := by
  unfold Host.outage?
  rw [undisturbed.calm]
  rfl

/-- A store stays undisturbed behind a use that leaves its connection alone. -/
theorem IsUndisturbed.used (undisturbed : store.IsUndisturbed) (alone : access.IsAlone)
    (execution : Execution) : (store.used access execution).IsUndisturbed where
  calm := by
    unfold Store.used
    rw [undisturbed.calm]
    rfl
  alone := ⟨access.connection, rfl, alone⟩

end Store

namespace Operation

variable {store : Store} {base : Database}

/-- An operation that comes out as this result does: it is answered and shows the database,
undisturbed still, or it is refused with the fault. -/
structure ComesOutAs (operation : Operation PUnit) (store : Store)
    (result : Except Fault Database) : Prop where
  answered : ∀ database, result = .ok database → ∃ after, operation.apply store = (.ok ⟨⟩, after) ∧
    after.IsUndisturbed ∧ after.visible = database
  refused : ∀ fault, result = .error fault →
    ∃ text after, operation.apply store = (.error (.engine fault text), after)

/-- It is refused with a fault if the result is that fault, without regard to databases. -/
theorem ComesOutAs.refused_of_map {operation : Operation PUnit} {result : Except Fault Database}
    (comesOut : operation.ComesOutAs store result) {fault : Fault}
    (refused : (result.map fun _ => ()) = .error fault) :
    ∃ text after, operation.apply store = (.error (.engine fault text), after) := by
  cases result with
  | error reason =>
    cases refused
    exact comesOut.refused fault rfl
  | ok database => cases refused

/-- An operation that is answered exactly on a condition, and refused for a name otherwise. -/
structure AnswersIf (condition : Prop) (operation : Operation PUnit) (store : Store) : Prop where
  answers : (operation.apply store).1 = .ok ⟨⟩ ↔ condition
  refuses : ¬ condition → ∃ fault text, Fault.isNaming fault = true ∧
    (operation.apply store).1 = .error (.engine fault text)

/-- What is answered on a condition is answered on every condition that is the same. -/
theorem AnswersIf.congr {condition other : Prop} {operation : Operation PUnit}
    (answers : AnswersIf condition operation store) (same : condition ↔ other) :
    AnswersIf other operation store :=
  ⟨answers.answers.trans same, fun fails => answers.refuses (mt same.mp fails)⟩

/-- What a result hangs on, the answer hangs on. -/
theorem ComesOutAs.answers_if {operation : Operation PUnit} {result : Except Fault Database}
    {condition : Prop} {Reached : Database → Prop} (comesOut : operation.ComesOutAs store result)
    (made : IsMadeIf condition Reached result) : AnswersIf condition operation store := by
  cases made with
  | made holds reached =>
    obtain ⟨after, answered, -, -⟩ := comesOut.answered _ rfl
    exact ⟨iff_of_true (by rw [answered]) holds, fun fails => absurd holds fails⟩
  | refused fails naming =>
    obtain ⟨text, after, refused⟩ := comesOut.refused _ rfl
    exact ⟨iff_of_false (by rw [refused]; nofun) fails, fun _ => ⟨_, text, naming, by rw [refused]⟩⟩

/-- A statement of a table comes out as it does in the database that the store shows. -/
theorem creation_comes_out (undisturbed : store.IsUndisturbed) {table : Table}
    {statement : Statement Stored} (faultless : table.fault? = none)
    (among : statement ∈ table.creationStatements) :
    ComesOutAs (creation (table, statement)) store (making store.visible statement) := by
  have called : (creating table statement).apply store = (executing statement).apply store := by
    rw [creating, faultless, Option.isNone_none, if_pos rfl]
  obtain ⟨connection, opened, alone⟩ := undisturbed.alone
  rw [Store.visible_of_connection opened]
  obtain ⟨refused, answered⟩ := alone.run_creation among
  rcases on_connection_cases statement.render statement.endsTransaction
    (fun access => Access.counted (access.run statement)) store with
    ⟨closed, -⟩ | ⟨connection', opened', ⟨outage, strikes, -⟩ | ⟨execution, -, ran⟩⟩
  · cases closed.symm.trans opened
  · cases undisturbed.quiet.symm.trans strikes
  · cases opened.symm.trans opened'
    have whole : (creation (table, statement)).apply store =
        ((Access.counted ((⟨connection, store.host.disk⟩ : Access).run statement)).answer.mapError
          (fun fault => StoreError.engine fault statement.render) |>.map fun _ => ⟨⟩,
        store.used ((⟨connection, store.host.disk⟩ : Access).run statement).access execution) := by
      rw [creation, apply_bind, called, executing, ran, counted_access]
      cases (Access.counted ((⟨connection, store.host.disk⟩ : Access).run statement)).answer <;> rfl
    constructor
    · intro database made
      obtain ⟨answer, stillAlone, visible⟩ := answered database made
      refine ⟨_, ?_, undisturbed.used stillAlone execution, ?_⟩
      · rw [whole]
        simp only [Access.counted, answer]
        rfl
      · rw [Store.used_visible, visible]
    · intro fault isRefused
      refine ⟨statement.render, store.used ⟨connection, store.host.disk⟩ execution, ?_⟩
      rw [whole, refused fault isRefused]
      rfl

/-- So do statements one after the other. -/
theorem creations_come_out {creations : List (Table × Statement Stored)}
    (undisturbed : store.IsUndisturbed)
    (fit : ∀ entry ∈ creations, entry.1.fault? = none ∧ entry.2 ∈ entry.1.creationStatements) :
    ComesOutAs (creations.forM creation) store
      ((creations.map Prod.snd).foldlM making store.visible) := by
  induction creations generalizing store with
  | nil =>
    refine ⟨fun database same => ?_, nofun⟩
    cases same
    exact ⟨store, rfl, undisturbed, rfl⟩
  | cons first rest inductionHypothesis =>
    obtain ⟨faultless, among⟩ := fit first List.mem_cons_self
    have head := creation_comes_out undisturbed faultless among
    rw [List.map_cons, List.foldlM_cons]
    cases made : making store.visible first.2 with
    | error fault =>
      obtain ⟨text, after, refused⟩ := head.refused fault made
      refine ⟨nofun, fun other same => ?_⟩
      cases same
      refine ⟨text, after, ?_⟩
      rw [List.forM_eq_forM, List.forM_cons, apply_bind,
        show (creation first).apply store = _ from refused]
    | ok middle =>
      obtain ⟨next, answered, nextUndisturbed, visible⟩ := head.answered middle made
      have onward : ((first :: rest).forM creation).apply store =
        (rest.forM creation).apply next := by
        rw [List.forM_eq_forM, List.forM_cons, apply_bind,
          show (creation first).apply store = _ from answered]
      have tail := inductionHypothesis nextUndisturbed
        fun entry later => fit entry (List.mem_cons_of_mem first later)
      rw [visible] at tail
      constructor
      · intro database isMade
        rw [onward]
        exact tail.answered database isMade
      · intro fault isRefused
        rw [onward]
        exact tail.refused fault isRefused

/-! ### The creation of a schema -/

/-- A transaction begins where nothing disturbs it. -/
theorem begin_undisturbed (idle : store.IsIdle) (undisturbed : store.IsUndisturbed) :
    ∃ opened, begin.apply store = (.ok (), opened) ∧ opened.IsUndisturbed := by
  obtain ⟨connection, opened, alone⟩ := undisturbed.alone
  obtain ⟨connection', opened', isIdle⟩ := idle.idle
  cases opened.symm.trans opened'
  have begun := ((⟨connection, store.host.disk⟩ : Access).run_begin_idle isIdle).1
  have started := begin_unflagged opened idle.unflagged
  rcases answering_cases (.begin .deferred) opened with ⟨outage, strikes, -⟩ | ⟨execution, -, ran⟩
  · cases undisturbed.quiet.symm.trans strikes
  · rw [ran, begun] at started
    refine ⟨_, started, ?_⟩
    have stillAlone : ((⟨connection, store.host.disk⟩ : Access).run
        (.begin .deferred)).access.IsAlone := by
      have none : connection.transaction = none := by simpa [Connection.isIdle] using isIdle
      change ((⟨connection, store.host.disk⟩ : Access).runBegin .deferred).access.IsAlone
      simp only [Access.runBegin, Access.forMode, Access.opened, none, isIdle, if_true]
      exact alone
    have kept := undisturbed.used stillAlone execution
    exact ⟨kept.calm, kept.alone⟩

/-- A transaction commits where nothing disturbs it. -/
theorem commit_undisturbed (inside : store.IsInside base) (undisturbed : store.IsUndisturbed) :
    ∃ after, commit.apply store = (.ok (), after) ∧ after.IsUndisturbed := by
  obtain ⟨connection, opened, alone⟩ := undisturbed.alone
  obtain ⟨left, kept, ended⟩ := ending_flagged .commit opened inside.flagged
  have busy : connection.isIdle = false := by
    simpa [Driver.engineInTransaction, opened] using inside.busy
  rcases answering_cases .commit opened with ⟨outage, strikes, -⟩ | ⟨execution, -, ran⟩
  · cases undisturbed.quiet.symm.trans strikes
  · obtain ⟨answer, stillAlone⟩ := alone.run_commit busy
    rw [ran, answer] at ended
    refine ⟨_, ended, ?_⟩
    have used := undisturbed.used stillAlone execution
    exact ⟨used.calm, used.alone⟩

/-- The creation of a schema in an idle store comes out as its statements do in the database that
the store shows. -/
theorem create_database_comes_out {schema : Schema} (idle : store.IsIdle)
    (undisturbed : store.IsUndisturbed) (faultless : ∀ table ∈ schema.tables, table.fault? = none) :
    ComesOutAs (createDatabase schema) store
      ((schema.tables.flatMap Table.creationStatements).foldlM making store.visible) := by
  have statements : schema.creations.map Prod.snd =
      schema.tables.flatMap Table.creationStatements := by
    simp [Schema.creations, List.map_flatMap, Function.comp_def]
  obtain ⟨opened, begun, openedUndisturbed⟩ := begin_undisturbed idle undisturbed
  obtain ⟨inside, seen⟩ := begin_is_inside idle begun
  have fit : ∀ entry ∈ schema.creations,
      entry.1.fault? = none ∧ entry.2 ∈ entry.1.creationStatements := by
    intro entry member
    obtain ⟨listed, among⟩ := Schema.mem_creations member
    exact ⟨faultless entry.1 listed, among⟩
  have comesOut := creations_come_out openedUndisturbed fit
  rw [statements, seen] at comesOut
  have whole : Operation.apply (createDatabase schema : Operation Unit) store = _ :=
    create_database_in_own_transaction schema (pure ()) store
  rw [apply_in_own_transaction, begun] at whole
  simp only [populate_is_inside inside] at whole
  constructor
  · intro database made
    obtain ⟨created, answered, createdUndisturbed, visible⟩ := comesOut.answered database made
    have createdInside := creations_is_inside schema (List.Subset.refl _) opened inside
    rw [answered] at createdInside
    obtain ⟨after, committed, afterUndisturbed⟩ :=
      commit_undisturbed createdInside createdUndisturbed
    rw [answered] at whole
    simp only [apply_pure, committed] at whole
    exact ⟨after, whole, afterUndisturbed, (commit_visible committed).2.trans visible⟩
  · intro fault isRefused
    obtain ⟨text, failed, refused⟩ := comesOut.refused fault isRefused
    rw [refused] at whole
    exact ⟨text, _, whole⟩

/-- In a store that shows no objects a schema is created exactly if each of its tables can be
created by itself and all names that they take are told apart. -/
theorem create_database_answers_if {schema : Schema} (idle : store.IsIdle)
    (faultless : ∀ table ∈ schema.tables, table.fault? = none)
    (undisturbed : store.IsUndisturbed) (empty : store.visible.objects = []) :
    AnswersIf ((∀ table ∈ schema.tables, table.IsCreatable) ∧
      ToldApart (schema.tables.flatMap Table.createdNames)) (createDatabase schema) store :=
  (create_database_comes_out idle undisturbed faultless).answers_if
    (making_tables (fun table member => Table.is_admitted_of_fault? (faultless table member)) empty)

end Operation

end RecordStore
