import RecordStore.Proofs.Store.Undisturbed

/-!
# Names of tables and columns

A schema takes two names for the same if they are letter for letter, and the engine if they are but
for their case. So a schema can hold tables that the engine does not make beside each other. Which
these are is decided by the names alone: tables or columns that differ in the case of their names
only, and tables with names that the engine keeps for itself.
-/

namespace RecordStore

open Engine Sql

namespace Schema

/-- Whether the engine takes the names of the tables of a schema, and those of their columns. -/
structure IsNameable (schema : Schema) : Prop where
  plain : ∀ table ∈ schema.tables, isInternalName table.name = false
  tables : ToldApart (schema.tables.map Table.name)
  columns : ∀ table ∈ schema.tables, ToldApart table.columnNames

variable {tables : List Table} {schema : Schema}

/-- The names of a schema are taken exactly if those of each table are, and those of the tables are
told apart. -/
theorem is_nameable_iff : schema.IsNameable ↔
    (∀ table ∈ schema.tables, table.IsNameable) ∧ ToldApart (schema.tables.map Table.name) := by
  constructor
  · intro nameable
    exact ⟨fun table member => ⟨nameable.plain table member, nameable.columns table member⟩,
      nameable.tables⟩
  · rintro ⟨each, apart⟩
    exact ⟨fun table member => (each table member).plain, apart,
      fun table member => (each table member).apart⟩

/-- What a schema knows of its names. -/
structure KnowsNames (schema : Schema) : Prop where
  tables : (schema.tables.map Table.name).Nodup
  columns : ∀ table ∈ schema.tables, table.columnNames.Nodup
  identifiers : ∀ table ∈ schema.tables, isIdentifier table.name = true ∧
    ∀ name ∈ table.columnNames, isIdentifier name = true

/-- A schema that was accepted knows its names. -/
theorem of_tables_knows_names (accepted : ofTables tables = .ok schema) : schema.KnowsNames := by
  obtain ⟨tablesDiffer, columnsDiffer, -⟩ := of_tables_names accepted
  refine ⟨tablesDiffer, columnsDiffer, fun table member => ?_⟩
  have admitted := Table.is_admitted_of_fault? (of_tables_fault? accepted table member)
  refine ⟨admitted.identifier, fun name among => ?_⟩
  obtain ⟨column, inTable, rfl⟩ := List.mem_map.mp among
  exact (admitted.columns column inTable).identifier

end Schema

namespace Operation

variable {schema : Schema} {store : Store}

/-- Makes the relations of the tables of a schema, one after the other. -/
def createRelations (schema : Schema) : Operation PUnit :=
  schema.tables.forM fun table => creation (table, .createTable table.definition)

/-- They are made as in the database that the store shows. -/
theorem create_relations_comes_out (faultless : ∀ table ∈ schema.tables, table.fault? = none)
    (undisturbed : store.IsUndisturbed) :
    ComesOutAs (createRelations schema) store
      ((schema.tables.map fun table => Statement.createTable table.definition).foldlM making
        store.visible) := by
  let pairs : List (Table × Statement Stored) :=
    schema.tables.map fun table => (table, .createTable table.definition)
  have fit : ∀ entry ∈ pairs, entry.1.fault? = none ∧ entry.2 ∈ entry.1.creationStatements := by
    intro entry member
    obtain ⟨table, listed, rfl⟩ := List.mem_map.mp member
    exact ⟨faultless table listed, List.mem_cons_self⟩
  have statements : pairs.map Prod.snd =
      schema.tables.map fun table => Statement.createTable table.definition := by
    simp [pairs, Function.comp_def]
  have comesOut := creations_come_out undisturbed fit
  rw [statements, List.forM_eq_forM, List.forM_map] at comesOut
  exact comesOut

/-- The relations of a schema are made exactly if the engine takes its names. Proof: by induction on
the tables, each of them beside those that were made. -/
theorem create_relations_answers_if (faultless : ∀ table ∈ schema.tables, table.fault? = none)
    (undisturbed : store.IsUndisturbed) (empty : store.visible.objects = []) :
    AnswersIf schema.IsNameable (createRelations schema) store := by
  have admitted : ∀ table ∈ schema.tables, table.IsAdmitted := fun table member =>
    Table.is_admitted_of_fault? (faultless table member)
  exact (create_relations_comes_out faultless undisturbed).answers_if
    ((making_relations admitted empty).imp Schema.is_nameable_iff.symm fun _ _ lists => lists)

end Operation

/-- Where all names that tables take are told apart, so are the names of the tables. -/
theorem names_told_apart {tables : List Table}
    (apart : ToldApart (tables.flatMap Table.createdNames)) :
    ToldApart (tables.map Table.name) := by
  refine List.pairwise_map.mpr ((List.pairwise_flatMap.mp apart).2.imp fun names => ?_)
  exact names _ List.mem_cons_self _ List.mem_cons_self

/-- A schema holds no table twice and no column of a table twice, letter by letter, and its names
are identifiers. Nothing more is known of them, and the engine asks for more. In a store that shows
no objects and that nothing disturbs, the relations of the tables are made one after the other
exactly if no two tables, and no two columns of a table, have names that are the same but for their
case, and no table has a name that the engine keeps for itself. If it is otherwise then one of the
statements is refused for a name, and so is the creation of the whole schema.

Proof: by induction on the tables, each of them is made beside the earlier ones exactly if its names
are plain and free there; free beside all earlier ones means told apart in pairs. -/
theorem relations_need_names_apart {tables : List Table} {schema : Schema}
    (accepted : Schema.ofTables tables = .ok schema) :
    schema.tables = tables ∧ schema.KnowsNames ∧
      ∀ store : Store, store.IsUndisturbed → store.visible.objects = [] →
        Operation.AnswersIf schema.IsNameable (Operation.createRelations schema) store ∧
        (store.IsIdle → ¬ schema.IsNameable → ∃ fault text, Fault.isNaming fault = true ∧
          (Operation.apply (Operation.createDatabase schema : Operation Unit) store).1 =
            .error (.engine fault text)) := by
  have faultless := Schema.of_tables_fault? accepted
  refine ⟨Schema.of_tables_tables accepted, Schema.of_tables_knows_names accepted, ?_⟩
  intro store undisturbed empty
  refine ⟨Operation.create_relations_answers_if faultless undisturbed empty, ?_⟩
  intro idle unnameable
  refine (Operation.create_database_answers_if idle faultless undisturbed empty).refuses ?_
  rintro ⟨creatable, apart⟩
  have nameable : ∀ table ∈ schema.tables, table.IsNameable := fun table member =>
    (creatable table member).toIsNameable
  exact unnameable (Schema.is_nameable_iff.mpr ⟨nameable, names_told_apart apart⟩)

/-! ### A shelf with labels -/

namespace Labels

/-- A table of texts. -/
def texts (name : String) : Table := ⟨name, [{ name := "body", type := .string }]⟩

/-- A driver that has just been connected. -/
def connected : Store where
  driver := { config := {}, connection := some { number := 0, location := .memory 0 } }
  host := { disk := { connections := 1 } }

/-- Nothing disturbs the driver. -/
theorem connected_is_undisturbed : connected.IsUndisturbed := ⟨rfl, _, rfl, rfl⟩

/-- No transaction is open on it. -/
theorem connected_is_idle : connected.IsIdle := ⟨rfl, _, rfl, rfl⟩

end Labels

open Labels in
/-- The tables of documents and notes are told apart by their names, so they are made. -/
theorem documents_and_notes_are_made :
    Schema.ofTables [texts "doc", texts "note"] = .ok ⟨[texts "doc", texts "note"]⟩ ∧
      Schema.IsNameable ⟨[texts "doc", texts "note"]⟩ ∧
      ((Operation.createRelations ⟨[texts "doc", texts "note"]⟩).apply connected).1 = .ok ⟨⟩ := by
  have accepted : Schema.ofTables [texts "doc", texts "note"] =
      .ok ⟨[texts "doc", texts "note"]⟩ :=
    Schema.of_tables_ok (by decide +kernel) (by decide +kernel)
  have nameable : Schema.IsNameable ⟨[texts "doc", texts "note"]⟩ := by
    refine ⟨by decide +kernel, ?_, ?_⟩
    · exact List.pairwise_pair.mpr (by decide +kernel)
    · exact List.forall_mem_cons.mpr ⟨List.pairwise_singleton _ _,
        List.forall_mem_singleton.mpr (List.pairwise_singleton _ _)⟩
  obtain ⟨-, -, decided⟩ := relations_need_names_apart accepted
  exact ⟨accepted, nameable,
    (decided connected connected_is_undisturbed rfl).1.answers.mpr nameable⟩

open Labels in
/-- A schema can hold two tables whose names are the same but for their case, and then the engine
refuses one of them. -/
theorem documents_are_declared_twice :
    Schema.ofTables [texts "doc", texts "Doc"] = .ok ⟨[texts "doc", texts "Doc"]⟩ ∧
      sameName "doc" "Doc" = true ∧
      connected.IsIdle ∧ connected.IsUndisturbed ∧ connected.visible.objects = [] ∧
      (∃ fault text, Fault.isNaming fault = true ∧
        ((Operation.createRelations ⟨[texts "doc", texts "Doc"]⟩).apply connected).1 =
          .error (.engine fault text)) ∧
      ∃ fault text, Fault.isNaming fault = true ∧
        (Operation.apply (Operation.createDatabase ⟨[texts "doc", texts "Doc"]⟩ : Operation Unit)
          connected).1 = .error (.engine fault text) := by
  have accepted : Schema.ofTables [texts "doc", texts "Doc"] =
      .ok ⟨[texts "doc", texts "Doc"]⟩ :=
    Schema.of_tables_ok (by decide +kernel) (by decide +kernel)
  have faultless := Schema.of_tables_fault? accepted
  have same : sameName "doc" "Doc" = true := same_name_iff.mpr (by decide +kernel)
  have together : ¬ ToldApart (["doc", "Doc"] : List String) := fun apart =>
    Bool.false_ne_true ((List.pairwise_pair.mp apart).symm.trans same)
  have relations := Operation.create_relations_answers_if faultless connected_is_undisturbed rfl
  have database := Operation.create_database_answers_if connected_is_idle faultless
    connected_is_undisturbed rfl
  exact ⟨accepted, same, connected_is_idle, connected_is_undisturbed, rfl,
    relations.refuses fun nameable => together nameable.tables,
    database.refuses fun creatable => together (names_told_apart creatable.2)⟩

end RecordStore
