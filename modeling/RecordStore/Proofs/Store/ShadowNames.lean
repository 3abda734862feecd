import RecordStore.Proofs.Store.TableNames

/-!
# Names of full-text tables

The full-text table of a table takes a name that nobody declared, and five more for its parts. A
schema sees to it that the first one is no name of a declared table, and leaves the others to
chance. For tables that the engine tells apart there are two ways in which their names can meet: a
table is declared under a name that a full-text table takes, or two searched tables are named so
that one of them has the name of the other with the ending of a part.
-/

namespace RecordStore

open Engine Sql

/-- A table whose full-text table has room beside other tables: none of them has a name that it
takes, and none that has a full-text table of its own is named like the table with the ending of a
part. -/
structure Table.HasRoomAmong (table : Table) (tables : List Table) : Prop where
  declared : ∀ other ∈ tables, ∀ name ∈ table.shadowNames, sameName other.name name = false
  parts : ∀ other ∈ tables, other.isAnalyzed = true → ∀ suffix ∈ partSuffixes,
    sameName other.name (table.name ++ suffix) = false

namespace Engine

variable {tables : List Table} {left right : Table}

/-- Behind the start of its name a full-text table and the parts of another are told apart by what
the tables are named. -/
theorem same_name_shadow_part (left right : Table) (suffix : String) :
    sameName left.shadowName (right.shadowName ++ suffix) =
      sameName left.name (right.name ++ suffix) := by
  rw [Table.shadowName, Table.shadowName, String.append_assoc, same_name_prefixed]

/-- Full-text tables with names of their own share no name of a part if neither is named like a part
of the other. -/
theorem shadow_names_apart (names : sameName left.name right.name = false)
    (leftParts : ∀ suffix ∈ partSuffixes, sameName right.name (left.name ++ suffix) = false)
    (rightParts : ∀ suffix ∈ partSuffixes, sameName left.name (right.name ++ suffix) = false) :
    ∀ leftName ∈ left.shadowNames, ∀ rightName ∈ right.shadowNames,
      sameName leftName rightName = false := by
  intro leftName isLeft rightName isRight
  have shadows : sameName left.shadowName right.shadowName = false := by
    rw [Table.shadowName, Table.shadowName, same_name_prefixed]
    exact names
  rcases Table.mem_shadow_names.mp isLeft with rfl | ⟨suffix, among, rfl⟩
  · rcases Table.mem_shadow_names.mp isRight with rfl | ⟨suffix, among, rfl⟩
    · exact shadows
    · rw [same_name_shadow_part]
      exact rightParts suffix among
  · rcases Table.mem_shadow_names.mp isRight with rfl | ⟨other, otherAmong, rfl⟩
    · rw [same_name_comm, same_name_shadow_part]
      exact leftParts suffix among
    · by_contra same
      have both := (part_suffixes_end_apart.same_name among otherAmong).mp
        (eq_true_of_ne_false same)
      cases shadows.symm.trans both.2

/-- Where all names that tables take are told apart, two tables share none of theirs. Proof: the
pairs of a list come in one order, and either of the two tables can be the earlier one. -/
theorem created_names_of_ne (told : ToldApart (tables.flatMap Table.createdNames))
    (leftMember : left ∈ tables) (rightMember : right ∈ tables) (differs : left ≠ right) :
    ∀ leftName ∈ left.createdNames, ∀ rightName ∈ right.createdNames,
      sameName leftName rightName = false := by
  have symmetric : Std.Symm fun left right : Table => ∀ leftName ∈ left.createdNames,
      ∀ rightName ∈ right.createdNames, sameName leftName rightName = false := by
    constructor
    intro left right names rightName isRight leftName isLeft
    rw [same_name_comm]
    exact names leftName isLeft rightName isRight
  exact (List.pairwise_flatMap.mp told).2.forall leftMember rightMember differs

/-- Where all names that tables take are told apart each full-text table has room. -/
theorem has_room_among_of_told_apart (told : ToldApart (tables.flatMap Table.createdNames))
    {table : Table} (member : table ∈ tables) (analyzed : table.isAnalyzed = true) :
    table.HasRoomAmong tables := by
  have taken : ∀ name ∈ table.shadowNames, name ∈ table.createdNames := fun name isShadow =>
    Table.mem_created_names.mpr (.inr ⟨analyzed, isShadow⟩)
  constructor
  · intro other among name isShadow
    by_cases same : other = table
    · subst same
      rw [same_name_comm]
      exact shadow_names_other other name isShadow
    · exact created_names_of_ne told among member same other.name
        (Table.mem_created_names.mpr (.inl rfl)) name (taken name isShadow)
  · intro other among otherAnalyzed suffix inSuffixes
    by_cases same : other = table
    · subst same
      exact same_name_part_self other.name inSuffixes
    · have otherShadow : other.shadowName ∈ other.createdNames :=
        Table.mem_created_names.mpr (.inr ⟨otherAnalyzed, Table.mem_shadow_names.mpr (.inl rfl)⟩)
      have part : table.shadowName ++ suffix ∈ table.shadowNames :=
        Table.mem_shadow_names.mpr (.inr ⟨suffix, inSuffixes, rfl⟩)
      rw [← same_name_shadow_part]
      exact created_names_of_ne told among member same _ otherShadow _ (taken _ part)

/-- Tables that are told apart by their names take names that are told apart exactly if each
full-text table has room among them. -/
theorem created_names_told_apart_iff (apart : ToldApart (tables.map Table.name)) :
    ToldApart (tables.flatMap Table.createdNames) ↔
      ∀ table ∈ tables, table.isAnalyzed = true → table.HasRoomAmong tables := by
  constructor
  · intro told table member analyzed
    exact has_room_among_of_told_apart told member analyzed
  · intro room
    refine List.pairwise_flatMap.mpr ⟨fun table _ => created_names_apart table, ?_⟩
    refine (List.pairwise_map.mp apart).imp_of_mem fun {left right} isLeft isRight names => ?_
    intro leftName leftAmong rightName rightAmong
    rcases Table.mem_created_names.mp leftAmong with rfl | ⟨leftAnalyzed, leftShadow⟩
    · rcases Table.mem_created_names.mp rightAmong with rfl | ⟨rightAnalyzed, rightShadow⟩
      · exact names
      · exact (room right isRight rightAnalyzed).declared left isLeft rightName rightShadow
    · rcases Table.mem_created_names.mp rightAmong with rfl | ⟨rightAnalyzed, rightShadow⟩
      · rw [same_name_comm]
        exact (room left isLeft leftAnalyzed).declared right isRight leftName leftShadow
      · exact shadow_names_apart names
          ((room left isLeft leftAnalyzed).parts right isRight rightAnalyzed)
          ((room right isRight rightAnalyzed).parts left isLeft leftAnalyzed)
          leftName leftShadow rightName rightShadow

end Engine

/-- A schema lets no full-text table take the name of a declared table, letter by letter. Let the
engine tell the declared tables apart. Then all names that are taken, by the tables, by their
full-text tables and by the parts of these, are told apart exactly if each full-text table has room
among the declared tables; and in an idle store that shows no objects and that nothing disturbs, the
schema is created exactly if, moreover, the engine takes the names of the tables and of their
columns, and no full-text table is to carry a column under a name that is kept for columns there, or
under its own. Otherwise one of the statements is refused for a name.

Proof: the creation of a schema goes through exactly if each table can be created and all names that
are taken are told apart. Two names of full-text tables and their parts meet only in ways that come
down to the declared names. -/
theorem full_text_tables_need_room {tables : List Table} {schema : Schema}
    (accepted : Schema.ofTables tables = .ok schema)
    (apart : ToldApart (schema.tables.map Table.name)) :
    schema.tables = tables ∧
      (∀ table ∈ schema.tables, table.isAnalyzed = true →
        table.shadowName ∉ schema.tables.map Table.name) ∧
      (ToldApart (schema.tables.flatMap Table.createdNames) ↔
        ∀ table ∈ schema.tables, table.isAnalyzed = true → table.HasRoomAmong schema.tables) ∧
      ∀ store : Store, store.IsIdle → store.IsUndisturbed → store.visible.objects = [] →
        Operation.AnswersIf
          (schema.IsNameable ∧ ∀ table ∈ schema.tables, table.isAnalyzed = true →
            table.IsCarriable ∧ table.HasRoomAmong schema.tables)
          (Operation.createDatabase schema) store := by
  have faultless := Schema.of_tables_fault? accepted
  have room := created_names_told_apart_iff apart
  refine ⟨Schema.of_tables_tables accepted, (Schema.of_tables_names accepted).2.2, room, ?_⟩
  intro store idle undisturbed empty
  refine (Operation.create_database_answers_if idle faultless undisturbed empty).congr ?_
  rw [room, Schema.is_nameable_iff]
  constructor
  · rintro ⟨creatable, hasRoom⟩
    exact ⟨⟨fun table member => (creatable table member).toIsNameable, apart⟩,
      fun table member analyzed =>
        ⟨(creatable table member).carriable analyzed, hasRoom table member analyzed⟩⟩
  · rintro ⟨⟨nameable, -⟩, searched⟩
    exact ⟨fun table member => ⟨nameable table member, fun analyzed =>
        (searched table member analyzed).1⟩,
      fun table member analyzed => (searched table member analyzed).2⟩

/-! ### Labels for searched texts -/

namespace Labels

/-- A table of texts that are searched, by their keys. -/
def searched (name key : String) : Table :=
  ⟨name, [{ name := key, type := .string, primaryKey := true },
    { name := "body", type := .string, analyzed := true }]⟩

/-- Searched documents and searched notes. -/
def library : Schema := ⟨[searched "doc" "id", searched "note" "id"]⟩

/-- Searched documents, and a table with the name of a part of their full-text table. -/
def crowded : Schema := ⟨[searched "doc" "id", texts "fts_doc_data"]⟩

/-- Searched documents whose key has a name that no column of a full-text table can have. -/
def ranked : Schema := ⟨[searched "doc" "rank"]⟩

/-- All three are schemas. -/
theorem accepted :
    ∀ schema ∈ [library, crowded, ranked], Schema.ofTables schema.tables = .ok schema := by
  have declares : ∀ schema ∈ [library, crowded, ranked],
      Schema.declarationFault? [] schema.tables = none ∧
        Schema.collision? (schema.tables.map Table.name) schema.tables = none := by
    decide +kernel
  intro schema member
  exact Schema.of_tables_ok (declares schema member).1 (declares schema member).2

/-- The engine takes the names of the library. -/
theorem library_is_nameable : library.IsNameable where
  plain := by decide +kernel
  tables := List.pairwise_pair.mpr (by decide +kernel)
  columns := List.forall_mem_cons.mpr ⟨List.pairwise_pair.mpr (by decide +kernel),
    List.forall_mem_singleton.mpr (List.pairwise_pair.mpr (by decide +kernel))⟩

end Labels

open Labels in
/-- Documents and notes are searched beside each other. -/
theorem documents_and_notes_have_room :
    Schema.ofTables library.tables = .ok library ∧ ToldApart (library.tables.map Table.name) ∧
      (Operation.apply (Operation.createDatabase library : Operation Unit) connected).1 =
        .ok () := by
  have isAccepted := accepted library (by simp)
  obtain ⟨-, -, -, decided⟩ := full_text_tables_need_room isAccepted library_is_nameable.tables
  refine ⟨isAccepted, library_is_nameable.tables,
    (decided connected connected_is_idle connected_is_undisturbed rfl).answers.mpr
      ⟨library_is_nameable, fun table member _ => ⟨⟨?_, ?_⟩, ⟨?_, ?_⟩⟩⟩⟩
  all_goals revert table
  all_goals decide +kernel

open Labels in
/-- A part of a full-text table can meet a declared table, and a carried column a name that is
kept for columns. The schema holds these tables, which the engine tells apart, and does not create
them. -/
theorem documents_have_no_room :
    (Schema.ofTables crowded.tables = .ok crowded ∧ ToldApart (crowded.tables.map Table.name) ∧
      ¬ ToldApart (crowded.tables.flatMap Table.createdNames) ∧
      ∃ text after, Operation.apply (Operation.createDatabase crowded : Operation Unit) connected =
        (.error (.engine (.tableExists "fts_doc_data") text), after)) ∧
    (Schema.ofTables ranked.tables = .ok ranked ∧ ToldApart (ranked.tables.map Table.name) ∧
      "rank" ∈ (searched "doc" "rank").carriedColumns ∧
      ∃ text after, Operation.apply (Operation.createDatabase ranked : Operation Unit) connected =
        (.error (.engine (.reservedFullTextColumn "rank") text), after)) := by
  have named : ToldApart (crowded.tables.map Table.name) :=
    List.pairwise_pair.mpr (by decide +kernel)
  have crowdedAccepted := accepted crowded (by simp)
  have rankedAccepted := accepted ranked (by simp)
  refine ⟨⟨crowdedAccepted, named, ?_, ?_⟩, rankedAccepted, List.pairwise_singleton _ _,
    by decide +kernel, ?_⟩
  · intro told
    have room := (created_names_told_apart_iff named).mp told (searched "doc" "id")
      List.mem_cons_self (by decide +kernel)
    have apart := room.declared (texts "fts_doc_data") (by simp [crowded]) "fts_doc_data"
      (by decide +kernel)
    cases apart.symm.trans (same_name_refl "fts_doc_data")
  · exact (Operation.create_database_comes_out connected_is_idle connected_is_undisturbed
      (Schema.of_tables_fault? crowdedAccepted)).refused_of_map (by decide +kernel)
  · exact (Operation.create_database_comes_out connected_is_idle connected_is_undisturbed
      (Schema.of_tables_fault? rankedAccepted)).refused_of_map (by decide +kernel)

end RecordStore
