import RecordStore.Proofs.Store.AddedEntities
import RecordStore.Proofs.Store.OneRow
import RecordStore.Proofs.Store.RowMapping

/-!
# Rows that are written over

An update goes about the row that has the key of the entity as the entity was given. What the row
has in its key stays, and so does what the entity holds there, for the columns of the key are
neither assigned nor drawn. All other columns of the row are assigned, and no other row is touched.
Where no row has the key, nothing happens, and that is what the update answers.

Triggers follow the row. Those that change the table itself are left out here, as everywhere where
rows of a table are said to stay.
-/

namespace RecordStore

open Engine Sql

variable {model : Model}

/-! ### The row that takes the place -/

/-- What an entity gives to a column in an update: what the generator of the column gives when each
generator of the columns outside of the key is asked once, or else what the entity holds. -/
def Entity.GivesTo (entity : Entity model) (table : Table) (count : Nat) (column : Column)
    (value : Value) : Prop :=
  match column.generator with
  | some _ => (column, value) ∈ (Column.asked (rowColumns table true) count).1
  | none => value = entity.get column.name

/-- A row that an entity wrote over another one: its number and its key are those of the other row,
and each other column has stored what the entity gave. -/
structure Entity.WritesOver (entity : Entity model) (table : Table) (count : Nat) (old new : Row) :
    Prop where
  number : new.number = old.number
  key : ∀ column ∈ table.primaryKey,
    table.valueOf new.values column = table.valueOf old.values column
  rest : ∀ column ∈ table.columns, column.primaryKey = false → ∃ value,
    entity.GivesTo table count column value ∧
      table.valueOf new.values column.name = column.type.affinity.store value.encoded

namespace Entity

variable {entity : Entity model} {table : Table} {count : Nat} {column : Column}
  {row : List (String × Stored)}

/-- The columns of an update are those outside of the key. -/
theorem mem_row_columns (admitted : table.IsAdmitted) :
    column ∈ rowColumns table true ↔ column ∈ table.columns ∧ column.primaryKey = false := by
  unfold rowColumns
  rw [List.mem_filter]
  refine and_congr_right fun inTable => ?_
  have numbered := ((admitted.columns column inTable).numbered)
  cases auto : column.autoincrement with
  | false => simp
  | true => simp [(numbered auto).2]

/-- The row of an update has an entry for each column outside of the key, with what the entity gives
to it. -/
theorem row_gives (admitted : table.IsAdmitted) (distinct : table.columnNames.Nodup)
    (drawn : (entity.row table true count).outcome = .ok row) (inTable : column ∈ table.columns)
    (outside : column.primaryKey = false) : ∃ value,
      entity.GivesTo table count column value ∧ (column.name, value.stored) ∈ row := by
  obtain ⟨values, isDrawn, -, rfl⟩ := row_is_drawn drawn
  obtain ⟨value, member⟩ := exists_drawn isDrawn.columns_eq
    ((mem_row_columns admitted).mpr ⟨inTable, outside⟩)
  refine ⟨value, ?_, List.mem_map.mpr ⟨_, member, rfl⟩⟩
  unfold GivesTo
  split
  · rename_i generator generates
    exact isDrawn.generated member fun none => by cases none.symm.trans generates
  · rename_i plain
    exact isDrawn.held (distinct.sublist (List.filter_sublist.map Column.name)) member plain

/-- The row that is made of another one by putting what an entity writes over its values is written
over it by the entity. Proof: nothing is drawn for the key, so what is put over the values leaves
it. -/
theorem writes_over {database : Database} {relation : Relation} {old new : Row}
    (admitted : table.IsAdmitted) (keyed : table.primaryKey ≠ [])
    (kept : table.IsKeptIn database relation) (member : old ∈ relation.rows)
    (drawn : (entity.row table true count).outcome = .ok row)
    (changed : renumbered relation old (Table.overlaid relation.attributes
      (row.map fun entry => (entry.1, entry.2.bound)) old.values) = .ok new) :
    entity.WritesOver table count old new := by
  have full := (kept.rows old member).full
  have lengths := (replace_all_length relation.attributes
    (row.map fun entry => (entry.1, entry.2.bound)) old.values).trans full
  have left : ∀ column ∈ table.primaryKey, Relation.valueIn relation.attributes
      (Table.overlaid relation.attributes (row.map fun entry =>
        (entry.1, entry.2.bound)) old.values)
      column = relation.value old column := by
    intro name inKey
    obtain ⟨column, inTable, isKey, rfl⟩ := Table.mem_primary_key.mp inKey
    exact value_in_replace_all_other
      (bound_spares kept.apart drawn inTable (by simp [rowColumns, isKey])) old.values
  refine ⟨kept.renumbered_number lengths changed member keyed left, fun name inKey => ?_,
    fun column inTable outside => ?_⟩
  · obtain ⟨column, inTable, -, rfl⟩ := Table.mem_primary_key.mp inKey
    exact kept.renumbered_same lengths changed member inTable (left _ inKey)
  · obtain ⟨value, gives, inRow⟩ := row_gives admitted kept.distinct drawn inTable outside
    obtain ⟨attr, means, -, -⟩ := kept.meant? inTable
    refine ⟨value, gives, ?_⟩
    rw [kept.renumbered_value lengths changed inTable]
    refine congrArg _ ?_
    exact value_in_replace_all (bound_apart kept.apart drawn) full
      (List.mem_map.mpr ⟨_, inRow, rfl⟩) means

end Entity

/-! ### Updates -/

/-- Criteria whose conditions compile compile to one condition, for they are not empty. -/
theorem Criteria.condition_of_stated {criteria : Criteria} {table : Table}
    {conditions : List Condition}
    (stated : statedConditions (some criteria) none table none = .ok conditions) (action : String) :
    ∃ condition, criteria.condition table action = .ok condition := by
  have someCondition : conditions ≠ [] := by
    obtain ⟨confined, -, rest⟩ := bind_ok stated
    obtain ⟨asked, compiled, joined⟩ := bind_ok rest
    cases joined
    unfold Criteria.conditions at compiled
    split at compiled
    · cases compiled
    · rename_i nonempty
      intro none
      obtain ⟨-, rfl⟩ := List.append_eq_nil_iff.mp none
      have lengths := (map_m_ok compiled).length_eq
      simp [Criteria.isEmpty, List.length_eq_zero_iff.mp lengths] at nonempty
  have states : statedCondition? (some criteria) none table none =
      .ok (Expression.conjunction? conditions) := by
    rw [stated_condition?_eq, stated]
    rfl
  unfold Criteria.condition
  rw [states]
  cases conditions with
  | nil => exact absurd rfl someCondition
  | cons first rest => cases rest <;> exact ⟨_, rfl⟩

namespace Store

variable {handle : Handle model} {entity : Entity model} {store : Store} {criteria : Criteria}
  {row : List (String × Stored)} {condition : Condition}

/-- An update changes in the entity only what the generators of columns outside of the key give. -/
theorem update_leaves (handle : Handle model) (entity : Entity model) (store : Store)
    {name : String}
    (others : ∀ column ∈ Entity.rowColumns handle.table true, column.generator ≠ none →
      column.name ≠ name) :
    (store.update handle entity).1.entity.get name = entity.get name := by
  rcases store.update_cases handle entity with
    ⟨_, -, ended⟩ | ⟨_, -, ⟨_, -, ended⟩ | ⟨_, _, _, -, -, ended⟩⟩
  · rw [ended]
  · rw [ended]
    exact entity.row_leaves handle.table true store.host.count others
  · rw [ended]
    exact entity.row_leaves handle.table true store.host.count others

end Store

/-- A change that is not answered was not let through by the driver or by the engine. -/
theorem Operation.executing_problem {change : Change Stored} {store after : Store}
    {problem : StoreError}
    (failed : (executing (.change change)).apply store = (.error problem, after)) :
    problem = notConnected ∨ ∃ fault statement, problem = .engine fault statement := by
  rcases on_connection_error failed with ⟨closed, -⟩ | ⟨connection, fault, -, which, -⟩
  · exact .inl closed
  · exact .inr ⟨fault, _, which⟩

namespace Table

variable {handle : Handle model} {entity : Entity model} {store : Store} {relation : Relation}

/-- The key of an entity that has one is null nowhere. -/
theorem not_names_null {table : Table} (present : entity.HasKey table) :
    ¬ (entity.key table).NamesNull table := by
  rintro ⟨column, -, alone, -, -, null⟩
  have given : (entity.key table).value column.name = entity.get column.name := by
    unfold Entity.key
    rw [alone]
    rfl
  have held := present column.name (by simp [alone])
  rw [← given, null] at held
  cases held

/-- What an update comes to for which a row with columns is drawn. The driver or the engine does not
let it through; or no row has the key of the entity, and all stays as it is; or one row has the key,
and a row that the entity writes over it takes its place. Proof: the criteria of a key compile, so
nothing but the driver and the engine can refuse. -/
theorem IsSoundIn.update_cases (held : handle.table.IsSoundIn store.visible relation)
    (faultless : handle.table.fault? = none) (keyed : handle.table.primaryKey ≠ [])
    (present : entity.HasKey handle.table) {row : List (String × Stored)}
    (drawn : (entity.row handle.table true store.host.count).outcome = .ok row)
    (written : row ≠ []) :
    let keepers := relation.rows.filter fun row => handle.table.hasKeyOf entity row.values
    let outcome := (store.update handle entity).1.outcome
    let after := (store.update handle entity).2
    (outcome = .error Operation.notConnected ∨
      ∃ fault statement, outcome = .error (.engine fault statement)) ∨
    (outcome = .error .unaffectedRows ∧ keepers = [] ∧ after.visible = store.visible) ∨
    ∃ change effect old new, outcome = .ok () ∧ keepers = [old] ∧
      entity.WritesOver handle.table store.host.count old new ∧
      tableOf change = handle.table.name ∧ store.visible.change change = .ok effect ∧
      after.visible = effect.database ∧
      handle.table.IsSoundIn after.visible ((relation.drop old).put new) := by
  intro keepers outcome after
  have admitted := is_admitted_of_fault? faultless
  obtain ⟨conditions, accepts, stated, met⟩ :=
    handle.table.key_compiles admitted held.apart keyed present
  rcases Operation.overwrite_cases handle.table _ row
    (store.withCount (entity.row handle.table true store.host.count).count) with
    ⟨empty | ⟨problem, refused⟩, -⟩ | ⟨condition, result, last, compiled, ran, comes⟩
  · exact absurd empty written
  · obtain ⟨condition, compiled⟩ := Criteria.condition_of_stated stated "update"
    cases compiled.symm.trans refused
  · have update := Store.update_drawn accepts drawn comes
    have outcomeIs : outcome = result.bind fun count =>
        if count = 0 then .error .unaffectedRows else .ok () :=
      congrArg (fun updated => updated.1.outcome) update
    have afterIs : after = last := congrArg Prod.snd update
    cases result with
    | error problem =>
      rcases Operation.executing_problem ran with rfl | ⟨fault, statement, rfl⟩
      · exact .inl (.inl outcomeIs)
      · exact .inl (.inr ⟨fault, statement, outcomeIs⟩)
    | ok count =>
      obtain ⟨effect, done, rfl, seen⟩ := Operation.executing_ok ran
      rw [modification_bound] at done
      have targets : handle.table.rowsUnder relation (condition.mapOperands Stored.bound) =
        keepers := by
        rw [held.is_read_in.rows_under_criteria faultless compiled]
        exact List.filter_congr fun row _ => met row.values
      rcases held.modifies_one (held.few_under faultless accepts (not_names_null present) compiled)
        done with ⟨none, rfl⟩ | ⟨old, among, one, changed, new, renumbered, heldNow⟩
      · exact .inr (.inl ⟨outcomeIs, targets.symm.trans none, afterIs ▸ seen⟩)
      · refine .inr (.inr ⟨_, effect, old, new, ?_, targets.symm.trans one,
          Entity.writes_over admitted keyed held.toIsKeptIn among drawn renumbered, rfl, done,
          afterIs ▸ seen, ?_⟩)
        · rw [outcomeIs, changed]
          rfl
        · rw [afterIs, seen]
          exact heldNow

end Table

namespace Store

variable {handle : Handle model} {entity : Entity model} {store : Store} {relation : Relation}

/-- An update draws no column of the key, so what the entity holds in its key stays. -/
theorem update_key (admitted : handle.table.IsAdmitted) (apart : ToldApart handle.table.columnNames)
    {name : String} (inKey : name ∈ handle.table.primaryKey) :
    (store.update handle entity).1.entity.get name = entity.get name := by
  refine store.update_leaves handle entity fun column visited _ named => ?_
  obtain ⟨inTable, outside⟩ := (Entity.mem_row_columns admitted).mp visited
  obtain ⟨key, keyInTable, isKey, keyName⟩ := Table.mem_primary_key.mp inKey
  have same := Table.column_eq_of_name apart inTable keyInTable (named.trans keyName.symm)
  rw [same, isKey] at outside
  cases outside

/-- An update that is answered has drawn a row with columns. -/
theorem update_draws (held : handle.table.IsSoundIn store.visible relation)
    (faultless : handle.table.fault? = none) (keyed : handle.table.primaryKey ≠ [])
    (present : entity.HasKey handle.table)
    (answered : (store.update handle entity).1.outcome = .ok ()) :
    ∃ row, (entity.row handle.table true store.host.count).outcome = .ok row ∧ row ≠ [] := by
  obtain ⟨-, accepts, -⟩ := handle.table.key_compiles (Table.is_admitted_of_fault? faultless)
    held.apart keyed present
  have update : store.update handle entity =
      (⟨(store.update handle entity).1.entity, .ok ()⟩, (store.update handle entity).2) := by
    rw [← answered]
  obtain ⟨row, before, drawn, -, overwritten⟩ := Store.update_ok accepts update
  refine ⟨row, drawn, ?_⟩
  rintro rfl
  cases overwritten

end Store

/-- An update writes exactly one row, of a table of a schema whose rows stand apart and are changed
by no trigger, for an entity that has a key. What the entity holds in its key stays, whatever
becomes of the update. When the update is answered, one row had the key of the entity, and a row
that the entity writes over it stands in its place; all other rows stay, and so does every table
that no trigger changes. When a row with columns is drawn and the driver and the engine let the
update through, no row being affected means that no row has the key, and then nothing has changed.

Proof: an update is refused, or no row has the key, or one row has it, since rows stand apart; these
are the cases. In the last one the row that is put in is the drawn one over the old one, and the
change is about no other table. -/
theorem update_writes_one_row {tables : List Table} {schema : Schema} {handle : Handle model}
    {entity : Entity model} {store : Store} {relation : Relation}
    (accepted : Schema.ofTables tables = .ok schema) (member : handle.table ∈ schema.tables)
    (held : handle.table.IsSoundIn store.visible relation) (keyed : handle.table.primaryKey ≠ [])
    (present : entity.HasKey handle.table) :
    let keepers := relation.rows.filter fun row => handle.table.hasKeyOf entity row.values
    let saved := (store.update handle entity).1
    let after := (store.update handle entity).2
    (∀ column ∈ handle.table.primaryKey, saved.entity.get column = entity.get column) ∧
    (saved.outcome = .ok () → ∃ old new others, keepers = [old] ∧
      entity.WritesOver handle.table store.host.count old new ∧
      relation.rows.Perm (old :: others) ∧
      (∃ rows, rows.Perm (new :: others) ∧
        handle.table.IsSoundIn after.visible { relation with rows }) ∧
      ∀ name, sameName handle.table.name name = false → store.visible.Spares name →
        store.visible.AgreeOn [name] after.visible) ∧
    ∀ row, (entity.row handle.table true store.host.count).outcome = .ok row → row ≠ [] →
      saved.outcome ≠ .error Operation.notConnected →
      (∀ fault statement, saved.outcome ≠ .error (.engine fault statement)) →
      (saved.outcome = .error .unaffectedRows ↔ keepers = []) ∧
        (saved.outcome = .error .unaffectedRows → after.visible = store.visible) := by
  intro keepers saved after
  have faultless := Schema.of_tables_fault? accepted handle.table member
  refine ⟨fun name inKey => Store.update_key (Table.is_admitted_of_fault? faultless)
    held.apart inKey, fun answered => ?_, fun row drawn written connected engine => ?_⟩
  · obtain ⟨row, drawn, written⟩ := Store.update_draws held faultless keyed present answered
    rcases held.update_cases faultless keyed present drawn written with
      (refused | ⟨_, _, refused⟩) | ⟨refused, -⟩ |
        ⟨change, effect, old, new, -, one, writes, about, done, seen, heldNow⟩
    · cases answered.symm.trans refused
    · cases answered.symm.trans refused
    · cases answered.symm.trans refused
    · have among : old ∈ keepers := by
        rw [show keepers = [old] from one]
        exact List.mem_cons_self
      refine ⟨old, new, (relation.drop old).rows, one, writes,
        held.sound.drop_perm (List.mem_filter.mp among).1,
        ⟨_, (relation.drop old).put_rows new, heldNow⟩, fun name other spared => ?_⟩
      rw [show after.visible = effect.database from seen]
      refine Database.change_outside (fun table event _ => spared.outside table event) ?_ done
      intro kept inNames
      cases List.mem_singleton.mp inNames
      rw [about]
      exact other
  · rcases held.update_cases faultless keyed present drawn written with
      (refused | ⟨fault, statement, refused⟩) | ⟨unaffected, none, stays⟩ |
        ⟨_, _, old, _, answered, one, -⟩
    · exact absurd refused connected
    · exact absurd refused (engine fault statement)
    · exact ⟨⟨fun _ => none, fun _ => unaffected⟩, fun _ => stays⟩
    · refine ⟨⟨fun refused => ?_, fun none => ?_⟩, fun refused => ?_⟩
      · cases answered.symm.trans refused
      · cases (show keepers = [old] from one).symm.trans none
      · cases answered.symm.trans refused

/-! ### A workshop -/

namespace Workshop

/-- What a job is called. The generator names a job that is added. -/
def title : Column :=
  { name := "title", type := .string, primaryKey := true,
    generator := some (.constant (.text "new")) }

/-- The tool that a job waits for. -/
def tool : Column := { name := "tool", type := .string, nullable := true }

/-- When a job is done. It is counted, and counted again when the job changes. -/
def turn : Column := { name := "turn", type := .integer, generator := some .counter }

/-- A job with its title, its tool and its turn. -/
def jobModel : Model := ⟨"job", [⟨.text, title⟩, ⟨.text, tool⟩, ⟨.integer, turn⟩]⟩

/-- The handle of the jobs. -/
def handle : Handle jobModel := ⟨jobModel.table, rfl⟩

/-- The relation of the jobs when there are none. -/
def noJobs : Relation where
  name := "job"
  attributes := jobModel.table.attributes
  identity := .hidden
  uniques := [["title"]]
  rows := []
  text := ""

/-- Two jobs, each with the tool that it waits for and its turn. -/
def jobs : Relation :=
  { noJobs with rows :=
    [⟨1, [.text "chair", .text "saw", .integer 11]⟩,
      ⟨2, [.text "lock", .text "file", .integer 12]⟩] }

/-- A store over a memory with these objects, whose counting generators go on with twenty. -/
def workshop (objects : List Object) : Store :=
  ⟨{ config := {}, connection := some { number := 0, location := .memory 0 } },
    { disk := { volumes := [(.memory 0, { content := { objects } })] }, count := 20 }⟩

/-- The first job when it waits for another tool. -/
def changed : Entity jobModel :=
  ⟨[⟨⟨.text, title⟩, .text "chair", rfl⟩, ⟨⟨.text, tool⟩, .text "plane", rfl⟩,
    ⟨⟨.integer, turn⟩, .integer 11, rfl⟩], rfl⟩

/-- The rows of the jobs that a store shows. -/
def shown (store : Store) : Option (List Row) :=
  (store.visible.relation? "job").map Relation.rows

/-- The jobs are a table of a schema. -/
theorem accepted : Schema.ofTables [jobModel.table] = .ok ⟨[jobModel.table]⟩ :=
  Schema.of_tables_ok (by decide +kernel) (by decide +kernel)

/-- The workshop keeps the jobs soundly. -/
theorem jobs_sound : jobModel.table.IsSoundIn (workshop [.relation jobs]).visible jobs where
  found := by decide +kernel
  made := ⟨"", noJobs, by decide +kernel, rfl⟩
  rows := by
    have fits : ∀ row ∈ jobs.rows, row.values.length = jobs.attributes.length ∧
        ∀ attr ∈ jobs.attributes,
          attr.affinity.store (jobs.value row attr.name) = jobs.value row attr.name := by
      decide +kernel
    intro row member
    obtain ⟨full, stored⟩ := fits row member
    exact ⟨full, fun attr among => ⟨_, (stored attr among).symm⟩, fun _ _ shown => by cases shown⟩
  spared _ _ _ member := absurd member List.not_mem_nil
  sound := {
    complete := by decide +kernel
    apart := by
      refine List.pairwise_pair.mpr ⟨by decide +kernel, ?_⟩
      decide +kernel }

/-- The changed job has its title. -/
theorem changed_has_key : changed.HasKey handle.table := by
  have key : ∀ column ∈ handle.table.primaryKey, (changed.get column).isNull = false := by decide
  exact key

end Workshop

open Workshop in
/-- The job keeps its title, although a generator stands there, and gets the next turn. The other
job stays. -/
theorem update_writes_the_changed_job :
    let store := workshop [.relation jobs]
    let saved := (store.update handle changed).1
    let after := (store.update handle changed).2
    Schema.ofTables [jobModel.table] = .ok ⟨[jobModel.table]⟩ ∧
      handle.table.IsSoundIn store.visible jobs ∧ changed.HasKey handle.table ∧
      saved.outcome = .ok () ∧ saved.entity.get "title" = .text "chair" ∧
      (∃ old new others,
        (jobs.rows.filter fun row => handle.table.hasKeyOf changed row.values) = [old] ∧
        changed.WritesOver handle.table 20 old new ∧ jobs.rows.Perm (old :: others) ∧
        ∃ rows, rows.Perm (new :: others) ∧
          handle.table.IsSoundIn after.visible { jobs with rows }) ∧
      shown after = some [⟨1, [.text "chair", .text "plane", .integer 20]⟩,
        ⟨2, [.text "lock", .text "file", .integer 12]⟩] := by
  intro store saved after
  have answered : saved.outcome = .ok () := by decide +kernel
  obtain ⟨key, writes, -⟩ := update_writes_one_row accepted
    (show handle.table ∈ [jobModel.table] from List.mem_cons_self) jobs_sound (by decide +kernel)
      changed_has_key
  obtain ⟨old, new, others, one, written, perm, now, -⟩ := writes answered
  exact ⟨accepted, jobs_sound, changed_has_key, answered, key "title" (by decide +kernel),
    ⟨old, new, others, one, written, perm, now⟩, by decide +kernel⟩

namespace Workshop

/-- Whoever changes the first job takes the tool of the second one away. -/
def borrower : Trigger where
  name := "borrower"
  event := .modification
  table := "job"
  body := [.update {
    table := "job"
    assignments := [("tool", .operand .null)]
    conditions := some [.binary .equal (.column none "title") (.operand (.text "lock"))] }]
  text := ""

end Workshop

open Workshop in
/-- A trigger can change another row: then an update that is answered has changed two, although each
job has a title of its own. -/
theorem update_can_change_another_row :
    let store := workshop [.relation jobs, .trigger borrower]
    Schema.ofTables [jobModel.table] = .ok ⟨[jobModel.table]⟩ ∧ changed.HasKey handle.table ∧
      shown store = some jobs.rows ∧ (jobs.rows.map fun row => jobs.value row "title").Nodup ∧
      (store.update handle changed).1.outcome = .ok () ∧
      shown (store.update handle changed).2 = some
        [⟨1, [.text "chair", .text "plane", .integer 20]⟩,
          ⟨2, [.text "lock", .null, .integer 12]⟩] := by
  intro store
  exact ⟨accepted, changed_has_key, by decide +kernel⟩

end RecordStore
