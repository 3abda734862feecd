import RecordStore.Proofs.Query.Keys
import RecordStore.Proofs.Query.Meaning
import RecordStore.Proofs.Store.Drafts
import RecordStore.Proofs.Store.KeptTables
import RecordStore.Proofs.Store.Tables

/-!
# Adding and finding again

An entity that was added is found under its key, with what it holds, a date cut to whole seconds.
The row that was put in carries the entity: each column has stored a value that its field takes as
what the entity holds. Of all rows it alone has the key of the entity, and from its values the
entity is loaded.
-/

namespace RecordStore

open Engine Sql

variable {model : Model}

/-! ### Rows that carry an entity -/

/-- Values that carry an entity: each column has stored a value that the field takes as what the
entity holds, and the bits of the key were given as zero or one. -/
def Table.Carries (table : Table) (values : List Stored) (entity : Entity model) : Prop :=
  ∀ column ∈ table.columns, ∃ given : Value,
    table.valueOf values column.name = column.type.affinity.store given.encoded ∧
    column.type.fieldType.convert given = .ok (entity.get column.name) ∧
    (column.primaryKey = true → column.type = .bit →
      given.stored = (entity.get column.name).stored)

/-- An entity that has a value in each key column of a table. -/
def Entity.HasKey (entity : Entity model) (table : Table) : Prop :=
  ∀ column ∈ table.primaryKey, (entity.get column).isNull = false

/-- An entity that holds no float that is not a number. -/
def Entity.IsDefined (entity : Entity model) : Prop :=
  ∀ column, (entity.get column).isNaN = false

namespace Table

variable {table : Table} {database : Database} {relation : Relation} {entity : Entity model}

/-- From values that carry an entity an entity is loaded that agrees with it. -/
theorem Carries.load {values : List Stored} (carries : table.Carries values entity)
    (distinct : table.columnNames.Nodup) (suits : model.Suits table)
    (full : table.columnNames.map (table.valueOf values) = values) (defined : entity.IsDefined) :
    ∃ found : Entity model, Entity.load table values = .ok found ∧
      ∀ column, (found.get column).agrees (entity.get column).inSeconds = true := by
  have pairs := Table.zip_columns full
  have returns : ∀ column ∈ table.columns, ∃ loaded,
      (table.valueOf values column.name).load column.type = .ok loaded ∧
        column.type.fieldType.convert loaded = .ok loaded ∧
        loaded.agrees (entity.get column.name).inSeconds = true := by
    intro column member
    obtain ⟨given, stands, taken, -⟩ := carries column member
    rw [stands]
    exact ColumnType.load_store taken (defined column.name)
  have lengths : values.length = table.columns.length := by
    rw [← full, List.length_map, columnNames, List.length_map]
  obtain ⟨found, loads, holds⟩ := Entity.load_ok distinct suits lengths fun pair member => by
    rw [pairs] at member
    obtain ⟨column, among, rfl⟩ := List.mem_map.mp member
    obtain ⟨loaded, read, taken, -⟩ := returns column among
    exact ⟨loaded, read, taken⟩
  refine ⟨found, loads, fun name => ?_⟩
  by_cases known : name ∈ table.columnNames
  · obtain ⟨column, member, rfl⟩ := List.mem_map.mp known
    obtain ⟨loaded, read, -, agrees⟩ := returns column member
    have here := holds (column, table.valueOf values column.name)
      (pairs ▸ List.mem_map_of_mem (f := fun column : Column =>
        (column, table.valueOf values column.name)) member)
    cases read.symm.trans here
    exact agrees
  · have unknown := suits.type_of?_none known
    rw [found.get_unknown unknown, entity.get_unknown unknown]
    rfl

/-- Whether the values of a row equal what an entity holds in each key column. -/
def hasKeyOf (table : Table) (entity : Entity model) (values : List Stored) : Bool :=
  table.primaryKey.all fun column =>
    Operator.equal.relates (table.affinity column) (table.valueOf values column) (entity.get column)

/-- The criteria of the key of an entity compile, and a row meets them if it has the key. -/
theorem key_compiles (admitted : table.IsAdmitted) (apart : ToldApart table.columnNames)
    (keyed : table.primaryKey ≠ []) (present : entity.HasKey table) :
    ∃ conditions, (entity.key table).criteria table =
        .ok (Criteria.equating entity.get table.primaryKey) ∧
      statedConditions (some (Criteria.equating entity.get table.primaryKey)) none table none =
        .ok conditions ∧
      ∀ values, (Criteria.equating entity.get table.primaryKey).isMetIn table values =
        table.hasKeyOf entity values := by
  obtain ⟨names, known⟩ := primary_key_plain admitted apart.nodup
  obtain ⟨⟨conditions, stated⟩, met⟩ := Criteria.equating_compiles entity.get keyed known
  refine ⟨conditions, Entity.key_criteria keyed names, stated, fun values => ?_⟩
  rw [met, hasKeyOf, Bool.eq_iff_iff, List.all_eq_true, List.all_eq_true]
  refine forall₂_congr fun column inKey => ?_
  have held := present column inKey
  unfold Demand.isMetIn Demand.isMetBy
  cases value : entity.get column with
  | null =>
    rw [value] at held
    cases held
  | _ => rfl

/-- Of the rows beside which a row was put in that carries an entity, the row alone has the key of
the entity. -/
theorem IsKeptIn.one_has_key_of {put : Row} (kept : table.IsKeptIn database (relation.put put))
    (before : ∀ other ∈ relation.rows, Relation.keyOrder
      (relation.project table.primaryKey other) (relation.project table.primaryKey put) ≠ .eq)
    (carries : table.Carries put.values entity) (present : entity.HasKey table)
    (defined : entity.IsDefined) :
    ((relation.put put).rows.filter fun row => table.hasKeyOf entity row.values).Perm [put] := by
  have column_of : ∀ name ∈ table.primaryKey, ∃ column ∈ table.columns,
      column.primaryKey = true ∧ column.name = name := fun name inKey => mem_primary_key.mp inKey
  have has : table.hasKeyOf entity put.values = true := by
    rw [hasKeyOf, List.all_eq_true]
    intro name inKey
    obtain ⟨column, member, isKey, rfl⟩ := column_of name inKey
    obtain ⟨given, stands, taken, bits⟩ := carries column member
    rw [kept.affinity member, stands]
    exact ColumnType.equal_store taken (present column.name inKey) (defined column.name)
      (bits isKey)
  have lacks : ∀ other ∈ relation.rows, table.hasKeyOf entity other.values = false := by
    intro other member
    refine eq_false_of_ne_true fun hasToo => before other member ?_
    rw [hasKeyOf, List.all_eq_true] at has hasToo
    refine (Relation.key_order_map_eq _ _ _).mpr fun name inKey => ?_
    obtain ⟨column, columnMember, isKey, rfl⟩ := column_of name inKey
    change ((relation.put put).value other column.name).order
      ((relation.put put).value put column.name) = .eq
    rw [kept.is_read_in.value, kept.is_read_in.value]
    exact Operator.order_of_relates
      (kept.compare_as_value columnMember (Relation.mem_put.mpr (.inr member)))
      (kept.compare_as_value columnMember (Relation.mem_put.mpr (.inl rfl)))
      (hasToo column.name inKey) (has column.name inKey)
  have only : (put :: relation.rows).filter (fun row => table.hasKeyOf entity row.values) =
      [put] := by
    rw [List.filter_cons, has, if_pos rfl, List.filter_eq_nil_iff.mpr fun other member => by
      simp [lacks other member]]
  exact ((relation.put_rows put).filter _).trans (.of_eq only)

end Table

/-! ### Finding the entity of a key -/

/-- A query that is accepted answers with what it selects, where the connection may read. -/
theorem Engine.Access.run_select_ok {access : Access} {query : Select Stored} {answer : Answer}
    (source : (query.mapOperands Stored.bound).source.isNone = false)
    (checked : checkSelect access.visible (query.mapOperands Stored.bound) = .ok ())
    (selected : select access.visible (query.mapOperands Stored.bound) = .ok answer)
    (reads : access.forReading = .ok access) :
    (access.run (.select query)).answer = .ok answer := by
  rw [Access.run_select checked, Access.run_select_answer source selected, reads]
  rfl

/-- The entity of a key is the first one that the query of the key answers with. -/
theorem Operation.find_one_ok {handle : Handle model} {key : Key} {criteria : Criteria}
    {query : Select Stored} {store : Store} {connection : Connection} {answer : Answer}
    {found : List (Entity model)} (opened : store.driver.connection = some connection)
    (undisturbed : store.host.outage? = none)
    (means : key.criteria handle.table = .ok criteria)
    (compiles : Request.findingOne handle.table criteria = .ok query)
    (answered : ((⟨connection, store.host.disk⟩ : Access).run (.select query)).answer = .ok answer)
    (loads : loadAll handle.table answer = .ok found) :
    ∃ after, (findOne handle key).apply store = (.ok found.head?, after) := by
  rcases answering_cases (.select query) opened with ⟨outage, strikes, -⟩ | ⟨execution, -, asked⟩
  · cases undisturbed.symm.trans strikes
  · rw [answered] at asked
    refine ⟨store.used ((⟨connection, store.host.disk⟩ : Access).run (.select query)).access
      execution, ?_⟩
    rw [findOne, apply_bind, apply_of_except, means]
    simp only
    rw [apply_bind, apply_of_except, compiles]
    simp only
    rw [apply_bind, fetching, apply_bind, asked]
    simp only [Except.mapError]
    rw [apply_of_except, loads]
    rfl

/-- Where one row has the key of an entity that it carries, an entity is found under the key that
agrees with it. -/
theorem Operation.find_one_carried {handle : Handle model} {entity : Entity model} {store : Store}
    {relation : Relation} {put : Row} {connection : Connection}
    (opened : store.driver.connection = some connection)
    (undisturbed : store.host.outage? = none)
    (reads : (⟨connection, store.host.disk⟩ : Access).forReading =
      .ok ⟨connection, store.host.disk⟩)
    (kept : handle.table.IsKeptIn store.visible relation)
    (faultless : handle.table.fault? = none) (suits : model.Suits handle.table)
    (keyed : handle.table.primaryKey ≠ []) (present : entity.HasKey handle.table)
    (defined : entity.IsDefined) (carries : handle.table.Carries put.values entity)
    (one : (relation.rows.filter fun row => handle.table.hasKeyOf entity row.values).Perm [put]) :
    ∃ found after, (findOne handle (entity.key handle.table)).apply store =
        (.ok (some found), after) ∧
      ∀ column, (found.get column).agrees (entity.get column).inSeconds = true := by
  have admitted := Table.is_admitted_of_fault? faultless
  have access : store.visible = (⟨connection, store.host.disk⟩ : Access).visible :=
    Store.visible_of_connection opened
  have held := kept.is_read_in
  obtain ⟨conditions, means, stated, met⟩ :=
    handle.table.key_compiles admitted kept.apart keyed present
  let request : Request :=
    { criteria := some (Criteria.equating entity.get handle.table.primaryKey) }
  obtain ⟨within, decides⟩ := request.condition_decides faultless held stated
  have meets : ∀ values, request.isMetIn handle.table values =
      handle.table.hasKeyOf entity values := fun values => met values
  have only := List.perm_singleton.mp one
  obtain ⟨checked, selected⟩ := Table.select_first_query held admitted.some_column within
    (fun row member => (decides row member).trans (meets row.values))
    (by rw [only, List.length_singleton])
  rw [only] at selected
  obtain ⟨found, loads, agrees⟩ := carries.load kept.distinct suits
    (Table.map_value_of kept.apart (held.attributes ▸ held.full put
      (List.mem_filter.mp (one.symm.subset List.mem_cons_self)).1)) defined
  rw [access] at checked selected
  rw [← Table.first_query_map_operands] at checked selected
  have answered := Access.run_select_ok rfl checked selected reads
  have all : Operation.loadAll handle.table ⟨handle.table.columnNames, [put.values]⟩ =
      .ok [found] := by
    simp [loadAll, loads]
  obtain ⟨after, answers⟩ := find_one_ok opened undisturbed means (Request.finding_one_ok stated)
    answered all
  exact ⟨found, after, answers, agrees⟩

/-! ### Adding an entity -/

/-- The generators of a table that give a bit of its key give it as a bit, or as zero or one. -/
def Table.GivesKeyBits (table : Table) : Prop :=
  ∀ column ∈ table.columns, column.primaryKey = true → column.type = .bit →
    ∀ generator, column.generator = some generator → ∀ count number,
      (generator count).1 = .integer number → number = 0 ∨ number = 1

/-- A bit of the key is stored as the entity holds it: one that the caller set is a bit already, and
a generator gives it as one. -/
theorem Entity.Gives.key_stored {table : Table} {column : Column} {given held : Value}
    (gives : Entity.Gives model column given held) (bits : table.GivesKeyBits)
    (member : column ∈ table.columns) (isKey : column.primaryKey = true)
    (isBit : column.type = .bit) (taken : column.type.fieldType.convert given = .ok held) :
    given.stored = held.stored := by
  cases generates : column.generator with
  | none => rw [gives.plain generates]
  | some generator =>
    obtain ⟨count, same⟩ := gives.generated generator generates
    rw [isBit] at taken
    exact ColumnType.bit_stored taken fun number isNumber =>
      bits column member isKey isBit generator generates count number (same ▸ isNumber)

/-- An entity that holds what was drawn for the columns of a table: for all of them but the one that
is to be numbered. -/
structure Entity.HasDrawn (entity : Entity model) (table : Table) (values : List (Column × Value)) :
    Prop where
  columns : values.map Prod.fst = table.columns.filter fun column => !column.autoincrement
  gives : ∀ entry ∈ values, Entity.Gives model entry.1 entry.2 (entity.get entry.1.name)

namespace Entity.HasDrawn

variable {table : Table} {entity : Entity model} {values : List (Column × Value)}

/-- Every value that was drawn is for a column that is not numbered. -/
theorem column_of (drawn : entity.HasDrawn table values) {entry : Column × Value}
    (member : entry ∈ values) : entry.1 ∈ table.columns ∧ entry.1.autoincrement = false := by
  have among := drawn.columns ▸ List.mem_map_of_mem (f := Prod.fst) member
  simpa using List.mem_filter.mp among

/-- Every column that is not numbered has a value that was drawn. -/
theorem value_of (drawn : entity.HasDrawn table values) {column : Column}
    (member : column ∈ table.columns) (plain : column.autoincrement = false) :
    ∃ value, (column, value) ∈ values :=
  exists_drawn drawn.columns (List.mem_filter.mpr ⟨member, by simp [plain]⟩)

/-- The field of a column took what was drawn for it. -/
theorem taken (drawn : entity.HasDrawn table values) (suits : model.Suits table)
    (distinct : table.columnNames.Nodup) {entry : Column × Value} (member : entry ∈ values) :
    entry.1.type.fieldType.convert entry.2 = .ok (entity.get entry.1.name) :=
  (drawn.gives entry member).converts _ (suits.type_of? distinct (drawn.column_of member).1)

/-- What was drawn makes a row that can be inserted. -/
theorem is_written (drawn : entity.HasDrawn table values) (suits : model.Suits table)
    (apart : ToldApart table.columnNames) (defined : entity.IsDefined)
    (present : ∀ column ∈ table.columns, column.primaryKey = true →
      column.autoincrement = false → (entity.get column.name).isNull = false) :
    table.IsWritten (values.map fun entry => (entry.1.name, entry.2.encoded)) := by
  have distinct : table.columnNames.Nodup := apart.nodup
  refine ⟨?_, fun column inTable isKey value member => ?_⟩
  · rw [← drawn.columns, List.map_map, List.map_map]
    rfl
  · obtain ⟨entry, among, same⟩ := List.mem_map.mp member
    obtain ⟨named, rfl⟩ := Prod.mk.inj same
    obtain ⟨entryInTable, plain⟩ := drawn.column_of among
    have one := Table.column_eq_of_name apart entryInTable inTable named
    exact ColumnType.encoded_is_null (drawn.taken suits distinct among)
      (present entry.1 entryInTable (one ▸ isKey) plain) (defined entry.1.name)

end Entity.HasDrawn

namespace Store

variable {handle : Handle model} {entity saved : Entity model} {store after : Store}

/-- The steps of an addition that succeeds: a row is drawn, the row is put in, and the entity gets
the number of the row. -/
theorem add_ok (added : store.add handle entity = (⟨saved, .ok ()⟩, after)) :
    let draft := entity.row handle.table false store.host.count
    ∃ row count, draft.outcome = .ok row ∧
      (Operation.executing (.change (handle.table.insertion row))).apply
        (store.withCount draft.count) = (.ok count, after) ∧
      after.numbered handle.table draft.entity = ⟨saved, .ok ()⟩ := by
  intro draft
  rcases store.add_cases handle entity with
    ⟨problem, -, ended⟩ | ⟨row, drawn, ⟨problem, left, -, ended⟩ | ⟨count, left, inserted, ended⟩⟩
  · cases ended.symm.trans added
  · cases ended.symm.trans added
  · obtain ⟨numbers, rfl⟩ := Prod.mk.inj (ended.symm.trans added)
    exact ⟨row, count, drawn, inserted, numbers⟩

/-- The number that the engine gave goes into the key that it numbers, and into nothing else. -/
theorem numbered_ok {table : Table} {draft : Entity model}
    (numbers : after.numbered table draft = ⟨saved, .ok ()⟩) :
    (∀ key, table.autoincrementKey? = some key → ∃ connection type,
      after.driver.connection = some connection ∧ model.typeOf? key = some type ∧
        type.convert (.integer connection.lastNumber) = .ok (saved.get key)) ∧
      ∀ name, table.autoincrementKey? ≠ some name → saved.get name = draft.get name := by
  unfold numbered at numbers
  cases given : table.autoincrementKey? with
  | none =>
    rw [given] at numbers
    cases numbers
    exact ⟨nofun, fun _ _ => rfl⟩
  | some key =>
    rw [given] at numbers
    simp only at numbers
    split at numbers
    · cases numbers
    · rename_i connection opened
      split at numbers
      · rename_i next puts
        cases numbers
        obtain ⟨⟨type, typed, taken⟩, kept⟩ := Entity.set_ok puts
        refine ⟨fun other same => ?_, fun name other => kept name fun same => other (by rw [same])⟩
        cases same
        exact ⟨connection, type, opened, typed, taken⟩
      · cases numbers

/-- What was drawn for an entity that was added went in as a row, and the entity holds it: the
engine numbers the key only later. -/
theorem add_drawn (added : store.add handle entity = (⟨saved, .ok ()⟩, after))
    (apart : ToldApart handle.table.columnNames) :
    ∃ values start count, saved.HasDrawn handle.table values ∧ start.visible = store.visible ∧
      (Operation.executing (.change (handle.table.insertion
          (values.map fun entry => (entry.1.name, entry.2.stored))))).apply start =
        (.ok count, after) ∧
      ∀ key, handle.table.autoincrementKey? = some key → ∃ connection type,
        after.driver.connection = some connection ∧ model.typeOf? key = some type ∧
          type.convert (.integer connection.lastNumber) = .ok (saved.get key) := by
  obtain ⟨row, count, drawn, inserted, numbers⟩ := add_ok added
  obtain ⟨numbersKey, keepsOthers⟩ := numbered_ok numbers
  obtain ⟨values, given, -, rfl⟩ := Entity.row_ok drawn
  have columns : values.map Prod.fst =
      handle.table.columns.filter fun column => !column.autoincrement := by
    rw [Entity.draw_columns given]
    simp [Entity.rowColumns]
  have distinct : handle.table.columnNames.Nodup := apart.nodup
  refine ⟨values, store.withCount (entity.row handle.table false store.host.count).count, count,
    ⟨columns, fun entry member => ?_⟩, rfl, inserted, numbersKey⟩
  have among := columns ▸ List.mem_map_of_mem (f := Prod.fst) member
  have ⟨inTable, plain⟩ : entry.1 ∈ handle.table.columns ∧ entry.1.autoincrement = false := by
    simpa using List.mem_filter.mp among
  rw [keepsOthers entry.1.name fun same => by
    obtain ⟨-, other, otherMember, numbered, named⟩ := autoincrement_key?_column apart same
    rw [Table.column_eq_of_name apart otherMember inTable named, plain] at numbered
    cases numbered]
  exact (Entity.draw_gives (distinct.sublist (List.filter_sublist.map Column.name)) given).gives
    entry member

/-- An entity that was added has a row that carries it. The row stands beside the rows that were
there, and has another key than each of them. -/
theorem add_carries {relation : Relation} (kept : handle.table.IsKeptIn store.visible relation)
    (faultless : handle.table.fault? = none) (suits : model.Suits handle.table)
    (keyed : handle.table.primaryKey ≠ []) (bits : handle.table.GivesKeyBits)
    (added : store.add handle entity = (⟨saved, .ok ()⟩, after)) (defined : saved.IsDefined)
    (present : ∀ column ∈ handle.table.columns, column.primaryKey = true →
      column.autoincrement = false → (saved.get column.name).isNull = false) :
    ∃ put connection, after.driver.connection = some connection ∧
      (⟨connection, after.host.disk⟩ : Access).forReading = .ok ⟨connection, after.host.disk⟩ ∧
      handle.table.IsKeptIn after.visible (relation.put put) ∧
      (∀ other ∈ relation.rows, Relation.keyOrder
        (relation.project handle.table.primaryKey other)
        (relation.project handle.table.primaryKey put) ≠ .eq) ∧
      handle.table.Carries put.values saved ∧ saved.HasKey handle.table := by
  have admitted := Table.is_admitted_of_fault? faultless
  obtain ⟨values, start, count, drawn, sees, inserted, numbersKey⟩ := add_drawn added kept.apart
  obtain ⟨connection, opened, counted, execution, rfl⟩ := Operation.on_connection_ok inserted
  obtain ⟨⟨answer, ran⟩, -⟩ := Access.counted_ok counted
  obtain ⟨effect, done, seen, -, last, reads⟩ := Access.run_change_ok ran
  rw [Table.insertion_bound, List.map_map] at done
  rw [← sees, Store.visible_of_connection opened] at kept
  obtain ⟨put, keptNow, before, stands, numbered⟩ :=
    kept.insertion admitted keyed (drawn.is_written suits kept.apart defined present) done
  rw [Operation.counted_access] at numbersKey ⊢
  refine ⟨put, _, rfl, reads, ?_, before, fun column inTable => ?_, fun key inKey => ?_⟩
  · rw [Store.used_visible, seen]
    exact keptNow
  · by_cases auto : column.autoincrement = true
    · have isNumbered := admitted.autoincrement_key? kept.apart inTable auto
      obtain ⟨value, number⟩ := numbered column.name isNumbered
      obtain ⟨left, type, opens, typed, takes⟩ := numbersKey column.name isNumbered
      have isInteger := ((admitted.columns column inTable).numbered auto).1
      cases opens
      cases typed.symm.trans (suits.type_of? kept.distinct inTable)
      rw [last put.number number] at takes
      refine ⟨.integer put.number, ?_, takes, fun _ isBit => ?_⟩
      · rw [value, isInteger]
        rfl
      · cases isInteger.symm.trans isBit
    · obtain ⟨value, entry⟩ := drawn.value_of inTable (by simpa using auto)
      have taken := drawn.taken suits kept.distinct entry
      exact ⟨value, stands _ inTable _ (List.mem_map_of_mem (f := fun entry : Column × Value =>
        (entry.1.name, entry.2.encoded)) entry), taken, fun isKey isBit =>
          (drawn.gives _ entry).key_stored bits inTable isKey isBit taken⟩
  · obtain ⟨column, inTable, isKey, rfl⟩ := Table.mem_primary_key.mp inKey
    by_cases auto : column.autoincrement = true
    · obtain ⟨left, type, -, typed, takes⟩ :=
        numbersKey column.name (admitted.autoincrement_key? kept.apart inTable auto)
      cases typed.symm.trans (suits.type_of? kept.distinct inTable)
      rw [((admitted.columns column inTable).numbered auto).1] at takes
      cases same : saved.get column.name with
      | null => rw [same] at takes; cases takes
      | _ => rfl
    · exact present column inTable isKey (by simpa using auto)

end Store

/-- Store, then load. Where an entity was added to a kept table with a key, its key finds an entity
that agrees with it field by field, a date cut to whole seconds; and the table is kept with one row
more than it had. What is asked of floats and of the key is asked of the entity after it was added,
when generators and the engine have given their values.

Proof: the row that is put in carries the entity column by column, what is stored comes back as what
the field holds, and the key meets no other row, so the one that is found is that row. -/
theorem added_entity_is_found {handle : Handle model} {tables : List Table} {schema : Schema}
    (accepted : Schema.ofTables tables = .ok schema) (member : handle.table ∈ schema.tables)
    (suits : model.Suits handle.table) (keyed : handle.table.primaryKey ≠ [])
    (bits : handle.table.GivesKeyBits) {store after : Store} {relation : Relation}
    (kept : handle.table.IsKeptIn store.visible relation) {entity saved : Entity model}
    (added : store.add handle entity = (⟨saved, .ok ()⟩, after)) (defined : saved.IsDefined)
    (present : ∀ column ∈ handle.table.columns, column.primaryKey = true →
      column.autoincrement = false → (saved.get column.name).isNull = false)
    (undisturbed : after.host.outage? = none) :
    (∃ found last, (Operation.findOne handle (saved.key handle.table)).apply after =
        (.ok (some found), last) ∧
      ∀ column, (found.get column).agrees (saved.get column).inSeconds = true) ∧
      ∃ put, handle.table.IsKeptIn after.visible (relation.put put) ∧
        (relation.put put).rows.Perm (put :: relation.rows) := by
  have faultless := Schema.of_tables_fault? accepted _ member
  obtain ⟨put, connection, opened, reads, keptNow, before, carries, hasKey⟩ :=
    Store.add_carries kept faultless suits keyed bits added defined present
  have one := keptNow.one_has_key_of before carries hasKey defined
  exact ⟨Operation.find_one_carried opened undisturbed reads keptNow faultless suits keyed hasKey
    defined carries one, put, keptNow, relation.put_rows put⟩

/-! ### A cloakroom -/

namespace Cloakroom

/-- The peg on which a coat hangs. -/
def peg : Column := { name := "peg", type := .string, primaryKey := true }

/-- Whose coat it is, if that is known. -/
def owner : Column := { name := "owner", type := .string, nullable := true }

/-- A coat hangs on a peg. -/
def coatModel : Model := ⟨"coat", [⟨.text, peg⟩, ⟨.text, owner⟩]⟩

/-- The handle of the coats. -/
def handle : Handle coatModel := ⟨coatModel.table, rfl⟩

/-- A coat on the second peg. -/
def coat : Entity coatModel :=
  ⟨[⟨⟨.text, peg⟩, .text "second", rfl⟩, ⟨⟨.text, owner⟩, .null, rfl⟩], rfl⟩

/-- One coat that hangs there already. -/
def coats : Relation where
  name := "coat"
  attributes := coatModel.table.attributes
  identity := .hidden
  uniques := [["peg"]]
  rows := [⟨1, [.text "first", .text "Ada"]⟩]
  text := ""

/-- A store over a memory with these objects. -/
def room (objects : List Object) : Store :=
  ⟨{ config := {}, connection := some { number := 0, location := .memory 0 } },
    { disk := { volumes := [(.memory 0, { content := { objects } })] } }⟩

/-- No coat has a float, so none has one that is not a number. -/
theorem is_defined (entity : Entity coatModel) : entity.IsDefined := by
  intro column
  cases typed : coatModel.typeOf? column with
  | none =>
    rw [entity.get_unknown typed]
    rfl
  | some type =>
    have isText : type = .text := by
      obtain ⟨field, finds, rfl⟩ := Option.map_eq_some_iff.mp typed
      have member := List.mem_of_find?_eq_some finds
      simp only [coatModel, List.mem_cons, List.not_mem_nil, or_false] at member
      rcases member with rfl | rfl <;> rfl
    have held := entity.get_holds typed
    rw [isText] at held
    cases same : entity.get column with
    | float number =>
      rw [same] at held
      cases held
    | _ => rfl

end Cloakroom

open Cloakroom in
/-- A coat that is hung beside another one is found on its peg. -/
theorem added_coat_is_found :
    let store := room [.relation coats]
    let saved := (store.add handle coat).1.entity
    let after := (store.add handle coat).2
    Schema.ofTables [coatModel.table] = .ok ⟨[coatModel.table]⟩ ∧
      coatModel.Suits coatModel.table ∧ coatModel.table.GivesKeyBits ∧
      coatModel.table.IsKeptIn store.visible coats ∧
      (∃ found last, (Operation.findOne handle (saved.key coatModel.table)).apply after =
          (.ok (some found), last) ∧
        ∀ column, (found.get column).agrees (saved.get column).inSeconds = true) ∧
      ∃ put, coatModel.table.IsKeptIn after.visible (coats.put put) ∧
        (coats.put put).rows.Perm (put :: coats.rows) := by
  intro store saved after
  have accepted : Schema.ofTables [coatModel.table] = .ok ⟨[coatModel.table]⟩ :=
    Schema.of_tables_ok (by decide +kernel) (by decide +kernel)
  have suits : coatModel.Suits coatModel.table := .refl _
  have columns : coatModel.table.columns = [peg, owner] := rfl
  have bits : coatModel.table.GivesKeyBits := by
    intro column member _ isBit
    rw [columns] at member
    simp only [List.mem_cons, List.not_mem_nil, or_false] at member
    rcases member with rfl | rfl <;> cases isBit
  have kept : coatModel.table.IsKeptIn store.visible coats := by
    refine ⟨by decide +kernel, ⟨"", { coats with rows := [] }, by decide +kernel, rfl⟩,
      fun row member => ?_, fun _ _ _ member => (nomatch member)⟩
    cases List.mem_singleton.mp member
    refine ⟨rfl, fun attr among => ?_, nofun⟩
    have pair : coats.attributes = [⟨"peg", .text, true, .null⟩,
      ⟨"owner", .text, false, .null⟩] := by
      decide +kernel
    rw [pair] at among
    simp only [List.mem_cons, List.not_mem_nil, or_false] at among
    rcases among with rfl | rfl
    · exact ⟨.text "first", by decide +kernel⟩
    · exact ⟨.text "Ada", by decide +kernel⟩
  have added : store.add handle coat = (⟨saved, .ok ()⟩, after) := by
    have answered : (store.add handle coat).1.outcome = .ok () := by decide +kernel
    rw [← answered]
  have present : ∀ column ∈ coatModel.table.columns, column.primaryKey = true →
      column.autoincrement = false → (saved.get column.name).isNull = false := by
    intro column member isKey _
    rw [columns] at member
    simp only [List.mem_cons, List.not_mem_nil, or_false] at member
    rcases member with rfl | rfl
    · decide +kernel
    · cases isKey
  have undisturbed : after.host.outage? = none := by decide +kernel
  obtain ⟨finds, keeps⟩ := added_entity_is_found accepted
    (show handle.table ∈ [coatModel.table] from List.mem_cons_self) suits (by decide +kernel)
      bits kept added (is_defined saved) present undisturbed
  exact ⟨accepted, suits, bits, kept, finds, keeps⟩

namespace Cloakroom

/-- Whoever hangs up a coat makes all pegs empty. -/
def thief : Trigger where
  name := "thief"
  event := .insertion
  table := "coat"
  body := [.delete ⟨"coat", none⟩]
  text := ""

/-- An umbrella has no peg. -/
def umbrellaModel : Model := ⟨"umbrella", [⟨.text, owner⟩]⟩

/-- The stand for umbrellas, which is empty. -/
def umbrellas : Relation where
  name := "umbrella"
  attributes := umbrellaModel.table.attributes
  identity := .hidden
  uniques := []
  rows := []
  text := ""

/-- Whether a ticket was taken, which is always said with a five. -/
def taken : Column :=
  { name := "taken", type := .bit, primaryKey := true, generator := some (.constant (.integer 5)) }

/-- A ticket says whether it was taken. -/
def ticketModel : Model := ⟨"ticket", [⟨.bit, taken⟩]⟩

/-- The roll of tickets, which is new. -/
def tickets : Relation where
  name := "ticket"
  attributes := ticketModel.table.attributes
  identity := .shown "taken" false
  uniques := []
  rows := []
  text := ""

/-- The tables of the cloakroom. -/
def tables : List Table :=
  [coatModel.table, umbrellaModel.table, ticketModel.table]

/-- What the addition of an entity answers, and what is found under its key then. -/
def soughtAgain {model : Model} (handle : Handle model) (entity : Entity model) (store : Store) :
    Except StoreError Unit × Except StoreError (Option (List (String × Value))) :=
  let (saved, after) := store.add handle entity
  (saved.outcome, ((Operation.findOne handle (saved.entity.key handle.table)).apply after).1.map
    (Option.map Entity.toList))

end Cloakroom

open Cloakroom in
/-- What was added need not be found: a trigger can take it away, an umbrella has no key to ask for,
and a ticket that is kept with a five is asked for with a one. In a room that was not made for the
table the other coat on the same peg is found. -/
theorem added_entity_can_be_missed :
    Schema.ofTables tables = .ok ⟨tables⟩ ∧
      soughtAgain handle coat (room [.relation coats, .trigger thief]) = (.ok (), .ok none) ∧
      soughtAgain ⟨umbrellaModel.table, rfl⟩ (.blank umbrellaModel) (room [.relation umbrellas]) =
        (.ok (), .error (.invalidQuery "table `umbrella` has no primary key")) ∧
      soughtAgain ⟨ticketModel.table, rfl⟩ (.blank ticketModel) (room [.relation tickets]) =
        (.ok (), .ok none) ∧
      soughtAgain handle coat (room [.relation { coats with
          uniques := [], rows := [⟨1, [.text "second", .text "Ada"]⟩] }]) =
        (.ok (), .ok (some [("peg", .text "second"), ("owner", .text "Ada")])) := by
  have accepted : Schema.ofTables tables = .ok ⟨tables⟩ :=
    Schema.of_tables_ok (by decide +kernel) (by decide +kernel)
  refine ⟨accepted, ?_, ?_, ?_, ?_⟩
  · decide +kernel
  · decide +kernel
  · decide +kernel
  · decide +kernel

end RecordStore
