import RecordStore.Proofs.Schema.Names
import RecordStore.Proofs.Store.Validation

/-!
# Typed handles

A schema gives the handle of a model for the table of the model's name. Nothing else of the table is
compared, so the handle has the columns of the model when the model's own table was declared, and
the columns of whatever table was declared under its name when it was not.

With the model's own table every field has its column and every column its field: what an entity
holds is drawn into the row, and what the row holds is loaded into the entity. With another table a
column that is no field takes null into every row and lets no row be loaded, and a field that is no
column is left out of every row and is empty in every entity.
-/

namespace RecordStore

variable {model : Model}

/-! ### Fields of a name -/

/-- Whether a model has a field of a name. -/
def Model.Has (model : Model) (name : String) : Prop := name ∈ model.fields.map Field.name

namespace Model

variable {name : String} {value : Value}

/-- A model has a field of a name exactly if the name has a type. -/
theorem has_iff : model.Has name ↔ ∃ type, model.typeOf? name = some type := by
  unfold Has typeOf?
  rw [← Option.isSome_iff_exists, Option.isSome_map, List.find?_isSome, List.mem_map]
  simp

/-- A name without field has no type. -/
theorem type_of?_of_not_has (unknown : ¬ model.Has name) : model.typeOf? name = none :=
  Option.eq_none_iff_forall_ne_some.mpr fun type typed => unknown (has_iff.mpr ⟨type, typed⟩)

/-- Among fields of different names each is found under its own. -/
theorem type_of?_of_field (distinct : (model.fields.map Field.name).Nodup) {field : Field}
    (member : field ∈ model.fields) : model.typeOf? field.name = some field.type := by
  obtain ⟨type, typed⟩ := has_iff.mp (List.mem_map_of_mem member)
  obtain ⟨found, finds, rfl⟩ := Option.map_eq_some_iff.mp typed
  have named : found.name = field.name := by simpa using List.find?_some finds
  rw [typed, List.inj_on_of_nodup_map distinct (List.mem_of_find?_eq_some finds) member named]

/-- A model takes nothing under a name without field, and names it. -/
theorem take_unknown (unknown : ¬ model.Has name) (value : Value) :
    model.take name value = .error (.unknownColumn model.tableName name) := by
  rw [take, type_of?_of_not_has unknown]

/-- What the field of a column makes of what the column returns for a stored value. -/
def receive (model : Model) (column : Column) (stored : Stored) : Except StoreError Value :=
  stored.load column.type >>= model.take column.name

variable {column : Column} {stored : Stored}

/-- A column that is no field passes nothing on. -/
theorem receive_unknown (unknown : ¬ model.Has column.name) (received : Value) :
    model.receive column stored ≠ .ok received := by
  unfold receive
  cases stored.load column.type with
  | error problem => exact fun same => by cases same
  | ok loaded =>
    change model.take column.name loaded ≠ _
    rw [take_unknown unknown]
    exact fun same => by cases same

end Model

/-- A column refuses a stored value for its kind. -/
theorem Stored.load_refuses {stored : Stored} {type : ColumnType} {problem : StoreError}
    (refused : stored.load type = .error problem) : ∃ reason, problem = .typeError reason := by
  have dates : ∀ seconds, (Moment.load seconds).map Value.date = .error problem →
      ∃ reason, problem = .typeError reason := by
    intro seconds late
    unfold Moment.load at late
    split at late <;> cases late
    exact ⟨_, rfl⟩
  unfold Stored.load at refused
  split at refused
  all_goals first | exact dates _ refused | cases refused
  exact ⟨_, rfl⟩

/-- A stored value is refused for its kind, or because its column is no field. -/
theorem Model.receive_refuses {column : Column} {stored : Stored} {problem : StoreError}
    (refused : model.receive column stored = .error problem) :
    (∃ reason, problem = .typeError reason) ∨
      (¬ model.Has column.name ∧ problem = .unknownColumn model.tableName column.name) := by
  unfold receive at refused
  cases read : stored.load column.type with
  | error reason =>
    rw [read] at refused
    cases refused
    exact .inl (Stored.load_refuses read)
  | ok loaded =>
    rw [read] at refused
    change model.take column.name loaded = _ at refused
    cases typed : model.typeOf? column.name with
    | none =>
      rw [take, typed] at refused
      cases refused
      refine .inr ⟨fun known => ?_, rfl⟩
      obtain ⟨type, found⟩ := has_iff.mp known
      cases typed.symm.trans found
    | some type =>
      rw [take, typed] at refused
      exact .inl (FieldType.convert_refuses refused)

/-! ### Loading -/

namespace Entity

/-- An entity into which stored values are put, each under the name of its column. -/
def fill (pairs : List (Column × Stored)) (start : Entity model) :
    Except StoreError (Entity model) :=
  pairs.foldlM (fun entity entry => do
    let value ← entry.2.load entry.1.type
    entity.set entry.1.name value) start

variable {pairs : List (Column × Stored)} {start found : Entity model} {table : Table}
  {values : List Stored}

/-- The record that holds nothing holds nothing under any name. -/
theorem blank_get (name : String) : (blank model).get name = .null := by
  unfold get
  split
  · rename_i cell finds
    obtain ⟨field, -, rfl⟩ := List.mem_map.mp (List.mem_of_find?_eq_some finds)
    rfl
  · rfl

/-- To load a row is to fill a blank entity with what its columns return. -/
theorem load_eq_fill (table : Table) (values : List Stored) :
    (load table values : Except StoreError (Entity model)) =
      fill (table.columns.zip values) (blank model) := rfl

/-- The first pair is put into the entity, and then the others, or it is refused. -/
theorem fill_cons (pair : Column × Stored) (rest : List (Column × Stored)) (start : Entity model) :
    (∃ next : Entity model, model.receive pair.1 pair.2 = .ok (next.get pair.1.name) ∧
        (∀ other, other ≠ pair.1.name → next.get other = start.get other) ∧
        fill (pair :: rest) start = fill rest next) ∨
      ∃ problem, model.receive pair.1 pair.2 = .error problem ∧
        fill (pair :: rest) start = .error problem := by
  unfold fill Model.receive
  rw [List.foldlM_cons]
  cases pair.2.load pair.1.type with
  | error problem => exact .inr ⟨problem, rfl, rfl⟩
  | ok loaded =>
    change (∃ next : Entity model, model.take pair.1.name loaded = _ ∧ _ ∧
      (start.set pair.1.name loaded >>= _) = _) ∨
      ∃ problem, model.take pair.1.name loaded = _ ∧ (start.set pair.1.name loaded >>= _) = _
    cases puts : start.set pair.1.name loaded with
    | error problem => exact .inr ⟨problem, take_of_refused puts, rfl⟩
    | ok next => exact .inl ⟨next, take_of_set puts, (set_ok puts).2, rfl⟩

/-- What is put under different names stands there as the fields received it, and every other name
holds what it held. The induction is on the pairs: a later pair has another name, so it leaves an
earlier one. -/
theorem fill_ok (distinct : (pairs.map fun pair => pair.1.name).Nodup)
    (filled : fill pairs start = .ok found) :
    (∀ pair ∈ pairs, model.receive pair.1 pair.2 = .ok (found.get pair.1.name)) ∧
      ∀ name, name ∉ pairs.map (fun pair => pair.1.name) → found.get name = start.get name := by
  induction pairs generalizing start with
  | nil =>
    cases filled
    exact ⟨fun _ member => absurd member List.not_mem_nil, fun _ _ => rfl⟩
  | cons pair rest inductionHypothesis =>
    obtain ⟨fresh, later⟩ := List.nodup_cons.mp distinct
    rcases fill_cons pair rest start with ⟨next, received, kept, goes⟩ | ⟨problem, -, stops⟩
    · obtain ⟨stand, untouched⟩ := inductionHypothesis later (goes.symm.trans filled)
      refine ⟨fun other member => ?_, fun name outside => ?_⟩
      · rcases List.mem_cons.mp member with rfl | behind
        · rw [untouched _ fresh, received]
        · exact stand other behind
      · rw [List.map_cons, List.mem_cons, not_or] at outside
        rw [untouched name outside.2, kept name outside.1]
    · cases stops.symm.trans filled

/-- Filling stops at a pair that its field does not receive, with that error, and stops at no
other. -/
theorem fill_cases (pairs : List (Column × Stored)) (start : Entity model) :
    ((∃ found, fill pairs start = .ok found) ∧
        ∀ pair ∈ pairs, ∃ received, model.receive pair.1 pair.2 = .ok received) ∨
      ∃ pair ∈ pairs, ∃ problem, model.receive pair.1 pair.2 = .error problem ∧
        fill pairs start = .error problem := by
  induction pairs generalizing start with
  | nil => exact .inl ⟨⟨start, rfl⟩, fun _ member => absurd member List.not_mem_nil⟩
  | cons pair rest inductionHypothesis =>
    rcases fill_cons pair rest start with ⟨next, received, -, goes⟩ | ⟨problem, refused, stops⟩
    · rw [goes]
      rcases inductionHypothesis next with ⟨filled, all⟩ | ⟨other, behind, problem, refused, stops⟩
      · exact .inl ⟨filled, List.forall_mem_cons.mpr ⟨⟨_, received⟩, all⟩⟩
      · exact .inr ⟨other, List.mem_cons_of_mem pair behind, problem, refused, stops⟩
    · exact .inr ⟨pair, List.mem_cons_self, problem, refused, stops⟩

/-- If all columns of a table are fields, no row misses one. -/
theorem load_knows (known : ∀ column ∈ table.columns, model.Has column.name) (values : List Stored)
    (missing : String) :
    (load table values : Except StoreError (Entity model)) ≠
      .error (.unknownColumn model.tableName missing) := by
  intro failed
  rw [load_eq_fill] at failed
  rcases fill_cases (table.columns.zip values) (blank model) with
    ⟨⟨found, filled⟩, -⟩ | ⟨pair, member, problem, refused, stops⟩
  · cases filled.symm.trans failed
  · cases stops.symm.trans failed
    rcases Model.receive_refuses refused with ⟨reason, kind⟩ | ⟨unknown, -⟩
    · cases kind
    · exact unknown (known _ (List.of_mem_zip member).1)

/-- In a row with a value for each column, each column has its value. -/
theorem exists_mem_zip (full : values.length = table.columns.length) {column : Column}
    (member : column ∈ table.columns) : ∃ stored, (column, stored) ∈ table.columns.zip values := by
  have firsts : (table.columns.zip values).map Prod.fst = table.columns :=
    List.map_fst_zip (Nat.le_of_eq full.symm)
  rw [← firsts] at member
  obtain ⟨⟨_, stored⟩, among, rfl⟩ := List.mem_map.mp member
  exact ⟨stored, among⟩

/-- If a column of a table is no field, no row with a value for each column is loaded. A row that is
not refused for the kind of a value is refused for such a column. -/
theorem load_misses {column : Column} (member : column ∈ table.columns)
    (unknown : ¬ model.Has column.name) (full : values.length = table.columns.length) :
    ∃ problem, (load table values : Except StoreError (Entity model)) = .error problem ∧
      ((∀ reason, problem ≠ .typeError reason) → ∃ other ∈ table.columns,
        ¬ model.Has other.name ∧ problem = .unknownColumn model.tableName other.name) := by
  rw [load_eq_fill]
  rcases fill_cases (table.columns.zip values) (blank model) with
    ⟨-, all⟩ | ⟨pair, among, problem, refused, stops⟩
  · obtain ⟨stored, among⟩ := exists_mem_zip full member
    obtain ⟨received, receives⟩ := all _ among
    exact absurd receives (Model.receive_unknown unknown received)
  · refine ⟨problem, stops, fun otherwise => ?_⟩
    rcases Model.receive_refuses refused with ⟨reason, kind⟩ | ⟨stranger, names⟩
    · exact absurd kind (otherwise reason)
    · exact ⟨pair.1, (List.of_mem_zip among).1, stranger, names⟩

/-- What stands under the name of a column was received from it, and a name that is no column holds
nothing. -/
theorem load_holds (distinct : table.columnNames.Nodup)
    (full : values.length = table.columns.length) (loaded : load table values = .ok found) :
    (∀ column ∈ table.columns, ∃ stored, (column, stored) ∈ table.columns.zip values ∧
        model.receive column stored = .ok (found.get column.name)) ∧
      ∀ name, name ∉ table.columnNames → found.get name = .null := by
  have names : ((table.columns.zip values).map fun pair => pair.1.name) = table.columnNames := by
    have firsts : (table.columns.zip values).map Prod.fst = table.columns :=
      List.map_fst_zip (Nat.le_of_eq full.symm)
    calc ((table.columns.zip values).map fun pair => pair.1.name)
        = ((table.columns.zip values).map Prod.fst).map Column.name := by rw [List.map_map]; rfl
      _ = table.columnNames := by rw [firsts]; rfl
  rw [load_eq_fill] at loaded
  obtain ⟨stand, untouched⟩ := fill_ok (names ▸ distinct) loaded
  refine ⟨fun column member => ?_, fun name outside => ?_⟩
  · obtain ⟨stored, among⟩ := exists_mem_zip full member
    exact ⟨stored, among, stand _ among⟩
  · rw [untouched name (names ▸ outside)]
    exact blank_get name

/-! ### Drawing -/

variable {entity : Entity model} {isUpdate : Bool} {count : Nat} {row : List (String × Stored)}
  {column : Column}

/-- For a column that is no field null is drawn, which the column must allow. A generator does not
help: what it gives is refused. -/
theorem row_misses (written : (entity.row table isUpdate count).outcome = .ok row)
    (distinct : table.columnNames.Nodup) (member : column ∈ rowColumns table isUpdate)
    (unknown : ¬ model.Has column.name) :
    (column.name, .null) ∈ row ∧ column.nullable = true ∧ column.generator = none := by
  obtain ⟨values, drawn, complete, rfl⟩ := row_ok written
  rcases draw_cases (rowColumns table isUpdate) entity count with
    ⟨-, -, -, -, problem, -, -, -, ended, -⟩ | ⟨took, others, drawnToo, isDrawn⟩
  · cases ended.symm.trans drawn
  cases drawnToo.symm.trans drawn
  obtain ⟨value, among⟩ := exists_drawn isDrawn.columns_eq member
  have plain : column.generator = none := by
    by_contra generates
    obtain ⟨held, taken⟩ := took.taken _ (isDrawn.generated among generates)
    rw [Model.take_unknown unknown] at taken
    cases taken
  have apart : ((rowColumns table isUpdate).map Column.name).Nodup :=
    distinct.sublist (List.filter_sublist.map Column.name)
  have null : value = .null :=
    (isDrawn.held apart among plain).trans (entity.get_unknown (Model.type_of?_of_not_has unknown))
  subst null
  refine ⟨List.mem_map_of_mem among, ?_, plain⟩
  by_contra required
  have named := mem_missing.mpr ⟨column, among, Bool.eq_false_iff.mpr required, rfl⟩
  rw [complete] at named
  cases named

/-- For a column that is a field a value is drawn of which the field holds what it makes of it.
Without generator it is the value that the field holds. -/
theorem row_draws (written : (entity.row table isUpdate count).outcome = .ok row)
    (distinct : table.columnNames.Nodup) (member : column ∈ rowColumns table isUpdate)
    {type : FieldType} (typed : model.typeOf? column.name = some type) :
    ∃ given, (column.name, given.stored) ∈ row ∧
      type.convert given = .ok ((entity.row table isUpdate count).entity.get column.name) ∧
      (column.generator = none → given = entity.get column.name) := by
  obtain ⟨values, drawn, -, rfl⟩ := row_ok written
  have apart : ((rowColumns table isUpdate).map Column.name).Nodup :=
    distinct.sublist (List.filter_sublist.map Column.name)
  obtain ⟨given, among⟩ := exists_drawn (draw_columns drawn) member
  have gives := (draw_gives apart drawn).gives
  refine ⟨given, List.mem_map_of_mem among, (gives _ among).converts type typed, fun plain => ?_⟩
  rcases draw_cases (rowColumns table isUpdate) entity count with
    ⟨-, -, -, -, problem, -, -, -, ended, -⟩ | ⟨-, others, drawnToo, isDrawn⟩
  · cases ended.symm.trans drawn
  · cases drawnToo.symm.trans drawn
    exact isDrawn.held apart among plain

end Entity

/-! ### Handles of a schema -/

/-- A handle through which every field of the model is stored and loaded, and nothing else. -/
structure Handle.Fits (handle : Handle model) : Prop where
  columns : handle.table.columns = model.columns
  /-- No row is refused for a column that the model does not have. -/
  knows : ∀ values missing, (Entity.load handle.table values : Except StoreError (Entity model)) ≠
    .error (.unknownColumn model.tableName missing)
  /-- No value is drawn for a column that the model does not have. -/
  draws : ∀ column ∈ handle.table.columns, model.Has column.name
  /-- A row has the value of every field, except of those that the engine numbers and, for an
  update, of the key. -/
  stores : ∀ field ∈ model.fields, field.column.autoincrement = false →
    ∀ (entity : Entity model) isUpdate count row,
      (isUpdate = true → field.column.primaryKey = false) →
      (entity.row handle.table isUpdate count).outcome = .ok row → ∃ given,
        (field.name, given.stored) ∈ row ∧
        field.type.convert given =
          .ok ((entity.row handle.table isUpdate count).entity.get field.name) ∧
        (field.column.generator = none → given = entity.get field.name)
  /-- An entity has in every field what the field makes of the value of its column. -/
  loads : ∀ field ∈ model.fields, ∀ values (found : Entity model),
    values.length = handle.table.columns.length → Entity.load handle.table values = .ok found →
      ∃ stored loaded, (field.column, stored) ∈ handle.table.columns.zip values ∧
        stored.load field.column.type = .ok loaded ∧
        field.type.convert loaded = .ok (found.get field.name)

/-- A column of a handle's table that the model does not have: rows have null there, and no row is
loaded. -/
structure Handle.Blocks (handle : Handle model) (column : Column) : Prop where
  draws : ∀ (entity : Entity model) isUpdate count row,
    column ∈ Entity.rowColumns handle.table isUpdate →
    (entity.row handle.table isUpdate count).outcome = .ok row → (column.name, .null) ∈ row
  refuses : ∀ values, values.length = handle.table.columns.length → ∃ problem,
    (Entity.load handle.table values : Except StoreError (Entity model)) = .error problem ∧
      ((∀ reason, problem ≠ .typeError reason) → ∃ other ∈ handle.table.columns,
        ¬ model.Has other.name ∧ problem = .unknownColumn model.tableName other.name)

/-- A field that a handle's table has no column for: rows do not have it, and loaded entities hold
nothing there. -/
structure Handle.Loses (handle : Handle model) (field : Field) : Prop where
  stores : ∀ (entity : Entity model) isUpdate count row,
    (entity.row handle.table isUpdate count).outcome = .ok row → field.name ∉ row.map Prod.fst
  loads : ∀ values (found : Entity model), values.length = handle.table.columns.length →
    Entity.load handle.table values = .ok found → found.get field.name = .null

namespace Handle

variable {handle : Handle model} (distinct : handle.table.columnNames.Nodup)

include distinct

/-- A handle of a table with the columns of the model fits. -/
theorem fits_of_columns (same : handle.table.columns = model.columns) : handle.Fits := by
  have names : model.fields.map Field.name = handle.table.columnNames := by
    rw [Table.columnNames, same, Model.columns, List.map_map]
    rfl
  have typed : ∀ field ∈ model.fields, model.typeOf? field.name = some field.type :=
    fun _ member => Model.type_of?_of_field (names ▸ distinct) member
  have among : ∀ field ∈ model.fields, field.column ∈ handle.table.columns := by
    intro field member
    rw [same]
    exact List.mem_map_of_mem member
  have known : ∀ column ∈ handle.table.columns, model.Has column.name := by
    intro column member
    rw [Model.Has, names]
    exact List.mem_map_of_mem member
  refine ⟨same, Entity.load_knows known, known, ?_, ?_⟩
  · intro field member engineless entity isUpdate count row keyless written
    refine Entity.row_draws written distinct (List.mem_filter.mpr ⟨among field member, ?_⟩)
      (typed field member)
    cases isUpdate with
    | false => simp [engineless]
    | true => simp [engineless, keyless rfl]
  · intro field member values found full loaded
    obtain ⟨stored, inRow, received⟩ :=
      (Entity.load_holds distinct full loaded).1 field.column (among field member)
    obtain ⟨value, read, taken⟩ := Engine.bind_ok received
    have field_type : model.typeOf? field.column.name = some field.type := typed field member
    rw [Model.take, field_type] at taken
    exact ⟨stored, value, inRow, read, taken⟩

/-- A column that the model does not have blocks the rows of its handle. -/
theorem blocks {column : Column} (member : column ∈ handle.table.columns)
    (unknown : ¬ model.Has column.name) : handle.Blocks column where
  draws _ _ _ _ visited written := (Entity.row_misses written distinct visited unknown).1
  refuses _ full := Entity.load_misses member unknown full

/-- A field without a column is lost. -/
theorem loses {field : Field} (absent : field.name ∉ handle.table.columnNames) :
    handle.Loses field where
  stores entity isUpdate count row written named := by
    rw [Entity.row_columns written] at named
    exact absent ((List.filter_sublist.map Column.name).subset named)
  loads values found full loaded := (Entity.load_holds distinct full loaded).2 field.name absent

end Handle

namespace Schema

/-- A schema has a handle for a model if it has a table of the model's name, whatever the columns of
the table are. -/
theorem handle_is_ok_iff (schema : Schema) (model : Model) :
    (∃ handle, schema.handle model = .ok handle) ↔
      ∃ table ∈ schema.tables, table.name = model.tableName := by
  unfold handle table
  constructor
  · rintro ⟨handle, handed⟩
    cases finds : schema.tables.find? fun table => table.name == model.tableName with
    | none => simp [finds] at handed
    | some table =>
      exact ⟨table, List.mem_of_find?_eq_some finds, by simpa using List.find?_some finds⟩
  · rintro ⟨table, member, named⟩
    have found : (schema.tables.find? fun table => table.name == model.tableName).isSome := by
      rw [List.find?_isSome]
      exact ⟨table, member, by simp [named]⟩
    obtain ⟨first, finds⟩ := Option.isSome_iff_exists.mp found
    have same : first.name = model.tableName := by simpa using List.find?_some finds
    exact ⟨⟨first, same⟩, by simp [finds, same]⟩

/-- The table of a handle is one of the schema. -/
theorem handle_table {schema : Schema} {handle : Handle model}
    (handed : schema.handle model = .ok handle) : handle.table ∈ schema.tables := by
  unfold Schema.handle Schema.table at handed
  cases finds : schema.tables.find? fun table => table.name == model.tableName with
  | none => simp [finds] at handed
  | some table =>
    simp only [finds] at handed
    split at handed
    · cases handed
      exact List.mem_of_find?_eq_some finds
    · cases handed

/-- The handle of a model in an accepted schema is for a declared table of the model's name. It fits
the model exactly if the table that the model describes was declared. Otherwise each of its columns
that the model does not have keeps all rows from being loaded, and each field without a column is
lost.

Proof: the names of the declared tables are different, so the table of the handle is the one that
the model describes exactly if that one was declared. -/
theorem handle_fits_declared_model {tables : List Table} {schema : Schema} {handle : Handle model}
    (accepted : ofTables tables = .ok schema) (handed : schema.handle model = .ok handle) :
    handle.table ∈ tables ∧ handle.table.name = model.tableName ∧
      (handle.Fits ↔ model.table ∈ tables) ∧
      (∀ column ∈ handle.table.columns, ¬ model.Has column.name → handle.Blocks column) ∧
      ∀ field ∈ model.fields, field.name ∉ handle.table.columnNames → handle.Loses field := by
  have member := handle_table handed
  obtain ⟨names, columns, -⟩ := of_tables_names accepted
  have distinct := columns _ member
  rw [of_tables_tables accepted] at member names
  refine ⟨member, handle.named, ⟨fun fits => ?_, fun declared => ?_⟩,
    fun column among unknown => Handle.blocks distinct among unknown,
    fun field _ absent => Handle.loses distinct absent⟩
  · have same : handle.table = model.table := by
      cases table : handle.table with
      | mk name columns =>
        have named := handle.named
        have fitting := fits.columns
        rw [table] at named fitting
        rw [Model.table, ← named, ← fitting]
    exact same ▸ member
  · have same : handle.table = model.table :=
      List.inj_on_of_nodup_map names member declared handle.named
    exact Handle.fits_of_columns distinct (congrArg Table.columns same)

end Schema

/-! ### A larder -/

namespace Larder

/-- The label of a jar. -/
def label : Column := { name := "label", type := .string, primaryKey := true }

/-- The weight of a jar, if it was weighed. -/
def weight : Column := { name := "weight", type := .integer, nullable := true }

/-- The shelf on which a jar stands, of which the model knows nothing. -/
def shelf : Column := { name := "shelf", type := .string, nullable := true }

/-- A jar with its label and its weight. -/
def jarModel : Model := ⟨"jar", [⟨.text, label⟩, ⟨.integer, weight⟩]⟩

/-- A table under the name of the jars, with their shelf and without their weight. -/
def placed : Table := ⟨"jar", [label, shelf]⟩

/-- A jar of plums. -/
def plums : Entity jarModel :=
  ⟨[⟨⟨.text, label⟩, .text "plums", rfl⟩, ⟨⟨.integer, weight⟩, .integer 300, rfl⟩], rfl⟩

end Larder

open Larder in
/-- Where the jars were declared by their model, their handle fits them. -/
theorem Schema.handle_fits_jars :
    Schema.ofTables [jarModel.table] = .ok ⟨[jarModel.table]⟩ ∧
      Schema.handle ⟨[jarModel.table]⟩ jarModel = .ok ⟨jarModel.table, rfl⟩ ∧
      (⟨jarModel.table, rfl⟩ : Handle jarModel).Fits := by
  have accepted : Schema.ofTables [jarModel.table] = .ok ⟨[jarModel.table]⟩ :=
    Schema.of_tables_ok (by decide +kernel) (by decide +kernel)
  have handed : Schema.handle ⟨[jarModel.table]⟩ jarModel = .ok ⟨jarModel.table, rfl⟩ := rfl
  obtain ⟨-, -, fits, -, -⟩ := Schema.handle_fits_declared_model accepted handed
  exact ⟨accepted, handed, fits.mpr List.mem_cons_self⟩

open Larder in
/-- Where another table was declared under their name, their handle has its columns. A jar is stored
without its weight, and what was stored cannot be loaded. -/
theorem Schema.handle_misfits_jars :
    Schema.ofTables [placed] = .ok ⟨[placed]⟩ ∧
      Schema.handle ⟨[placed]⟩ jarModel = .ok ⟨placed, rfl⟩ ∧
      placed.columnNames ≠ jarModel.columns.map Column.name ∧
      (plums.row placed false 0).outcome = .ok [("label", .text "plums"), ("shelf", .null)] ∧
      (Entity.load placed [.text "plums", .null] : Except StoreError (Entity jarModel)) =
        .error (.unknownColumn "jar" "shelf") :=
  ⟨Schema.of_tables_ok (by decide +kernel) (by decide +kernel), rfl, by decide, rfl, rfl⟩

end RecordStore
