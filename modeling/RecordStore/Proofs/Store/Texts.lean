import RecordStore.Proofs.Query.Keys
import RecordStore.Proofs.Query.Marks
import RecordStore.Proofs.Query.Shapes
import RecordStore.Proofs.Schema.Names
import RecordStore.Proofs.Store.Mutations

/-!
# Texts of statements

What a caller gives does not come into the text of a statement. The text of a query depends on the
shape of the request, and of the words of the caller it has only names of columns of the table. The
text of a statement about a single row depends on the table and on which parts of the key are null.
The values themselves stand among the parameters.
-/

namespace RecordStore

open Engine Sql Wording

/-! ### Statements about single rows -/

section Keys

variable {table : Table} {given left right : String → Value}

/-- Which of the values that are given for the key columns are null. -/
def Table.keyNulls (table : Table) (given : String → Value) : List Bool :=
  table.primaryKey.map fun column => (given column).isNull

/-- The values that are given for the key columns and that are not null. -/
def Table.keyOperands (table : Table) (given : String → Value) : List Stored :=
  ((table.primaryKey.map given).filter fun value => !value.isNull).map Value.stored

/-- No key column is taken for an operator. -/
def Table.HasPlainKey (table : Table) : Prop :=
  ∀ column ∈ table.primaryKey, Operator.nameOfKey? column = none

/-- The shape of equalities is the list of their columns, each with whether it asks for null. -/
theorem Criteria.equating_shape {columns : List String}
    (plain : ∀ column ∈ columns, Operator.nameOfKey? column = none) :
    (equating given columns).shape =
      columns.map fun column => .plain column (some (given column).isNull) := by
  unfold shape equating
  rw [List.map_map]
  refine List.map_congr_left fun column member => ?_
  simp only [Function.comp_apply, EntryShape.of, plain column member]

/-- Keys with nulls in the same places ask for the same, but for their values. -/
theorem Criteria.equating_same_shape (plain : table.HasPlainKey)
    (same : table.keyNulls left = table.keyNulls right) :
    (equating left table.primaryKey).shape = (equating right table.primaryKey).shape := by
  rw [equating_shape plain, equating_shape plain]
  refine List.map_congr_left fun column member => ?_
  rw [List.map_inj_left.mp same column member]

/-- The skeleton of a condition of a key depends on which parts are null alone. -/
theorem Criteria.condition_skeleton (action : String) (plain : table.HasPlainKey)
    (same : table.keyNulls left = table.keyNulls right) :
    ((equating left table.primaryKey).condition table action).map Expression.skeleton =
      ((equating right table.primaryKey).condition table action).map Expression.skeleton := by
  refine bind_agrees (stated_condition?_skeleton
    (congrArg some (equating_same_shape plain same)) rfl) fun one other conditions => ?_
  cases one with
  | none =>
    rw [Option.map_eq_none_iff.mp conditions.symm]
  | some condition =>
    obtain ⟨another, rfl, skeletons⟩ := Option.map_eq_some_iff.mp conditions.symm
    exact congrArg Except.ok skeletons.symm

/-- The operands of a conjunction are those of its parts. -/
theorem conjunction?_operands (conditions : List Condition) :
    (Expression.conjunction? conditions).elim [] Expression.operands =
      conditions.flatMap Expression.operands := by
  match conditions with
  | [] => rfl
  | [only] => simp [Expression.conjunction?]
  | first :: second :: rest => exact Expression.operands_chain first (second :: rest)

/-- The operands of the condition that a key means are its values, but for the nulls. -/
theorem Criteria.equating_operands {columns : List String} {conditions : List Condition}
    (plain : ∀ column ∈ columns, Operator.nameOfKey? column = none)
    (made : (equating given columns).entries.mapM (Condition.ofEntry table none) = .ok conditions) :
    conditions.flatMap Expression.operands =
      ((columns.map given).filter fun value => !value.isNull).map Value.stored := by
  induction columns generalizing conditions with
  | nil =>
    cases made
    rfl
  | cons column rest inductionHypothesis =>
    change List.mapM _ ((column, .scalar (given column)) :: (equating given rest).entries) =
      _ at made
    rw [List.mapM_cons] at made
    obtain ⟨condition, first, made⟩ := bind_ok made
    obtain ⟨others, later, ended⟩ := bind_ok made
    cases ended
    have head : condition.operands =
        (([given column]).filter fun value => !value.isNull).map Value.stored := by
      simp only [Condition.ofEntry, plain column List.mem_cons_self, Condition.equality] at first
      obtain ⟨-, -, first⟩ := bind_ok first
      cases null : (given column).isNull with
      | true =>
        rw [null] at first
        cases first
        simp [Expression.operands, null]
      | false =>
        rw [null] at first
        cases first
        simp [Expression.operands, null]
    rw [List.flatMap_cons, head, inductionHypothesis
      (fun other member => plain other (List.mem_cons_of_mem column member)) later,
      ← List.map_append, ← List.filter_append]
    rfl

/-- The operands of what a key states are its parts that are not null. -/
theorem stated_condition?_operands {whole : Option Condition} (plain : table.HasPlainKey)
    (stated : statedCondition? (some (Criteria.equating given table.primaryKey)) none table none =
      .ok whole) : whole.elim [] Expression.operands = table.keyOperands given := by
  obtain ⟨conditions, all, ended⟩ := bind_ok stated
  cases ended
  obtain ⟨confined, asked, rfl, confinedMade, askedMade⟩ := stated_conditions_ok all
  cases confinedMade
  simp only [Option.elim_some, Criteria.conditions] at askedMade
  split at askedMade
  · cases askedMade
  · rw [conjunction?_operands]
    exact Criteria.equating_operands plain askedMade

/-- The operands of a condition of a key are its parts that are not null. -/
theorem Criteria.condition_operands {action : String} {condition : Condition}
    (plain : table.HasPlainKey)
    (made : (equating given table.primaryKey).condition table action = .ok condition) :
    condition.operands = table.keyOperands given := by
  obtain ⟨whole, stated, ended⟩ := bind_ok made
  cases whole with
  | none => cases ended
  | some whole =>
    cases ended
    exact stated_condition?_operands plain stated

end Keys

section Changes

variable {table : Table} {left right row : List (String × Stored)} {one other : Condition}

/-- The text of an insertion depends on the columns alone. -/
theorem Table.insertion_text (columns : left.map Prod.fst = right.map Prod.fst) :
    (table.insertion left).render = (table.insertion right).render := by
  have written : ∀ row : List (String × Stored), (table.insertion row).skeleton = .insert {
      table := table.name
      columns := if (row.map Prod.fst).isEmpty then none else some (row.map Prod.fst)
      rows := if (row.map Prod.fst).isEmpty then .defaults
        else .values [(row.map Prod.fst).map fun _ => .operand ()] } := by
    intro row
    cases row with
    | nil => rfl
    | cons first rest =>
      simp only [insertion, Change.skeleton, Change.mapOperands, Rows.mapOperands,
        List.map_cons, List.isEmpty_cons, Bool.false_eq_true, if_false, List.map_map,
        Function.comp_def, List.map_nil, Expression.mapOperands]
  rw [← Change.render_skeleton, ← Change.render_skeleton (table.insertion right), written, written,
    columns]

/-- The text of an update depends on the columns and the skeleton of its condition. -/
theorem Table.modification_text (columns : left.map Prod.fst = right.map Prod.fst)
    (conditions : one.skeleton = other.skeleton) :
    (table.modification left one).render = (table.modification right other).render := by
  have written : ∀ (row : List (String × Stored)) (condition : Condition),
      (table.modification row condition).skeleton = .update {
        table := table.name
        assignments := (row.map Prod.fst).map fun column => (column, .operand ())
        conditions := some [condition.skeleton] } := by
    intro row condition
    simp only [modification, Change.skeleton, Change.mapOperands, List.map_map, Function.comp_def,
      Expression.mapOperands]
    rfl
  rw [← Change.render_skeleton, ← Change.render_skeleton (table.modification right other), written,
    written, columns, conditions]

/-- The text of a removal depends on the skeleton of its condition. -/
theorem Table.deletion_text (conditions : one.skeleton = other.skeleton) :
    (table.deletion one).render = (table.deletion other).render := by
  have written : ∀ condition : Condition, (table.deletion condition).skeleton =
      .delete { table := table.name, conditions := some [condition.skeleton] } := fun _ => rfl
  rw [← Change.render_skeleton, ← Change.render_skeleton (table.deletion other), written, written,
    conditions]

/-- The operands of an insertion are the values of its row. -/
theorem Table.insertion_operands (table : Table) (row : List (String × Stored)) :
    (table.insertion row).operands = row.map Prod.snd := by
  cases row with
  | nil => rfl
  | cons first rest =>
    change [(first :: rest).map fun entry => Expression.operand entry.2].flatMap
      (fun row => row.flatMap Expression.operands) = _
    rw [List.flatMap_singleton, List.flatMap_map]
    exact List.map_eq_flatMap.symm

/-- The operands of an update are the values of its row, and then those of its condition. -/
theorem Table.modification_operands (table : Table) (row : List (String × Stored))
    (condition : Condition) :
    (table.modification row condition).operands = row.map Prod.snd ++ condition.operands := by
  have assigned : (row.map fun entry => (entry.1, Expression.operand entry.2)).flatMap
      (fun assignment => assignment.2.operands) = row.map Prod.snd := by
    rw [List.flatMap_map]
    exact List.map_eq_flatMap.symm
  simp only [modification, Change.operands, conditionOperands, assigned, List.flatMap_singleton]

/-- The operands of a removal are those of its condition. -/
theorem Table.deletion_operands (table : Table) (condition : Condition) :
    (table.deletion condition).operands = condition.operands := by
  simp [deletion, Change.operands, conditionOperands]

end Changes

/-! ### What operations run -/

/-- Between two stores one statement was run at most, and it had this text. -/
def Store.RanAtMost (text : String) (before after : Store) : Prop :=
  after.host.log = before.host.log ∨
    ∃ accepted, after.host.log = before.host.log ++ [⟨accepted, text⟩]

namespace Operation

variable {α : Type} {table : Table} {text : String}

/-- On a connection at most the one statement runs. -/
theorem on_connection_ran_at_most (statement : String) (isEnd : Bool) (act : Access → Outcome α)
    (store : Store) :
    store.RanAtMost statement ((onConnection statement isEnd act).apply store).2 := by
  unfold onConnection
  simp only [apply_of]
  split
  · exact .inl rfl
  · split
    · exact .inr ⟨true, rfl⟩
    · exact .inr ⟨false, rfl⟩

/-- Executing a change runs at most its text. -/
theorem executing_ran_at_most {change : Change Stored} (written : change.render = text)
    (store : Store) :
    store.RanAtMost text ((executing (.change change)).apply store).2 :=
  written ▸ on_connection_ran_at_most _ _ _ store

/-- Fetching rows runs at most the text of the query. -/
theorem fetching_ran_at_most {model : Model} {query : Select Stored} (written : query.render = text)
    (store : Store) :
    store.RanAtMost text ((fetching table query : Operation (List (Entity model))).apply store).2 :=
  bind_keeps (written ▸ on_connection_ran_at_most _ _ _ store) fun _ _ _ ran => ran

/-- What only goes on if something can be made runs at most what goes on. -/
theorem of_except_ran_at_most {made : Except StoreError α} {β : Type} {next : α → Operation β}
    {store : Store}
    (runs : ∀ value, made = .ok value → store.RanAtMost text ((next value).apply store).2) :
    store.RanAtMost text ((ofExcept made >>= next).apply store).2 := by
  rw [apply_bind, apply_of_except]
  cases made with
  | error problem => exact .inl rfl
  | ok value => exact runs value rfl

end Operation

section Rows

variable {model : Model} {table : Table} {text : String} {store : Store}

/-- An addition runs at most the text of its insertion. -/
theorem Store.add_ran_at_most {handle : Handle model} {entity : Entity model}
    (texts : ∀ row, (entity.row handle.table false store.host.count).outcome = .ok row →
      (handle.table.insertion row).render = text) :
    store.RanAtMost text (store.add handle entity).2 :=
  add_ends_in (.inl rfl) fun row drawn => Operation.executing_ran_at_most (texts row drawn)
    (store.withCount (entity.row handle.table false store.host.count).count)

/-- Writing a row over runs at most the text of its update. -/
theorem Store.overwrite_ran_at_most {criteria : Criteria} {row : List (String × Stored)}
    (texts : ∀ condition, criteria.condition table "update" = .ok condition →
      (table.modification row condition).render = text) (store : Store) :
    store.RanAtMost text ((overwrite table criteria row).apply store).2 :=
  Operation.overwrite_ends_in (.inl rfl) fun condition made =>
    Operation.executing_ran_at_most (texts condition made) store

/-- An update runs at most the text of its update. -/
theorem Store.update_ran_at_most {handle : Handle model} {entity : Entity model}
    (texts : ∀ criteria row condition, (entity.key handle.table).criteria handle.table =
      .ok criteria → (entity.row handle.table true store.host.count).outcome = .ok row →
      criteria.condition handle.table "update" = .ok condition →
      (handle.table.modification row condition).render = text) :
    store.RanAtMost text (store.update handle entity).2 :=
  update_ends_in (.inl rfl) (.inl rfl) fun criteria row accepts drawn =>
    overwrite_ran_at_most (fun condition made => texts criteria row condition accepts drawn made)
      (store.withCount (entity.row handle.table true store.host.count).count)

/-- A removal runs at most the text of its deletion. -/
theorem Operation.remove_ran_at_most {handle : Handle model} {key : Key}
    (texts : ∀ criteria condition, key.criteria handle.table = .ok criteria →
      criteria.condition handle.table "remove" = .ok condition →
      (handle.table.deletion condition).render = text) :
    store.RanAtMost text ((remove handle key).apply store).2 :=
  of_except_ran_at_most fun criteria accepts => of_except_ran_at_most fun condition made =>
    executing_ran_at_most (texts criteria condition accepts made) store

/-- Finding one row runs at most the text of its query. -/
theorem Operation.find_one_ran_at_most {handle : Handle model} {key : Key}
    (texts : ∀ criteria query, key.criteria handle.table = .ok criteria →
      Request.findingOne handle.table criteria = .ok query → query.render = text) :
    store.RanAtMost text ((findOne handle key).apply store).2 :=
  of_except_ran_at_most fun criteria accepts => of_except_ran_at_most fun query made =>
    bind_keeps (fetching_ran_at_most (texts criteria query accepts made) store) fun _ _ _ ran => ran

end Rows

/-! ### Texts of a table -/

/-- Texts of the statements about single rows of a table: of the insertion, and of the statements
about the row of a key, given which of its parts are null. -/
structure RowTexts where
  insertion : String
  modification : List Bool → String
  deletion : List Bool → String
  selection : List Bool → String

/-- Adding, changing, removing and finding one row of a table run nothing but these texts. -/
structure RowTexts.AreRunFor (texts : RowTexts) (table : Table) : Prop where
  add : ∀ {model : Model} (handle : Handle model) (entity : Entity model) (store : Store),
    handle.table = table → store.RanAtMost texts.insertion (store.add handle entity).2
  update : ∀ {model : Model} (handle : Handle model) (entity : Entity model) (store : Store),
    handle.table = table →
      store.RanAtMost (texts.modification (table.keyNulls entity.get))
        (store.update handle entity).2
  remove : ∀ {model : Model} (handle : Handle model) (key : Key) (store : Store),
    handle.table = table →
      store.RanAtMost (texts.deletion (table.keyNulls key.value))
        ((Operation.remove handle key).apply store).2
  findOne : ∀ {model : Model} (handle : Handle model) (key : Key) (store : Store),
    handle.table = table →
      store.RanAtMost (texts.selection (table.keyNulls key.value))
        ((Operation.findOne handle key).apply store).2

/-- In the statements that have these texts the drawn values and the parts of the key are the
operands. -/
structure RowTexts.TakeOperandsOf (texts : RowTexts) (table : Table) : Prop where
  insertion : ∀ {model : Model} (entity : Entity model) count row,
    (entity.row table false count).outcome = .ok row →
      (table.insertion row).fragment = ⟨texts.insertion, row.map Prod.snd⟩
  modification : ∀ {model : Model} (entity : Entity model) count row criteria condition,
    (entity.row table true count).outcome = .ok row →
      (entity.key table).criteria table = .ok criteria →
        criteria.condition table "update" = .ok condition →
          (table.modification row condition).fragment =
            ⟨texts.modification (table.keyNulls entity.get),
              row.map Prod.snd ++ table.keyOperands entity.get⟩
  deletion : ∀ (key : Key) criteria condition, key.criteria table = .ok criteria →
    criteria.condition table "remove" = .ok condition →
      (table.deletion condition).fragment =
        ⟨texts.deletion (table.keyNulls key.value), table.keyOperands key.value⟩
  selection : ∀ (key : Key) criteria query, key.criteria table = .ok criteria →
    Request.findingOne table criteria = .ok query →
      query.fragment =
        ⟨texts.selection (table.keyNulls key.value), table.keyOperands key.value⟩

section Texts

variable {table : Table}

/-- What is read off what keys with nulls in the same places agree on depends on the nulls alone. -/
theorem exists_text_of_nulls {α β : Type} {make : (String → Value) → Except StoreError α}
    {reduce : α → β} (render : α → String)
    (agree : ∀ left right, table.keyNulls left = table.keyNulls right →
      (make left).map reduce = (make right).map reduce)
    (reads : ∀ one other, reduce one = reduce other → render one = render other) :
    ∃ text : List Bool → String, ∀ given made, make given = .ok made →
      render made = text (table.keyNulls given) := by
  let written (given : String → Value) : String := (make given).toOption.elim "" render
  have factors : written.FactorsThrough table.keyNulls := by
    intro left right same
    have agreed := agree left right same
    cases one : make left with
    | error problem =>
      cases other : make right with
      | error another =>
        simp only [written, one, other]
        rfl
      | ok made =>
        rw [one, other] at agreed
        cases agreed
    | ok made =>
      cases other : make right with
      | error problem =>
        rw [one, other] at agreed
        cases agreed
      | ok another =>
        rw [one, other] at agreed
        simp only [written, one, other]
        exact reads made another (Except.ok.inj agreed)
  refine ⟨Function.extend table.keyNulls written fun _ => "", fun given made makes => ?_⟩
  rw [factors.extend_apply]
  simp only [written, makes]
  rfl

/-- The skeleton of the query for the row of a key depends on which parts are null alone. -/
theorem Request.finding_one_skeleton (plain : table.HasPlainKey) {left right : String → Value}
    (same : table.keyNulls left = table.keyNulls right) :
    (findingOne table (Criteria.equating left table.primaryKey)).map Select.skeleton =
      (findingOne table (Criteria.equating right table.primaryKey)).map Select.skeleton := by
  have shapes : Request.shape { criteria := some (Criteria.equating left table.primaryKey) } =
      Request.shape { criteria := some (Criteria.equating right table.primaryKey) } := by
    simp only [shape, Option.map_some, Criteria.equating_same_shape plain same]
  refine bind_agrees (plain_rows_skeleton shapes) fun one other rows => ?_
  exact congrArg (fun rows : Select Unit => Except.ok { rows with
    columns := (resultColumns table none).map (ResultColumn.mapOperands fun _ => ())
    limit := some (.number 1) }) rows

/-- The operands of this query are the parts of the key that are not null. -/
theorem Request.finding_one_operands (plain : table.HasPlainKey) {given : String → Value}
    {query : Select Stored}
    (made : findingOne table (Criteria.equating given table.primaryKey) = .ok query) :
    query.operands = table.keyOperands given := by
  obtain ⟨rows, rowsMade, ended⟩ := bind_ok made
  cases ended
  obtain ⟨condition, stated, ended⟩ := bind_ok rowsMade
  cases ended
  rw [← stated_condition?_operands plain stated]
  cases condition <;>
    simp [Select.operands, Select.rowOperands, result_columns_operands, conditionOperands,
      Expression.operands]

/-- Statements that have these texts are all that is run, since each of the four calls writes one
statement at most. -/
theorem RowTexts.TakeOperandsOf.are_run_for {texts : RowTexts}
    (takes : texts.TakeOperandsOf table) : texts.AreRunFor table where
  add := by
    rintro model handle entity store rfl
    exact Store.add_ran_at_most fun row drawn =>
      congrArg Fragment.text (takes.insertion entity _ row drawn)
  update := by
    rintro model handle entity store rfl
    exact Store.update_ran_at_most fun criteria row condition accepts drawn made =>
      congrArg Fragment.text (takes.modification entity _ row criteria condition drawn accepts made)
  remove := by
    rintro model handle key store rfl
    exact Operation.remove_ran_at_most fun criteria condition accepts made =>
      congrArg Fragment.text (takes.deletion key criteria condition accepts made)
  findOne := by
    rintro model handle key store rfl
    exact Operation.find_one_ran_at_most fun criteria query accepts made =>
      congrArg Fragment.text (takes.selection key criteria query accepts made)

/-- A table with a row of nulls for the columns that a row with its generators has: it writes the
texts of all rows. -/
def Table.blankRow (table : Table) (isUpdate : Bool) : List (String × Stored) :=
  (Entity.rowColumns table isUpdate).map fun column => (column.name, .null)

/-- Every drawn row has the columns of the blank one. -/
theorem Table.blank_row_columns {model : Model} {entity : Entity model} {isUpdate : Bool}
    {count : Nat}
    {row : List (String × Stored)} (drawn : (entity.row table isUpdate count).outcome = .ok row) :
    row.map Prod.fst = (table.blankRow isUpdate).map Prod.fst := by
  rw [Entity.row_columns drawn, blankRow, List.map_map]
  rfl

/-- What the key of an entity asks for is the value of each of its columns. -/
theorem Entity.key_asks (distinct : table.primaryKey.Nodup) {model : Model} {entity : Entity model}
    {criteria : Criteria} (accepts : (entity.key table).criteria table = .ok criteria) :
    criteria = Criteria.equating entity.get table.primaryKey := by
  have keyed := (Key.criteria_ok distinct accepts).1
  exact Except.ok.inj (accepts.symm.trans (Entity.key_criteria keyed distinct))

/-- Every table without a fault has texts for the statements about its rows. The text of an
insertion is that of the blank row. The others depend on the key as well, but only on which of its
parts are null. -/
theorem exists_row_texts (faultless : table.fault? = none) :
    ∃ texts : RowTexts, texts.TakeOperandsOf table := by
  obtain ⟨distinct, known⟩ := Table.primary_key_plain (Table.is_admitted_of_fault? faultless)
    (Table.column_names_nodup faultless)
  have plain : table.HasPlainKey := fun column inKey => (known column inKey).2
  obtain ⟨modification, modifies⟩ := exists_text_of_nulls
    (fun condition => (table.modification (table.blankRow true) condition).render)
    (fun _ _ => Criteria.condition_skeleton "update" plain)
    fun _ _ same => Table.modification_text rfl same
  obtain ⟨deletion, deletes⟩ := exists_text_of_nulls
    (fun condition => (table.deletion condition).render)
    (fun _ _ => Criteria.condition_skeleton "remove" plain)
    fun _ _ same => Table.deletion_text same
  obtain ⟨selection, selects⟩ := exists_text_of_nulls Select.render
    (fun _ _ => Request.finding_one_skeleton plain)
    fun one other same => by rw [← Select.render_skeleton, same, Select.render_skeleton]
  refine ⟨⟨(table.insertion (table.blankRow false)).render, modification, deletion, selection⟩,
    ⟨?_, ?_, ?_, ?_⟩⟩
  · intro model entity count row drawn
    exact congrArg₂ Fragment.mk (Table.insertion_text (Table.blank_row_columns drawn))
      (table.insertion_operands row)
  · intro model entity count row criteria condition drawn accepts made
    rw [Entity.key_asks distinct accepts] at made
    refine congrArg₂ Fragment.mk ?_ ?_
    · exact (Table.modification_text (Table.blank_row_columns drawn) rfl).trans (modifies _ _ made)
    · rw [Table.modification_operands, Criteria.condition_operands plain made]
  · intro key criteria condition accepts made
    rw [(Key.criteria_ok distinct accepts).2] at made
    refine congrArg₂ Fragment.mk (deletes _ _ made) ?_
    rw [Table.deletion_operands, Criteria.condition_operands plain made]
  · intro key criteria query accepts made
    rw [(Key.criteria_ok distinct accepts).2] at made
    exact congrArg₂ Fragment.mk (selects _ _ made) (Request.finding_one_operands plain made)

end Texts

/-- Values stay out of texts. For a table of a schema, requests of one shape compile to one text,
for counting and for whichever pages, or they are refused alike; of the caller's words a query has
only names of columns, and every value that it asks for is an operand, as are the term and the page.
The statement that adds a row has one text, and those that change, remove and find the row of a key
have one for each choice of null parts of the key; the values are their operands. Proof: a text is
the text of a skeleton, which depends on the shape alone. -/
theorem values_stay_out_of_texts {tables : List Table} {schema : Schema} {table : Table}
    (accepted : Schema.ofTables tables = .ok schema) (member : table ∈ schema.tables) :
    (∀ left right : Request, left.shape = right.shape →
      (left.counting table).map Select.render = (right.counting table).map Select.render ∧
      ∀ page another, (left.finding table page).map Select.render =
        (right.finding table another).map Select.render) ∧
    (∀ request query, Request.counting request table = .ok query →
      query.operands = (marks (request.countingWording table)).map Mark.value ∧
      ∀ name ∈ request.shape.columns, name ∈ table.columnNames ∧ isIdentifier name = true) ∧
    (∀ request page query, Request.finding request table page = .ok query →
      query.operands = (marks (request.findingWording table page)).map Mark.value ∧
      ∀ name ∈ request.shape.columns ++ request.shape.sortColumns,
        name ∈ table.columnNames ∧ isIdentifier name = true) ∧
    ∃ texts : RowTexts, texts.AreRunFor table ∧ texts.TakeOperandsOf table := by
  have faultless := Schema.of_tables_fault? accepted table member
  have unmarked := Table.has_unmarked_names_of_fault? faultless
  have admitted := Table.is_admitted_of_fault? faultless
  have named : ∀ name ∈ table.columnNames, name ∈ table.columnNames ∧ isIdentifier name = true := by
    intro name among
    obtain ⟨column, isColumn, rfl⟩ := List.mem_map.mp among
    exact ⟨among, (admitted.columns column isColumn).identifier⟩
  have texts : ∀ left right : Except StoreError (Select Stored),
      left.map Select.skeleton = right.map Select.skeleton →
        left.map Select.render = right.map Select.render := by
    intro left right same
    have written : ∀ made : Except StoreError (Select Stored),
        made.map Select.render = (made.map Select.skeleton).map Select.render := by
      intro made
      cases made with
      | error problem => rfl
      | ok query => exact congrArg Except.ok query.render_skeleton.symm
    rw [written, written, same]
  refine ⟨fun left right same => ⟨texts _ _ (Request.counting_skeleton same),
      fun page another => texts _ _ (Request.finding_skeleton same page another)⟩,
    fun request query made => ⟨(Request.counting_worded unmarked made).operands, ?_⟩,
    fun request page query made => ⟨(Request.finding_worded unmarked made).operands,
      fun name among => named name (Request.finding_names made name among)⟩,
    (exists_row_texts faultless).imp fun _ takes => ⟨takes.are_run_for, takes⟩⟩
  obtain ⟨rows, rowsMade, -⟩ := bind_ok made
  exact fun name among => named name (Request.rows_names rowsMade name among)

namespace Correspondence

/-- What nobody wrote about anything in one of two other years. -/
def nothing : Request where
  criteria := some ⟨[("$in", .list [.text "year", .integer 0, .text "1) OR (1=1"])]⟩
  partition := some ⟨[("sender", .text "'; DROP TABLE letter; --")]⟩
  term := some "?"

end Correspondence

open Correspondence in
/-- Whatever is asked for in the place of the harbour, the text is the same. -/
theorem one_text_for_the_letters :
    Schema.ofTables [letter] = .ok ⟨[letter]⟩ ∧ letter ∈ [letter] ∧ harbour.shape = nothing.shape ∧
      (harbour.finding letter ⟨10, 20⟩).map Select.render =
        .ok ("SELECT b.sender, b.year, b.body FROM fts_letter a INNER JOIN letter b " ++
          "ON a.sender = b.sender AND a.year = b.year AND b.year IN (?, ?) " ++
          "WHERE a.sender = ? AND a.fts_letter MATCH ? ORDER BY a.rank LIMIT ? OFFSET ?") ∧
      (nothing.finding letter ⟨1, 0⟩).map Select.render =
        (harbour.finding letter ⟨10, 20⟩).map Select.render ∧
      ∃ query, nothing.finding letter ⟨1, 0⟩ = .ok query ∧
        query.operands = [.integer 0, .text "1) OR (1=1", .text "'; DROP TABLE letter; --",
          .text "?", .integer 1, .integer 0] := by
  have same : harbour.shape = nothing.shape := by decide +kernel
  obtain ⟨texts, -, finds, -⟩ := values_stay_out_of_texts letter_accepted List.mem_cons_self
  obtain ⟨query, compiled⟩ := exists_of_is_ok
    (show (nothing.finding letter ⟨1, 0⟩).isOk = true by decide +kernel)
  refine ⟨letter_accepted, List.mem_cons_self, same, by decide +kernel,
    ((texts harbour nothing same).2 ⟨10, 20⟩ ⟨1, 0⟩).symm, query, compiled, ?_⟩
  rw [(finds nothing ⟨1, 0⟩ query compiled).1]
  decide +kernel

end RecordStore
