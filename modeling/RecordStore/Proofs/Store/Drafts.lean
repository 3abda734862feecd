import RecordStore.Proofs.Engine.Objects
import RecordStore.Proofs.Value.Columns
import RecordStore.Store.Row

/-!
# Entities, drawn and loaded

What an entity holds under a name is what was last put there, as the field of the name takes it.
Drawing the values of columns therefore leaves in the entity what the fields made of the values that
enter the row, and loading a row leaves in it what the columns returned.
-/

namespace RecordStore

open Engine

variable {model : Model}

/-- The type of the field of a name. -/
def Model.typeOf? (model : Model) (name : String) : Option FieldType :=
  (model.fields.find? fun field => field.name == name).map Field.type

/-- A model whose fields are the columns of a table, each of the type of its column. -/
def Model.Suits (model : Model) (table : Table) : Prop :=
  (model.fields.map fun field => (field.name, field.type)).Perm
    (table.columns.map fun column => (column.name, column.type.fieldType))

/-- The field of a name that stands once is found under it. -/
theorem Model.Suits.type_of? {table : Table} (suits : model.Suits table)
    (distinct : table.columnNames.Nodup) {column : Column} (member : column ∈ table.columns) :
    model.typeOf? column.name = some column.type.fieldType := by
  have among := suits.mem_iff.mpr (List.mem_map_of_mem
    (f := fun column : Column => (column.name, column.type.fieldType)) member)
  obtain ⟨field, fieldMember, same⟩ := List.mem_map.mp among
  obtain ⟨named, typed⟩ := Prod.mk.inj same
  have names : (model.fields.map Field.name).Nodup := by
    have firsts := suits.map Prod.fst
    simp only [List.map_map, Function.comp_def] at firsts
    exact firsts.nodup_iff.mpr distinct
  unfold Model.typeOf?
  have search : (model.fields.find? fun other => other.name == column.name).isSome = true := by
    rw [List.find?_isSome]
    exact ⟨field, fieldMember, by simp [named]⟩
  obtain ⟨found, finds⟩ := Option.isSome_iff_exists.mp search
  have foundName : found.name = column.name := by simpa using List.find?_some finds
  have one : found = field := List.inj_on_of_nodup_map names (List.mem_of_find?_eq_some finds)
    fieldMember (foundName.trans named.symm)
  rw [finds, Option.map_some, one, typed]

/-- A model that suits a table has no field that is none of its columns. -/
theorem Model.Suits.type_of?_none {table : Table} (suits : model.Suits table) {name : String}
    (unknown : name ∉ table.columnNames) : model.typeOf? name = none := by
  unfold Model.typeOf?
  rw [Option.map_eq_none_iff, List.find?_eq_none]
  intro field member named
  have among := suits.mem_iff.mp (List.mem_map_of_mem
    (f := fun field : Field => (field.name, field.type)) member)
  obtain ⟨column, columnMember, same⟩ := List.mem_map.mp among
  refine unknown (List.mem_map.mpr ⟨column, columnMember, ?_⟩)
  exact (Prod.mk.inj same).1.trans (by simpa using named)

namespace Cell

/-- What stands in the first cell of a name. -/
def valueOf (cells : List Cell) (name : String) : Value :=
  match cells.find? fun cell => cell.name == name with
  | some cell => cell.value
  | none => .null

variable {table column : String} {value : Value} {cells assigned : List Cell}

/-- A value that was put into the cell of a column stands there as the field takes it, and every
other column holds what it held. -/
theorem assign_ok (accepted : assign table column value cells = .ok assigned) :
    (∃ cell, (cells.find? fun cell => cell.name == column) = some cell ∧
      cell.field.type.convert value = .ok (valueOf assigned column)) ∧
      ∀ other, other ≠ column → valueOf assigned other = valueOf cells other := by
  induction cells generalizing assigned with
  | nil => cases accepted
  | cons cell rest inductionHypothesis =>
    unfold assign at accepted
    by_cases named : (cell.name == column) = true
    · rw [if_pos named] at accepted
      split at accepted
      · rename_i converted taken
        cases accepted
        have name : cell.name = column := by simpa using named
        refine ⟨⟨cell, by simp [named], ?_⟩, fun other different => ?_⟩
        · have here : (Cell.mk cell.field converted
              (FieldType.convert_holds _ _ _ taken)).name == column := named
          simp only [valueOf, List.find?_cons, here]
          exact taken
        · have elsewhere : (cell.name == other) = false := by
            simpa [name] using Ne.symm different
          have there : ((Cell.mk cell.field converted
              (FieldType.convert_holds _ _ _ taken)).name == other) = false := elsewhere
          simp only [valueOf, List.find?_cons, elsewhere, there]
      · cases accepted
    · rw [if_neg named] at accepted
      cases tail : assign table column value rest with
      | error problem =>
        rw [tail] at accepted
        cases accepted
      | ok others =>
        rw [tail] at accepted
        cases accepted
        obtain ⟨⟨found, finds, taken⟩, kept⟩ := inductionHypothesis tail
        refine ⟨⟨found, by simpa [List.find?_cons, named] using finds, ?_⟩,
          fun other different => ?_⟩
        · simpa [valueOf, List.find?_cons, named] using taken
        · by_cases here : (cell.name == other) = true
          · simp [valueOf, here]
          · simpa [valueOf, List.find?_cons, here] using kept other different

/-- What is put into the cells for a column is what the field of the column makes of the value.
Without the field nothing is put. -/
theorem assign_value (table column : String) (value : Value) (cells : List Cell) :
    (assign table column value cells).map (fun assigned => valueOf assigned column) =
      match cells.find? fun cell => cell.name == column with
      | some cell => cell.field.type.convert value
      | none => .error (.unknownColumn table column) := by
  induction cells with
  | nil => rfl
  | cons cell rest inductionHypothesis =>
    unfold assign
    by_cases named : (cell.name == column) = true
    · rw [if_pos named, List.find?_cons, named]
      split
      · rename_i converted taken
        have here : (Cell.mk cell.field converted
            (FieldType.convert_holds _ _ _ taken)).name == column := named
        simp only [Except.map, valueOf, List.find?_cons, here, taken]
      · rename_i refused
        exact refused.symm
    · rw [Bool.not_eq_true] at named
      simp only [named, Bool.false_eq_true, if_false, List.find?_cons]
      rw [← inductionHypothesis]
      cases assign table column value rest with
      | error problem => rfl
      | ok others => simp only [Except.map, valueOf, List.find?_cons, named]

/-- A cell takes every value that its field takes. -/
theorem assign_accepts (table : String) {cell : Cell} {converted : Value}
    (finds : (cells.find? fun cell => cell.name == column) = some cell)
    (taken : cell.field.type.convert value = .ok converted) :
    ∃ assigned, assign table column value cells = .ok assigned := by
  induction cells with
  | nil => cases finds
  | cons first rest inductionHypothesis =>
    unfold assign
    by_cases named : (first.name == column) = true
    · rw [List.find?_cons, named] at finds
      cases finds
      rw [if_pos named]
      split
      · exact ⟨_, rfl⟩
      · rename_i refused
        cases taken.symm.trans refused
    · obtain ⟨others, tail⟩ := inductionHypothesis (by simpa [List.find?_cons, named] using finds)
      rw [if_neg named, tail]
      exact ⟨_, rfl⟩

end Cell

namespace Entity

variable {entity next : Entity model} {name : String} {value : Value} {type : FieldType}

/-- What an entity holds under a name is what stands in the first cell of the name. -/
theorem get_eq (entity : Entity model) (name : String) :
    entity.get name = Cell.valueOf entity.cells name := rfl

/-- The cell of a name has the field of the name. -/
theorem find?_cell (entity : Entity model) (name : String) :
    (entity.cells.find? fun cell => cell.name == name).map (fun cell => cell.field.type) =
      model.typeOf? name := by
  unfold Model.typeOf?
  rw [← entity.shaped, List.find?_map, Option.map_map]
  rfl

/-- A field holds values of its type. -/
theorem get_holds (entity : Entity model) (typed : model.typeOf? name = some type) :
    type.holds (entity.get name) = true := by
  rw [← entity.find?_cell] at typed
  obtain ⟨cell, finds, rfl⟩ := Option.map_eq_some_iff.mp typed
  rw [get_eq, Cell.valueOf, finds]
  exact cell.fits

/-- What is no field holds nothing. -/
theorem get_unknown (entity : Entity model) (unknown : model.typeOf? name = none) :
    entity.get name = .null := by
  rw [← entity.find?_cell, Option.map_eq_none_iff] at unknown
  rw [get_eq, Cell.valueOf, unknown]

/-- A value that was put into a field stands there as the field takes it, and every other field
holds what it held. -/
theorem set_ok (accepted : entity.set name value = .ok next) :
    (∃ type, model.typeOf? name = some type ∧ type.convert value = .ok (next.get name)) ∧
      ∀ other, other ≠ name → next.get other = entity.get other := by
  unfold set at accepted
  split at accepted
  · rename_i cells assigned
    cases accepted
    obtain ⟨⟨cell, finds, taken⟩, kept⟩ := Cell.assign_ok assigned
    refine ⟨⟨cell.field.type, ?_, taken⟩, kept⟩
    rw [← entity.find?_cell, finds]
    rfl
  · cases accepted

/-- A field takes what its type takes. -/
theorem set_accepts (entity : Entity model) (typed : model.typeOf? name = some type)
    {converted : Value} (taken : type.convert value = .ok converted) :
    ∃ next, entity.set name value = .ok next ∧ next.get name = converted ∧
      ∀ other, other ≠ name → next.get other = entity.get other := by
  have found := typed
  rw [← entity.find?_cell] at found
  obtain ⟨cell, finds, rfl⟩ := Option.map_eq_some_iff.mp found
  obtain ⟨assigned, accepted⟩ :=
    Cell.assign_accepts model.tableName finds taken
  have put : ∃ next, entity.set name value = .ok next := by
    unfold set
    split
    · exact ⟨_, rfl⟩
    · rename_i refused
      cases accepted.symm.trans refused
  obtain ⟨next, puts⟩ := put
  obtain ⟨⟨other, otherTyped, otherTaken⟩, kept⟩ := set_ok puts
  cases typed.symm.trans otherTyped
  cases taken.symm.trans otherTaken
  exact ⟨next, puts, rfl, kept⟩

/-! ### Drawing -/

/-- A column without generator is drawn from the entity. -/
theorem draw_plain {column : Column} (plain : column.generator = none) (rest : List Column)
    (entity : Entity model) (count : Nat) :
    draw (column :: rest) entity count = { draw rest entity count with
      outcome := (draw rest entity count).outcome.map
        ((column, entity.get column.name) :: ·) } := by
  rw [draw, plain]

/-- What a generator gives is put into the entity before the other columns are drawn. -/
theorem draw_taken {column : Column} {generator : Generator}
    (generates : column.generator = some generator) (rest : List Column) {count : Nat}
    (puts : entity.set column.name (generator count).1 = .ok next) :
    draw (column :: rest) entity count = { draw rest next (generator count).2 with
      outcome := (draw rest next (generator count).2).outcome.map
        ((column, (generator count).1) :: ·) } := by
  rw [draw, generates]
  simp only [puts]

/-- If its field refuses it, no other column is drawn. -/
theorem draw_refused {column : Column} {generator : Generator}
    (generates : column.generator = some generator) (rest : List Column) {count : Nat}
    {problem : StoreError} (refused : entity.set column.name (generator count).1 = .error problem) :
    draw (column :: rest) entity count = ⟨entity, (generator count).2, .error problem⟩ := by
  rw [draw, generates]
  simp only [refused]

/-- How the value of a column that enters a row belongs to what the entity holds afterwards. -/
structure Gives (model : Model) (column : Column) (given held : Value) : Prop where
  converts : ∀ type, model.typeOf? column.name = some type → type.convert given = .ok held
  plain : column.generator = none → given = held
  generated : ∀ generator, column.generator = some generator → ∃ count, given = (generator count).1

/-- Drawing gives a value to each of the columns, in their order. -/
theorem draw_columns {columns : List Column} {entity : Entity model} {count : Nat}
    {values : List (Column × Value)} (drawn : (draw columns entity count).outcome = .ok values) :
    values.map Prod.fst = columns := by
  induction columns generalizing entity count values with
  | nil =>
    cases drawn
    rfl
  | cons column rest inductionHypothesis =>
    have later : ∀ {next : Entity model} {number : Nat} {value : Value},
        ((draw rest next number).outcome.map ((column, value) :: ·)) = .ok values →
        values.map Prod.fst = column :: rest := by
      intro next number value mapped
      obtain ⟨others, found, rfl⟩ := Engine.map_ok mapped
      rw [List.map_cons, inductionHypothesis found]
    unfold draw at drawn
    split at drawn
    · exact later drawn
    · simp only at drawn
      split at drawn
      · cases drawn
      · exact later drawn

/-- What drawing leaves in the entity: under each drawn column what its field makes of the drawn
value, and under all other names what was there. -/
structure Leaves (entity left : Entity model) (columns : List Column)
    (values : List (Column × Value)) : Prop where
  gives : ∀ entry ∈ values, Gives model entry.1 entry.2 (left.get entry.1.name)
  untouched : ∀ name, name ∉ columns.map Column.name → left.get name = entity.get name

/-- A column in front of others that are drawn. It has another name than these, so they change
neither its value nor what the entity holds under it. -/
theorem Leaves.cons {column : Column} {rest : List Column} {next left : Entity model}
    {value : Value} {others : List (Column × Value)} (fresh : column.name ∉ rest.map Column.name)
    (later : Leaves next left rest others) (gives : Gives model column value (next.get column.name))
    (kept : ∀ name, name ≠ column.name → next.get name = entity.get name) :
    Leaves entity left (column :: rest) ((column, value) :: others) where
  gives entry member := by
    rcases List.mem_cons.mp member with rfl | behind
    · rw [later.untouched _ fresh]
      exact gives
    · exact later.gives entry behind
  untouched name outside := by
    rw [List.map_cons, List.mem_cons, not_or] at outside
    rw [later.untouched name outside.2, kept name outside.1]

/-- An entity gives a column without generator what it holds under its name. -/
theorem gives_plain {column : Column} (plain : column.generator = none) (entity : Entity model) :
    Gives model column (entity.get column.name) (entity.get column.name) where
  converts _ typed := FieldType.convert_of_holds (entity.get_holds typed)
  plain _ := rfl
  generated _ given := by cases plain.symm.trans given

/-- A generator gives a column what it makes at a count, and the entity holds what the field
takes. -/
theorem gives_generated {column : Column} {generator : Generator} {count : Nat}
    (generates : column.generator = some generator)
    (puts : entity.set column.name (generator count).1 = .ok next) :
    Gives model column (generator count).1 (next.get column.name) where
  converts type typedToo := by
    obtain ⟨⟨taking, typed, taken⟩, -⟩ := set_ok puts
    cases typed.symm.trans typedToo
    exact taken
  plain none := by cases none.symm.trans generates
  generated other given := by
    cases generates.symm.trans given
    exact ⟨count, rfl⟩

/-- Drawing leaves in the entity what the fields make of the values. The induction is on the
columns, each of which is drawn before those behind it. -/
theorem draw_gives {columns : List Column} {entity : Entity model} {count : Nat}
    {values : List (Column × Value)} (distinct : (columns.map Column.name).Nodup)
    (drawn : (draw columns entity count).outcome = .ok values) :
    Leaves entity (draw columns entity count).entity columns values := by
  induction columns generalizing entity count values with
  | nil =>
    cases drawn
    exact ⟨fun _ member => (nomatch member), fun _ _ => rfl⟩
  | cons column rest inductionHypothesis =>
    obtain ⟨fresh, later⟩ := List.nodup_cons.mp distinct
    cases generates : column.generator with
    | none =>
      rw [draw_plain generates] at drawn ⊢
      obtain ⟨others, found, rfl⟩ := Engine.map_ok drawn
      exact (inductionHypothesis later found).cons fresh (gives_plain generates entity) fun _ _ =>
        rfl
    | some generator =>
      cases puts : entity.set column.name (generator count).1 with
      | error problem =>
        rw [draw_refused generates rest puts] at drawn
        cases drawn
      | ok next =>
        rw [draw_taken generates rest puts] at drawn ⊢
        obtain ⟨others, found, rfl⟩ := Engine.map_ok drawn
        exact (inductionHypothesis later found).cons fresh (gives_generated generates puts)
          (set_ok puts).2

/-- A row that an entity writes has the stored form of what was drawn for each of its columns, and
no value is missing. -/
theorem row_ok {table : Table} {isUpdate : Bool} {entity : Entity model} {count : Nat}
    {row : List (String × Stored)} (written : (entity.row table isUpdate count).outcome = .ok row) :
    ∃ values, (draw (rowColumns table isUpdate) entity count).outcome = .ok values ∧
      missing values = [] ∧ row = values.map fun entry => (entry.1.name, entry.2.stored) := by
  change ((draw (rowColumns table isUpdate) entity count).outcome >>= storedRow table) =
    _ at written
  obtain ⟨values, drawn, stored⟩ := bind_ok written
  unfold storedRow at stored
  split at stored
  · rename_i complete
    cases stored
    exact ⟨values, drawn, List.isEmpty_iff.mp complete, rfl⟩
  · cases stored

/-- A row has the columns of the table that it is drawn for, whatever the entity holds. -/
theorem row_columns {table : Table} {isUpdate : Bool} {entity : Entity model} {count : Nat}
    {row : List (String × Stored)} (written : (entity.row table isUpdate count).outcome = .ok row) :
    row.map Prod.fst = (rowColumns table isUpdate).map Column.name := by
  obtain ⟨values, drawn, -, rfl⟩ := row_ok written
  rw [← draw_columns drawn, List.map_map, List.map_map]
  rfl

/-- It has nothing for a column that it is not drawn for. -/
theorem row_spares {table : Table} {isUpdate : Bool} {entity : Entity model} {count : Nat}
    {row : List (String × Stored)} (apart : ToldApart table.columnNames)
    (written : (entity.row table isUpdate count).outcome = .ok row) {column : Column}
    (member : column ∈ table.columns) (left : column ∉ rowColumns table isUpdate) :
    ∀ entry ∈ row, sameName entry.1 column.name = false := by
  intro entry among
  have named : entry.1 ∈ (rowColumns table isUpdate).map Column.name :=
    row_columns written ▸ List.mem_map_of_mem among
  obtain ⟨other, drawn, name⟩ := List.mem_map.mp named
  have inTable := (List.mem_filter.mp drawn).1
  refine eq_false_of_ne_true fun same => left ?_
  rw [← name] at same
  have equal := apart.eq_of_same (List.mem_map_of_mem inTable) (List.mem_map_of_mem member) same
  rwa [← Table.column_eq_of_name apart inTable member equal]

section Bound

variable {table : Table} {isUpdate : Bool} {entity : Entity model} {count : Nat}
  {row : List (String × Stored)} (apart : ToldApart table.columnNames)
  (written : (entity.row table isUpdate count).outcome = .ok row)

include apart written

/-- What is bound for a row stands under names that are told apart. -/
theorem bound_apart : ToldApart ((row.map fun entry => (entry.1, entry.2.bound)).map Prod.fst) := by
  rw [List.map_map]
  change ToldApart (row.map Prod.fst)
  rw [row_columns written]
  exact apart.sublist (List.filter_sublist.map Column.name)

/-- Nothing is bound for a column that the row is not drawn for. -/
theorem bound_spares {column : Column} (member : column ∈ table.columns)
    (left : column ∉ rowColumns table isUpdate) :
    ∀ entry ∈ row.map fun entry => (entry.1, entry.2.bound), sameName entry.1 column.name = false :=
  List.forall_mem_map.mpr (row_spares apart written member left)

end Bound

/-- A value was drawn for each of the columns that values were drawn for. -/
theorem exists_drawn {columns : List Column} {values : List (Column × Value)}
    (drawn : values.map Prod.fst = columns) {column : Column} (member : column ∈ columns) :
    ∃ value, (column, value) ∈ values := by
  rw [← drawn] at member
  obtain ⟨⟨_, value⟩, among, rfl⟩ := List.mem_map.mp member
  exact ⟨value, among⟩

/-! ### Loading -/

/-- A row is loaded if each of its columns returns a value that the field takes as it is. The entity
then holds what the columns returned. The induction is on the columns; later pairs are about other
columns. -/
theorem load_ok {table : Table} {values : List Stored} (distinct : table.columnNames.Nodup)
    (suits : model.Suits table) (lengths : values.length = table.columns.length)
    (returns : ∀ pair ∈ table.columns.zip values, ∃ loaded,
      pair.2.load pair.1.type = .ok loaded ∧
        pair.1.type.fieldType.convert loaded = .ok loaded) :
    ∃ found : Entity model, load table values = .ok found ∧
      ∀ pair ∈ table.columns.zip values, pair.2.load pair.1.type = .ok (found.get pair.1.name) := by
  have typed : ∀ pair ∈ table.columns.zip values,
      model.typeOf? pair.1.name = some pair.1.type.fieldType :=
    fun pair member => suits.type_of? distinct (List.of_mem_zip member).1
  have names : ((table.columns.zip values).map fun pair => pair.1.name).Nodup := by
    have firsts : (table.columns.zip values).map Prod.fst = table.columns :=
      List.map_fst_zip (Nat.le_of_eq lengths.symm)
    have same : ((table.columns.zip values).map fun pair => pair.1.name) =
        ((table.columns.zip values).map Prod.fst).map Column.name := by
      rw [List.map_map]
      rfl
    rw [same, firsts]
    exact distinct
  unfold load
  generalize table.columns.zip values = pairs at returns typed names ⊢
  suffices folded : ∀ start : Entity model, ∃ found : Entity model,
      pairs.foldlM (fun (entity : Entity model) entry => do
        let value ← entry.2.load entry.1.type
        entity.set entry.1.name value) start = .ok found ∧
      (∀ pair ∈ pairs, pair.2.load pair.1.type = .ok (found.get pair.1.name)) ∧
      ∀ name, name ∉ pairs.map (fun pair => pair.1.name) → found.get name = start.get name by
    obtain ⟨found, done, held, -⟩ := folded (blank model)
    exact ⟨found, done, held⟩
  induction pairs with
  | nil => exact fun start => ⟨start, rfl, fun _ member => (nomatch member), fun _ _ => rfl⟩
  | cons pair rest inductionHypothesis =>
    intro start
    obtain ⟨fresh, later⟩ := List.nodup_cons.mp names
    obtain ⟨loaded, read, taken⟩ := returns pair List.mem_cons_self
    obtain ⟨next, puts, here, kept⟩ := start.set_accepts
      (typed pair List.mem_cons_self) taken
    obtain ⟨found, done, held, untouched⟩ := inductionHypothesis
      (fun other member => returns other (List.mem_cons_of_mem pair member))
      (fun other member => typed other (List.mem_cons_of_mem pair member)) later next
    refine ⟨found, ?_, fun other member => ?_, fun name outside => ?_⟩
    · rw [List.foldlM_cons, read]
      simp only [bind, Except.bind, puts]
      exact done
    · rcases List.mem_cons.mp member with rfl | behind
      · rw [untouched _ fresh, here, read]
      · exact held other behind
    · rw [List.map_cons, List.mem_cons, not_or] at outside
      rw [untouched name outside.2, kept name outside.1]

end Entity

end RecordStore
