import RecordStore.Proofs.Store.MissingValues
import RecordStore.Proofs.Store.OverwrittenRows

/-!
# Validation

An entity is asked for the values of a row, and a column that must hold a value and gets null is
named before the engine hears of it. The engine asks again, and it asks for what arrives: a float
that is not a number arrives as null, and in a table with several key columns the engine needs each
of them, whatever the columns say. These are the only values for which it can find something missing
that was not found before.
-/

namespace RecordStore

open Engine Sql

variable {model : Model}

/-! ### Entities -/

namespace FieldType

/-- A field refuses a value for its kind. -/
theorem convert_refuses {type : FieldType} {value : Value} {problem : StoreError}
    (refused : type.convert value = .error problem) : ∃ reason, problem = .typeError reason := by
  unfold convert convertPresent at refused
  split at refused
  · cases refused
  · split at refused
    case h_10 seconds =>
      unfold Moment.load at refused
      split at refused <;> cases refused
      exact ⟨_, rfl⟩
    all_goals cases refused
    exact ⟨_, rfl⟩

end FieldType

/-- What a model does not take is no matter of the engine. -/
theorem Model.take_refuses {name : String} {value : Value} {problem : StoreError}
    (refused : model.take name value = .error problem) (fault : Fault) (statement : String) :
    problem ≠ .engine fault statement := by
  unfold Model.take at refused
  split at refused
  · obtain ⟨reason, rfl⟩ := FieldType.convert_refuses refused
    exact fun same => by cases same
  · cases refused
    exact fun same => by cases same

/-- What reaches the engine as null: a null, and a float that is not a number. -/
theorem Value.encoded_is_null (value : Value) :
    value.encoded.isNull = (value.isNull || value.isNaN) := by
  cases value with
  | float number =>
    cases undefined : number.isNaN <;>
      simp [Value.encoded, Value.stored, Stored.bound, Value.isNull, Value.isNaN, Stored.isNull,
        undefined]
  | _ => rfl

namespace Entity

variable {entity : Entity model} {table : Table} {isUpdate : Bool} {count : Nat} {column : Column}
  {value : Value}

/-- What is drawn for a column when a row of a table is drawn. -/
def DrawsFor (entity : Entity model) (table : Table) (isUpdate : Bool) (count : Nat)
    (column : Column) (value : Value) : Prop :=
  ∃ values, (draw (rowColumns table isUpdate) entity count).outcome = .ok values ∧
    (column, value) ∈ values

/-- The columns that must hold a value and for which null is drawn. -/
def Lacks (entity : Entity model) (table : Table) (isUpdate : Bool) (count : Nat)
    (column : Column) :
    Prop := column.nullable = false ∧ entity.DrawsFor table isUpdate count column .null

/-- A name is missing exactly if null was drawn for a column of the name that must hold a value. -/
theorem mem_missing {values : List (Column × Value)} {name : String} :
    name ∈ missing values ↔
      ∃ column, (column, Value.null) ∈ values ∧ column.nullable = false ∧ column.name = name := by
  unfold missing
  constructor
  · intro member
    obtain ⟨⟨column, value⟩, among, rfl⟩ := List.mem_map.mp member
    obtain ⟨inValues, null⟩ := List.mem_filter.mp among
    simp only [Bool.and_eq_true, Bool.not_eq_true'] at null
    cases value with
    | null => exact ⟨column, inValues, null.2, rfl⟩
    | _ => cases null.1
  · rintro ⟨column, inValues, required, rfl⟩
    refine List.mem_map.mpr ⟨(column, .null), List.mem_filter.mpr ⟨inValues, ?_⟩, rfl⟩
    simp [required, Value.isNull]

/-- Where null is drawn for a column that must hold a value, no row is made, and all such columns
are named. -/
theorem row_lacks (lacks : entity.Lacks table isUpdate count column) : ∃ names,
    (entity.row table isUpdate count).outcome = .error (.dataValidation table.name names) ∧
      ∀ name, name ∈ names ↔
        ∃ column, entity.Lacks table isUpdate count column ∧ column.name = name := by
  obtain ⟨required, values, drawn, member⟩ := lacks
  have named : column.name ∈ missing values := mem_missing.mpr ⟨column, member, required, rfl⟩
  refine ⟨missing values, ?_, fun name => mem_missing.trans ?_⟩
  · change (draw (rowColumns table isUpdate) entity count).outcome.bind (storedRow table) = _
    rw [drawn]
    have some : (missing values).isEmpty = false := by
      rw [List.isEmpty_eq_false_iff]
      exact List.ne_nil_of_mem named
    simp only [Except.bind, storedRow, some, Bool.false_eq_true, if_false]
  · refine exists_congr fun other => ?_
    constructor
    · rintro ⟨among, requiredToo, same⟩
      exact ⟨⟨requiredToo, values, drawn, among⟩, same⟩
    · rintro ⟨⟨requiredToo, others, drawnToo, among⟩, same⟩
      cases drawn.symm.trans drawnToo
      exact ⟨among, requiredToo, same⟩

/-- A row that is made has what was drawn. For a column that must hold a value that is no null, and
it reaches the engine as null exactly if it is a float that is not a number. -/
theorem row_complete {row : List (String × Stored)}
    (written : (entity.row table isUpdate count).outcome = .ok row) : ∃ values,
      (draw (rowColumns table isUpdate) entity count).outcome = .ok values ∧
      row = values.map (fun entry => (entry.1.name, entry.2.stored)) ∧
      ∀ entry ∈ values, entry.1.nullable = false →
        entry.2 ≠ .null ∧ entry.2.encoded.isNull = entry.2.isNaN := by
  obtain ⟨values, drawn, complete, rfl⟩ := row_ok written
  refine ⟨values, drawn, rfl, fun entry member required => ?_⟩
  have present : entry.2 ≠ .null := by
    intro null
    have named : entry.1.name ∈ missing values :=
      mem_missing.mpr ⟨entry.1, null ▸ member, required, rfl⟩
    rw [complete] at named
    cases named
  refine ⟨present, ?_⟩
  rw [Value.encoded_is_null]
  cases value : entry.2 with
  | null => exact absurd value present
  | _ => rfl

/-- No row is refused by the engine before it reaches it. -/
theorem row_refuses {problem : StoreError}
    (failed : (entity.row table isUpdate count).outcome = .error problem) (fault : Fault)
    (statement : String) : problem ≠ .engine fault statement := by
  change ((draw (rowColumns table isUpdate) entity count).outcome >>= storedRow table) = _ at failed
  rcases bind_fails failed with ended | ⟨values, -, unmade⟩
  · rcases draw_cases (rowColumns table isUpdate) entity count with
      ⟨_, _, _, _, _, _, _, refused, same, _⟩ | ⟨-, values, drawn, -⟩
    · cases same.symm.trans ended
      exact Model.take_refuses refused fault statement
    · cases drawn.symm.trans ended
  · unfold storedRow at unmade
    split at unmade
    · cases unmade
    · cases unmade
      exact fun same => by cases same

end Entity

namespace Store

variable {handle : Handle model} {entity : Entity model} {store : Store} {fault : Fault}
  {statement : String}

/-- Where the engine fails an addition, it fails the insertion of the row that was drawn. Proof:
what becomes of the number that the engine gave is no matter of the engine any more. -/
theorem add_engine (failed : (store.add handle entity).1.outcome =
    .error (.engine fault statement)) :
    ∃ row after, (entity.row handle.table false store.host.count).outcome = .ok row ∧
      (Operation.executing (.change (handle.table.insertion row))).apply
        (store.withCount (entity.row handle.table false store.host.count).count) =
          (.error (.engine fault statement), after) := by
  rcases store.add_cases handle entity with
    ⟨problem, refused, ended⟩ | ⟨row, drawn, ⟨problem, after, ran, ended⟩ |
      ⟨count, after, -, ended⟩⟩
  · rw [ended] at failed
    cases failed
    exact absurd rfl (Entity.row_refuses refused fault statement)
  · rw [ended] at failed
    cases failed
    exact ⟨row, after, drawn, ran⟩
  · exfalso
    rw [ended] at failed
    unfold numbered at failed
    split at failed
    · cases failed
    · split at failed
      · cases failed
      · split at failed
        · cases failed
        · rename_i problem refused
          have same : problem = .engine fault statement := Except.error.inj failed
          exact Model.take_refuses (Entity.take_of_refused refused) fault statement same

/-- Where it fails an update, it fails the update of the row of the key with the row that was
drawn. -/
theorem update_engine {relation : Relation} (kept : handle.table.IsKeptIn store.visible relation)
    (faultless : handle.table.fault? = none)
    (failed : (store.update handle entity).1.outcome = .error (.engine fault statement)) :
    ∃ row condition after, (entity.row handle.table true store.host.count).outcome = .ok row ∧
      (Operation.executing (.change (handle.table.modification row condition))).apply
        (store.withCount (entity.row handle.table true store.host.count).count) =
          (.error (.engine fault statement), after) := by
  rcases store.update_cases handle entity with ⟨problem, unkeyed, -⟩ | ⟨criteria, accepts,
    ⟨problem, refused, ended⟩ | ⟨row, outcome, last, drawn, written, ended⟩⟩
  · rw [update_unkeyed unkeyed] at failed
    cases failed
    exfalso
    by_cases keyed : handle.table.primaryKey = []
    · simp [Key.criteria, keyed] at unkeyed
    · cases (Entity.key_criteria keyed
        (Table.primary_key_plain (Table.is_admitted_of_fault? faultless)
          kept.distinct).1).symm.trans unkeyed
  · rw [ended] at failed
    cases failed
    exact absurd rfl (Entity.row_refuses refused fault statement)
  · rw [ended] at failed
    rcases Operation.overwrite_cases handle.table criteria row
      (store.withCount (entity.row handle.table true store.host.count).count) with
      ⟨rfl | ⟨problem, refused⟩, -⟩ | ⟨condition, result, after, -, ran, comes⟩
    · cases written
      cases failed
    · obtain ⟨conditions, stated⟩ := kept.key_states faultless accepts
      obtain ⟨condition, compiled⟩ := Criteria.condition_of_stated stated "update"
      cases compiled.symm.trans refused
    · obtain ⟨rfl, rfl⟩ := Prod.mk.inj (comes.symm.trans written)
      cases result with
      | error problem =>
        cases failed
        exact ⟨row, condition, after, drawn, ran⟩
      | ok changed =>
        simp only [Except.bind] at failed
        split at failed <;> cases failed

/-- Where null is drawn for a column that must hold a value, an addition names all such columns and
runs no statement. -/
theorem add_lacks {column : Column}
    (lacks : entity.Lacks handle.table false store.host.count column) : ∃ names,
      (store.add handle entity).1.outcome = .error (.dataValidation handle.table.name names) ∧
        (store.add handle entity).2.host.log = store.host.log ∧
        ∀ name, name ∈ names ↔ ∃ column,
          entity.Lacks handle.table false store.host.count column ∧ column.name = name := by
  obtain ⟨names, refused, named⟩ := Entity.row_lacks lacks
  rw [add_undrawn refused]
  exact ⟨names, rfl, rfl, named⟩

/-- So does an update of a table that has a key. -/
theorem update_lacks {column : Column} (keyed : handle.table.primaryKey ≠ [])
    (distinct : handle.table.primaryKey.Nodup)
    (lacks : entity.Lacks handle.table true store.host.count column) : ∃ names,
      (store.update handle entity).1.outcome = .error (.dataValidation handle.table.name names) ∧
        (store.update handle entity).2.host.log = store.host.log ∧
        ∀ name, name ∈ names ↔ ∃ column,
          entity.Lacks handle.table true store.host.count column ∧ column.name = name := by
  obtain ⟨names, refused, named⟩ := Entity.row_lacks lacks
  rw [update_undrawn (Entity.key_criteria keyed distinct) refused]
  exact ⟨names, rfl, rfl, named⟩

end Store

/-! ### Validation -/

section Validation

variable {handle : Handle model} {entity : Entity model} {store : Store} {relation : Relation}
  {fault : Fault} {statement : String}

/-- An addition that the engine fails for a missing value of the table has a float that is not a
number for a column that must hold a value, or null or such a float for one of several key columns.
Proof: validation lets a null pass only where the column may be null; then the engine needs it for
the key. -/
theorem Table.IsKeptIn.addition_misses (kept : handle.table.IsKeptIn store.visible relation)
    (admitted : handle.table.IsAdmitted)
    (elsewhere : ∀ outage, store.host.outage? = some outage →
      outage.fault.misses handle.table.name = false)
    (failed : (store.add handle entity).1.outcome = .error (.engine fault statement))
    (misses : fault.misses handle.table.name = true) : ∃ column value,
      fault = .notNullViolation handle.table.name column.name ∧
        entity.DrawsFor handle.table false store.host.count column value ∧
        ((column.nullable = false ∧ value.isNaN = true) ∨
          (column.nullable = true ∧ column.primaryKey = true ∧ handle.table.hasCompositeKey = true ∧
            (value = .null ∨ value.isNaN = true))) := by
  obtain ⟨row, after, drawn, ran⟩ := Store.add_engine failed
  have unmade := Operation.executing_misses ran misses elsewhere
  rw [Table.insertion_bound] at unmade
  obtain ⟨put, name, numbered, missing, rfl⟩ := kept.insertion_misses unmade misses
  have names : (row.map fun entry => (entry.1, entry.2.bound)).map Prod.fst =
      (handle.table.columns.filter fun column => !column.autoincrement).map Column.name := by
    rw [List.map_map]
    change row.map Prod.fst = _
    rw [Entity.row_columns drawn]
    simp [Entity.rowColumns]
  obtain ⟨column, inTable, rfl, plain, needs, lacks⟩ :=
    kept.insertion_lacks admitted names numbered missing
  obtain ⟨values, draws, rfl, complete⟩ := Entity.row_complete drawn
  obtain ⟨value, among⟩ := Entity.exists_drawn (Entity.draw_columns draws)
    (List.mem_filter.mpr ⟨inTable, by simp [plain]⟩)
  have null : value.encoded.isNull = true :=
    lacks value.encoded (List.mem_map.mpr ⟨_, List.mem_map.mpr ⟨_, among, rfl⟩, rfl⟩)
  refine ⟨column, value, rfl, ⟨values, draws, among⟩, ?_⟩
  cases nullable : column.nullable with
  | false => exact .inl ⟨rfl, (complete _ among nullable).2.symm.trans null⟩
  | true =>
    rcases needs with required | ⟨composite, isKey⟩
    · cases nullable.symm.trans required
    · refine .inr ⟨rfl, isKey, composite, ?_⟩
      rw [Value.encoded_is_null, Bool.or_eq_true] at null
      refine null.imp_left fun isNull => ?_
      cases value with
      | null => rfl
      | _ => cases isNull

/-- An update that the engine fails so has a float that is not a number for a column that must hold
a value. -/
theorem Table.IsSoundIn.update_misses (held : handle.table.IsSoundIn store.visible relation)
    (faultless : handle.table.fault? = none)
    (elsewhere : ∀ outage, store.host.outage? = some outage →
      outage.fault.misses handle.table.name = false)
    (failed : (store.update handle entity).1.outcome = .error (.engine fault statement))
    (misses : fault.misses handle.table.name = true) : ∃ column value,
      fault = .notNullViolation handle.table.name column.name ∧
        entity.DrawsFor handle.table true store.host.count column value ∧
        column.nullable = false ∧ value.isNaN = true := by
  obtain ⟨row, condition, after, drawn, ran⟩ := Store.update_engine held.toIsKeptIn faultless failed
  have unmade := Operation.executing_misses ran misses elsewhere
  rw [Table.modification_bound] at unmade
  obtain ⟨database, now, old, new, name, heldNow, member, changed, missing, rfl⟩ :=
    held.modification_misses unmade misses
  have spares : ∀ column ∈ handle.table.columns, column.primaryKey = true →
      ∀ entry ∈ row.map fun entry => (entry.1, entry.2.bound),
        sameName entry.1 column.name = false :=
    fun column inTable isKey =>
      Entity.bound_spares held.apart drawn inTable (by simp [Entity.rowColumns, isKey])
  obtain ⟨column, inTable, rfl, outside, required, lacks⟩ :=
    heldNow.modification_lacks (Entity.bound_apart held.apart drawn) spares member changed missing
  obtain ⟨values, draws, rfl, complete⟩ := Entity.row_complete drawn
  obtain ⟨value, among⟩ := Entity.exists_drawn (Entity.draw_columns draws)
    ((Entity.mem_row_columns (Table.is_admitted_of_fault? faultless)).mpr ⟨inTable, outside⟩)
  have null : value.encoded.isNull = true :=
    lacks value.encoded (List.mem_map.mpr ⟨_, List.mem_map.mpr ⟨_, among, rfl⟩, rfl⟩)
  exact ⟨column, value, rfl, ⟨values, draws, among⟩, required,
    (complete _ among required).2.symm.trans null⟩

end Validation

/-- Validation finds what is missing, for a table of a schema whose rows stand apart and are changed
by no trigger. Where null is drawn for columns that must hold a value, all of them are named and no
others, and no statement is run. Where a row is made, each such column has a value in it, which
reaches the engine as null only if it is a float that is not a number. Such a float is what an
addition or an update has given if the engine finds that a value is missing in the table; the one
other way is an addition with a null in one of several key columns, all of which the engine needs,
also where the table lets them be null.

Proof: what the engine misses is missing in the row that it was given, and the row is what was
drawn, bound. Only a float that is not a number is bound to null without being null, and only the
key of several columns is required where the columns are not. -/
theorem validation_finds_what_is_missing {tables : List Table} {schema : Schema}
    {handle : Handle model}
    {store : Store} {relation : Relation} (accepted : Schema.ofTables tables = .ok schema)
    (member : handle.table ∈ schema.tables) (held : handle.table.IsSoundIn store.visible relation)
    (elsewhere : ∀ outage, store.host.outage? = some outage →
      outage.fault.misses handle.table.name = false) (entity : Entity model) :
    (∀ isUpdate count row, (entity.row handle.table isUpdate count).outcome = .ok row → ∃ values,
      (Entity.draw (Entity.rowColumns handle.table isUpdate) entity count).outcome = .ok values ∧
        row = values.map (fun entry => (entry.1.name, entry.2.stored)) ∧
        ∀ entry ∈ values, entry.1.nullable = false →
          entry.2 ≠ .null ∧ entry.2.encoded.isNull = entry.2.isNaN) ∧
    (∀ column, entity.Lacks handle.table false store.host.count column → ∃ names,
      (store.add handle entity).1.outcome = .error (.dataValidation handle.table.name names) ∧
        (store.add handle entity).2.host.log = store.host.log ∧
        ∀ name, name ∈ names ↔ ∃ column,
          entity.Lacks handle.table false store.host.count column ∧ column.name = name) ∧
    (∀ column, handle.table.primaryKey ≠ [] →
      entity.Lacks handle.table true store.host.count column → ∃ names,
        (store.update handle entity).1.outcome = .error (.dataValidation handle.table.name names) ∧
          (store.update handle entity).2.host.log = store.host.log ∧
          ∀ name, name ∈ names ↔ ∃ column,
            entity.Lacks handle.table true store.host.count column ∧ column.name = name) ∧
    (∀ fault statement, (store.add handle entity).1.outcome = .error (.engine fault statement) →
      fault.misses handle.table.name = true → ∃ column value,
        fault = .notNullViolation handle.table.name column.name ∧
          entity.DrawsFor handle.table false store.host.count column value ∧
          ((column.nullable = false ∧ value.isNaN = true) ∨
            (column.nullable = true ∧ column.primaryKey = true ∧
              handle.table.hasCompositeKey = true ∧ (value = .null ∨ value.isNaN = true)))) ∧
    ∀ fault statement, (store.update handle entity).1.outcome = .error (.engine fault statement) →
      fault.misses handle.table.name = true → ∃ column value,
        fault = .notNullViolation handle.table.name column.name ∧
          entity.DrawsFor handle.table true store.host.count column value ∧
          column.nullable = false ∧ value.isNaN = true := by
  have faultless := Schema.of_tables_fault? accepted handle.table member
  have admitted := Table.is_admitted_of_fault? faultless
  refine ⟨fun _ _ _ written => Entity.row_complete written, fun _ lacks => Store.add_lacks lacks,
    fun _ keyed lacks => ?_, fun fault statement failed misses => ?_,
    fun fault statement failed misses => ?_⟩
  · exact Store.update_lacks keyed (Table.primary_key_plain admitted held.distinct).1 lacks
  · exact held.addition_misses admitted elsewhere failed misses
  · exact held.update_misses faultless elsewhere failed misses

/-! ### A parcel office -/

namespace Parcels

/-- The label of a parcel. -/
def label : Column := { name := "label", type := .string, primaryKey := true }

/-- What a parcel weighs. -/
def weight : Column := { name := "weight", type := .float }

/-- A parcel with its label and its weight. -/
def parcelModel : Model := ⟨"parcel", [⟨.text, label⟩, ⟨.float, weight⟩]⟩

/-- The handle of the parcels. -/
def handle : Handle parcelModel := ⟨parcelModel.table, rfl⟩

/-- The relation of the parcels when there are none. -/
def noParcels : Relation where
  name := "parcel"
  attributes := parcelModel.table.attributes
  identity := .hidden
  uniques := [["label"]]
  rows := []
  text := ""

/-- A store over a memory with a relation that is empty. -/
def office (relation : Relation) : Store :=
  ⟨{ config := {}, connection := some { number := 0, location := .memory 0 } },
    { disk := { volumes := [(.memory 0, { content := { objects := [.relation relation] } })] } }⟩

/-- A parcel with a weight, which may be none. -/
def parcel (weighed : Value) (floats : FieldType.float.holds weighed = true) : Entity parcelModel :=
  ⟨[⟨⟨.text, label⟩, .text "a", rfl⟩, ⟨⟨.float, weight⟩, weighed, floats⟩], rfl⟩

/-- What scales show that are broken: a float that is not a number. -/
def undefined : Value := .float ⟨0x7FF8000000000000⟩

/-- The parcels are a table of a schema. -/
theorem accepted : Schema.ofTables [parcelModel.table] = .ok ⟨[parcelModel.table]⟩ :=
  Schema.of_tables_ok (by decide +kernel) (by decide +kernel)

end Parcels

open Parcels in
/-- A parcel that was not weighed is not added, and its weight is named. One that was put on broken
scales is refused by the engine. -/
theorem validation_finds_the_missing_weight :
    let store := office noParcels
    let unweighed := parcel .null rfl
    let broken := parcel undefined rfl
    Schema.ofTables [parcelModel.table] = .ok ⟨[parcelModel.table]⟩ ∧
      handle.table.IsSoundIn store.visible noParcels ∧ store.host.outage? = none ∧
      unweighed.Lacks handle.table false 0 weight ∧
      (∃ names, (store.add handle unweighed).1.outcome = .error (.dataValidation "parcel" names) ∧
        (store.add handle unweighed).2.host.log = [] ∧
        ∀ name, name ∈ names ↔ ∃ column,
          unweighed.Lacks handle.table false 0 column ∧ column.name = name) ∧
      (store.add handle broken).1.outcome = .error (.engine (.notNullViolation "parcel" "weight")
        "INSERT INTO parcel (label, weight) VALUES (?, ?)") ∧
      ∃ column value, Fault.notNullViolation "parcel" "weight" =
        .notNullViolation "parcel" column.name ∧ broken.DrawsFor handle.table false 0 column value ∧
        ((column.nullable = false ∧ value.isNaN = true) ∨
          (column.nullable = true ∧ column.primaryKey = true ∧
            handle.table.hasCompositeKey = true ∧ (value = .null ∨ value.isNaN = true))) := by
  intro store unweighed broken
  have quiet : store.host.outage? = none := rfl
  have elsewhere : ∀ outage, store.host.outage? = some outage →
      outage.fault.misses handle.table.name = false := by
    intro outage strikes
    cases quiet.symm.trans strikes
  have sound : handle.table.IsSoundIn store.visible noParcels := {
    found := by decide +kernel
    made := ⟨"", noParcels, by decide +kernel, rfl⟩
    rows := fun row member => absurd member List.not_mem_nil
    spared := fun _ _ _ member => absurd member List.not_mem_nil
    sound := ⟨fun row member => absurd member List.not_mem_nil, .nil⟩ }
  have known : handle.table ∈ [parcelModel.table] := List.mem_cons_self
  have lacks : unweighed.Lacks handle.table false 0 weight :=
    ⟨rfl, [(label, .text "a"), (weight, .null)], rfl, by simp⟩
  have refused : (store.add handle broken).1.outcome = .error (.engine
      (.notNullViolation "parcel" "weight") "INSERT INTO parcel (label, weight) VALUES (?, ?)") := by
    decide +kernel
  obtain ⟨-, names, -, -, -⟩ := validation_finds_what_is_missing accepted known sound elsewhere
    unweighed
  obtain ⟨-, -, -, finds, -⟩ := validation_finds_what_is_missing accepted known sound elsewhere
    broken
  exact ⟨accepted, sound, quiet, lacks, names weight lacks, refused,
    finds _ _ refused (by decide +kernel)⟩

namespace Parcels

/-- A shelf has a hall and, if the hall has several, a number. -/
def hall : Column := { name := "hall", type := .string, primaryKey := true }

/-- The number of a shelf, which may be missing although it is part of the key. -/
def shelf : Column := { name := "shelf", type := .string, primaryKey := true, nullable := true }

/-- A shelf in a hall. -/
def shelfModel : Model := ⟨"place", [⟨.text, hall⟩, ⟨.text, shelf⟩]⟩

/-- The handle of the shelves. -/
def shelfHandle : Handle shelfModel := ⟨shelfModel.table, rfl⟩

/-- The relation of the shelves when there are none. -/
def noShelves : Relation where
  name := "place"
  attributes := shelfModel.table.attributes
  identity := .keyed ["hall", "shelf"]
  uniques := []
  rows := []
  text := ""

/-- The only shelf of a hall. -/
def onlyShelf : Entity shelfModel :=
  ⟨[⟨⟨.text, hall⟩, .text "north", rfl⟩, ⟨⟨.text, shelf⟩, .null, rfl⟩], rfl⟩

end Parcels

open Parcels in
/-- Two values escape validation, and the engine finds them missing: a float that is not a number,
in a column that cannot be null, and a null in a key of several columns, in one that can. -/
theorem values_escape_validation :
    Schema.ofTables [parcelModel.table] = .ok ⟨[parcelModel.table]⟩ ∧ weight.nullable = false ∧
      ((parcel undefined rfl).row handle.table false 0).outcome =
        .ok [("label", .text "a"), ("weight", undefined.stored)] ∧ undefined.stored.bound = .null ∧
      ((office noParcels).add handle (parcel undefined rfl)).1.outcome =
        .error (.engine (.notNullViolation "parcel" "weight")
          "INSERT INTO parcel (label, weight) VALUES (?, ?)") ∧
      Schema.ofTables [shelfModel.table] = .ok ⟨[shelfModel.table]⟩ ∧
      relationOf shelfModel.table.definition "" = .ok noShelves ∧
      ((office noShelves).add shelfHandle onlyShelf).1.outcome =
        .error (.engine (.notNullViolation "place" "shelf")
          "INSERT INTO place (hall, shelf) VALUES (?, ?)") :=
  ⟨accepted, rfl, by decide +kernel, by decide +kernel, by decide +kernel,
    Schema.of_tables_ok (by decide +kernel) (by decide +kernel), by decide +kernel, by
      decide +kernel⟩

end RecordStore
