import RecordStore.Schema.Column
import RecordStore.Value.Field

/-!
# Models and entities

A model is a record type bound to one table: its fields are the table's columns, each
with the type that the record gives it. An entity is a record of a model. Every cell of an
entity holds nothing or a value of its field's type, and assigning a cell changes neither
the fields nor their order.
-/

namespace RecordStore

/-- A field of a model: a column and the type in which the record holds it. -/
structure Field where
  type : FieldType
  column : Column

namespace Field

/-- The name of a field, which is that of its column. -/
def name (field : Field) : String := field.column.name

end Field

/-- A record type bound to one table. -/
structure Model where
  tableName : String
  fields : List Field

namespace Model

/-- The columns of a model, in the order of its fields. -/
def columns (model : Model) : List Column := model.fields.map Field.column

/-- The table that the model itself describes. -/
def table (model : Model) : Table := ⟨model.tableName, model.columns⟩

end Model

/-- A field with what it holds. -/
structure Cell where
  field : Field
  value : Value
  fits : field.type.holds value = true

namespace Cell

/-- The name of a cell, which is that of its field. -/
def name (cell : Cell) : String := cell.field.name

/-- A field that holds nothing. -/
def blank (field : Field) : Cell := ⟨field, .null, by simp [FieldType.holds]⟩

/-- Puts a value into the first cell of a name. -/
def assign (table column : String) (value : Value) : List Cell → Except StoreError (List Cell)
  | [] => .error (.unknownColumn table column)
  | cell :: rest =>
    if cell.name == column then
      match accepted : cell.field.type.convert value with
      | .ok converted =>
        .ok (⟨cell.field, converted, FieldType.convert_holds _ _ _ accepted⟩ :: rest)
      | .error problem => .error problem
    else (assign table column value rest).map (cell :: ·)

/-- Putting a value under a name changes none of the fields. -/
theorem assign_fields (table column : String) (value : Value) (cells assigned : List Cell)
    (accepted : assign table column value cells = .ok assigned) :
    assigned.map Cell.field = cells.map Cell.field := by
  induction cells generalizing assigned with
  | nil => simp [assign] at accepted
  | cons cell rest inductionHypothesis =>
    unfold assign at accepted
    split at accepted
    · split at accepted
      · simp only [Except.ok.injEq] at accepted
        subst accepted
        simp
      · simp at accepted
    · cases tail : assign table column value rest with
      | error problem => simp [tail, Except.map] at accepted
      | ok others =>
        simp only [tail, Except.map, Except.ok.injEq] at accepted
        subst accepted
        simp [inductionHypothesis others tail]

end Cell

/-- A record of a model. -/
structure Entity (model : Model) where
  cells : List Cell
  shaped : cells.map Cell.field = model.fields

namespace Entity

variable {model : Model}

/-- The record that holds nothing. -/
def blank (model : Model) : Entity model :=
  ⟨model.fields.map Cell.blank, by
    simp only [List.map_map]
    exact List.map_id _⟩

/-- What the record holds in a column; a column that the model does not have holds
nothing. -/
def get (entity : Entity model) (column : String) : Value :=
  match entity.cells.find? fun cell => cell.name == column with
  | some cell => cell.value
  | none => .null

/-- The record with a value put into a column. -/
def set (entity : Entity model) (column : String) (value : Value) :
    Except StoreError (Entity model) :=
  match accepted : Cell.assign model.tableName column value entity.cells with
  | .ok cells => .ok ⟨cells, (Cell.assign_fields _ _ _ _ _ accepted).trans entity.shaped⟩
  | .error problem => .error problem

/-- Columns and values in the order of the model's declaration. -/
def toList (entity : Entity model) : List (String × Value) :=
  entity.cells.map fun cell => (cell.name, cell.value)

end Entity

/-- What identifies a row: the value of a single key column, or a value for each key
column by name. -/
inductive Key where
  | single (value : Value)
  | composite (parts : List (String × Value))
  deriving DecidableEq

/-- The key that an entity holds for a table. -/
def Entity.key {model : Model} (entity : Entity model) (table : Table) : Key :=
  match table.primaryKey with
  | [column] => .single (entity.get column)
  | columns => .composite (columns.map fun column => (column, entity.get column))

/-- A row of an untyped query: named values in the order of the result. Names may repeat. -/
structure Record where
  values : List (String × Value)
  deriving DecidableEq, Inhabited

namespace Record

/-- The record without values. -/
def empty : Record := ⟨[]⟩

/-- The record with one more value behind the others. -/
def push (record : Record) (column : String) (value : Value) : Record :=
  ⟨record.values ++ [(column, value)]⟩

/-- The first value of a name. -/
def get? (record : Record) (column : String) : Option Value :=
  (record.values.find? fun entry => entry.1 == column).map Prod.snd

/-- How many values a record has. -/
def size (record : Record) : Nat := record.values.length

/-- Whether a record has no values. -/
def isEmpty (record : Record) : Bool := record.values.isEmpty

end Record

end RecordStore
