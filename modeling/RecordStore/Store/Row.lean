import RecordStore.Model
import RecordStore.Query.Criteria
import RecordStore.Value.Codec

/-!
# Entities as rows

What of an entity enters a row, and how a row becomes an entity again. On the way in the
columns are visited in the order of their declaration, without those that the engine numbers
by itself and, for an update, without the key. A generator is asked once for its column, and
what it gives is also put into the entity. Every column that must hold a value and has none
is reported, not only the first.
-/

namespace RecordStore

/-- A row on its way from an entity into a table: the entity with what generators gave, the
number that counting generators give next, and the row or what is wrong with it. -/
structure Draft (model : Model) (α : Type) where
  entity : Entity model
  count : Nat
  outcome : Except StoreError α

namespace Entity

variable {model : Model}

/-- The values of columns. A generator goes before what the entity holds, and its value is
put into the entity; a value that the entity does not accept ends the drawing. -/
def draw : List Column → Entity model → Nat → Draft model (List (Column × Value))
  | [], entity, count => ⟨entity, count, .ok []⟩
  | column :: rest, entity, count =>
    match column.generator with
    | none =>
      let drawn := draw rest entity count
      { drawn with outcome := drawn.outcome.map ((column, entity.get column.name) :: ·) }
    | some generator =>
      let (value, count) := generator count
      match entity.set column.name value with
      | .error problem => ⟨entity, count, .error problem⟩
      | .ok entity =>
        let drawn := draw rest entity count
        { drawn with outcome := drawn.outcome.map ((column, value) :: ·) }

/-- The columns that a row of a table takes from an entity. -/
def rowColumns (table : Table) (isUpdate : Bool) : List Column :=
  table.columns.filter fun column =>
    !(column.autoincrement || (isUpdate && column.primaryKey))

/-- Columns that must hold a value and do not. -/
def missing (values : List (Column × Value)) : List String :=
  (values.filter fun entry => entry.2.isNull && !entry.1.nullable).map fun entry => entry.1.name

/-- Drawn values as they are stored, if no column misses one. -/
def storedRow (table : Table) (values : List (Column × Value)) :
    Except StoreError (List (String × Stored)) :=
  if (missing values).isEmpty then
    .ok (values.map fun entry => (entry.1.name, entry.2.stored))
  else .error (.dataValidation table.name (missing values))

/-- The row that an entity writes into a table. -/
def row (entity : Entity model) (table : Table) (isUpdate : Bool) (count : Nat) :
    Draft model (List (String × Stored)) :=
  let drawn := draw (rowColumns table isUpdate) entity count
  { drawn with outcome := drawn.outcome.bind (storedRow table) }

/-- The entity of a row whose values stand in the order of the table's columns. -/
def load (table : Table) (values : List Stored) : Except StoreError (Entity model) :=
  (table.columns.zip values).foldlM
    (fun entity entry => do
      let value ← entry.2.load entry.1.type
      entity.set entry.1.name value)
    (blank model)

end Entity

/-- The criteria that a key means for a table: each key column equals its part of the key. -/
def Key.criteria (key : Key) (table : Table) : Except StoreError Criteria :=
  if table.primaryKey.isEmpty then
    .error (.invalidQuery ("table `" ++ table.name ++ "` has no primary key"))
  else
    match key with
    | .single value =>
      match table.primaryKey with
      | [column] => .ok (Criteria.empty.equals column value)
      | columns =>
        .error (.invalidQuery ("table `" ++ table.name ++ "` needs a composite key (" ++
          String.intercalate ", " columns ++ ")"))
    | .composite parts =>
      match parts.find? fun part => !table.primaryKey.contains part.1 with
      | some part =>
        .error (.invalidQuery ("`" ++ part.1 ++ "` is not a key column of `" ++ table.name ++ "`"))
      | none =>
        table.primaryKey.foldlM
          (fun criteria column =>
            match parts.find? fun part => part.1 == column with
            | some part => .ok (criteria.equals column part.2)
            | none => .error (.invalidQuery ("key column `" ++ column ++ "` is missing")))
          Criteria.empty

end RecordStore
