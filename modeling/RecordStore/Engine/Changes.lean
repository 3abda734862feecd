import RecordStore.Engine.Check

/-!
# Changes

What a change does to a database. A change happens row by row, and after each row the
triggers of the table run; a trigger that is running does not start itself again. A change
and all that its triggers do succeed together, or the database stays as it was.

The values of the row before and after are known to a trigger as `old` and `new`.
-/

namespace RecordStore.Engine

open Sql

/-- What a change has done so far: the database, how many rows it changed itself, and the
number of the last row that it put in. -/
structure Effect where
  database : Database
  changed : Nat := 0
  lastNumber : Option Int64 := none
  deriving Repr, Inhabited

/-- The rows before and after an event, as a trigger knows them. -/
abbrev Fire := RowEvent → Scope → Database → Except Fault Database

/-- A row of a relation as a trigger knows it. -/
def Relation.oldRow (relation : Relation) (row : Row) : Binding := relation.binding "old" row

/-- A row as a trigger knows it under the name of the new row. -/
def Relation.newRow (relation : Relation) (row : Row) : Binding := relation.binding "new" row

/-- The number for a row that has none yet. -/
def nextNumber (database : Database) (relation : Relation) : Except Fault Int64 :=
  let last := relation.lastNumber?.getD 0
  let last :=
    if Database.neverAgain relation then max last (database.givenNumber relation.name) else last
  if relation.rows.isEmpty && !Database.neverAgain relation then .ok 1
  else if last = Int64.maxValue then .error .storageFull
  else .ok (last + 1)

/-- A row of values as it is put into a relation: each value as its column stores it, and the
row with its number. -/
def numberedRow (database : Database) (relation : Relation) (values : List Stored) :
    Except Fault Row :=
  let values := Relation.conform relation.attributes values
  match relation.identity with
  | .hidden => do return ⟨← nextNumber database relation, values⟩
  | .keyed _ => .ok ⟨0, values⟩
  | .shown column _ =>
    match Relation.valueIn relation.attributes values column with
    | .integer number => .ok ⟨number, values⟩
    | .null => do
      let number ← nextNumber database relation
      return ⟨number, Relation.replaceIn relation.attributes values column (.integer number)⟩
    | _ => .error .datatypeMismatch

/-- The database after a row of a relation was given its number. -/
def noteNumber (database : Database) (relation : Relation) (row : Row) : Database :=
  if Database.neverAgain relation then database.giveNumber relation.name row.number else database

/-- The database after a row has been put into a relation. -/
def withRow (database : Database) (relation : Relation) (row : Row) : Database :=
  noteNumber (database.withRelation (relation.put row)) relation row

/-- A relation that a row can be put into: the relation itself when the row offends nothing,
the relation without the rows that stand in the way when they are to be replaced, and none
when the row is to be left out. -/
def roomFor (relation : Relation) (row : Row) (conflict : Conflict) :
    Except Fault (Option Relation) :=
  match relation.fault? row with
  | none => .ok (some relation)
  | some fault =>
    match conflict with
    | .abort => .error fault
    | .ignore => .ok none
    | .replace =>
      if (relation.missing? row).isSome then .error fault
      else .ok (some ((relation.rivals row).foldl Relation.drop relation))

/-- Puts a row of values into a relation. -/
def insertRow (fire : Fire) (conflict : Conflict) (name : String) (effect : Effect)
    (values : List Stored) : Except Fault Effect := do
  match effect.database.relation? name with
  | none => throw (.noSuchTable name)
  | some relation =>
    let row ← numberedRow effect.database relation values
    match ← roomFor relation row conflict with
    | none => return { effect with database := noteNumber effect.database relation row }
    | some admitted =>
      let database := withRow effect.database admitted row
      let database ← fire .insertion [relation.newRow row] database
      let lastNumber := match relation.identity with
        | .keyed _ => effect.lastNumber
        | _ => some row.number
      return ⟨database, effect.changed + 1, lastNumber⟩

/-- Puts a row of values into a full-text table. -/
def insertFullText (table : FullTextTable) (values : List Stored) : FullTextTable × Row :=
  let number := ((table.rows.getLast?.map Row.number).getD 0) + 1
  let row : Row := ⟨number, values⟩
  ({ table with rows := table.rows ++ [row] }, row)

/-- The values of a row under the names that an insertion gives them; other columns take
their defaults. -/
def arranged (attributes : List Attribute) (columns : Option (List String))
    (values : List Stored) : List Stored :=
  match columns with
  | none => values
  | some columns =>
    (columns.zip values).foldl
      (fun row entry => Relation.replaceIn attributes row entry.1 entry.2)
      (attributes.map Attribute.defaultValue)

/-- The rows of values that an insertion puts in. -/
def insertedRows (database : Database) (outer : Scope) (attributes : List Attribute)
    (insertion : Insert Stored) : Except Fault (List (List Stored)) :=
  match insertion.rows with
  | .defaults => .ok [attributes.map Attribute.defaultValue]
  | .values rows =>
    .ok (rows.map fun row =>
      arranged attributes insertion.columns (row.map (evaluate [] outer)))
  | .selected query => do
    return (← select database query).rows.map (arranged attributes insertion.columns)

/-- Does an insertion, row by row. Rows of a full-text table fire no triggers. -/
def runInsert (fire : Fire) (outer : Scope) (database : Database) (insertion : Insert Stored) :
    Except Fault Effect :=
  match database.relation? insertion.table with
  | some relation => do
    let rows ← insertedRows database outer relation.attributes insertion
    rows.foldlM (insertRow fire insertion.conflict insertion.table) { database }
  | none =>
    match database.fullText? insertion.table with
    | none => .error (.noSuchTable insertion.table)
    | some table => do
      let rows ← insertedRows database outer table.attributes insertion
      return rows.foldl
        (fun effect values =>
          let (changed, row) :=
            insertFullText ((effect.database.fullText? insertion.table).getD table) values
          ⟨effect.database.withFullText changed, effect.changed + 1, some row.number⟩)
        { database }

/-- Takes a row out of a relation. -/
def deleteRow (fire : Fire) (name : String) (effect : Effect) (row : Row) :
    Except Fault Effect := do
  match effect.database.relation? name with
  | none => return effect
  | some relation =>
    if (relation.standing? row).isNone then return effect
    let database := effect.database.withRelation (relation.drop row)
    let database ← fire .deletion [relation.oldRow row] database
    return { effect with database, changed := effect.changed + 1 }

/-- Does a deletion. The rows that it is about are found before the first of them goes. -/
def runDelete (fire : Fire) (outer : Scope) (database : Database) (deletion : Delete Stored) :
    Except Fault Effect :=
  match database.relation? deletion.table with
  | some relation =>
    let targets := relation.rows.filter fun row =>
      allHold (relation.binding relation.name row :: outer) deletion.conditions
    targets.foldlM (deleteRow fire deletion.table) { database }
  | none =>
    match database.fullText? deletion.table with
    | none => .error (.noSuchTable deletion.table)
    | some table =>
      let kept := table.rows.filter fun row =>
        !allHold (table.binding table.name row .null :: outer) deletion.conditions
      .ok ⟨database.withFullText { table with rows := kept },
        table.rows.length - kept.length, none⟩

/-- The values of a row after assignments. -/
def assigned (attributes : List Attribute) (scope : Scope)
    (assignments : List (String × Expression Stored)) (values : List Stored) : List Stored :=
  assignments.foldl
    (fun row assignment =>
      Relation.replaceIn attributes row assignment.1 (evaluate [] scope assignment.2))
    values

/-- A changed row: its number follows the column that shows it. -/
def renumbered (relation : Relation) (row : Row) (values : List Stored) : Except Fault Row :=
  let values := Relation.conform relation.attributes values
  match relation.identity with
  | .shown column _ =>
    match Relation.valueIn relation.attributes values column with
    | .integer number => .ok ⟨number, values⟩
    | _ => .error .datatypeMismatch
  | _ => .ok ⟨row.number, values⟩

/-- Puts assigned values into a row of a relation. -/
def updateRow (fire : Fire) (outer : Scope) (modification : Update Stored) (effect : Effect)
    (row : Row) : Except Fault Effect := do
  match effect.database.relation? modification.table with
  | none => return effect
  | some relation =>
    match relation.standing? row with
    | none => return effect
    | some row =>
      let scope := relation.binding relation.name row :: outer
      let values := assigned relation.attributes scope modification.assignments row.values
      let changedRow ← renumbered relation row values
      match ← roomFor (relation.drop row) changedRow modification.conflict with
      | none => return effect
      | some admitted =>
        let database := effect.database.withRelation (admitted.put changedRow)
        let database ←
          fire .modification [relation.oldRow row, relation.newRow changedRow] database
        return { effect with database, changed := effect.changed + 1 }

/-- Does an update. The rows that it is about are found before the first of them changes. -/
def runUpdate (fire : Fire) (outer : Scope) (database : Database)
    (modification : Update Stored) : Except Fault Effect :=
  match database.relation? modification.table with
  | some relation =>
    let targets := relation.rows.filter fun row =>
      allHold (relation.binding relation.name row :: outer) modification.conditions
    targets.foldlM (updateRow fire outer modification) { database }
  | none =>
    match database.fullText? modification.table with
    | none => .error (.noSuchTable modification.table)
    | some table =>
      let isTarget (row : Row) : Bool :=
        allHold (table.binding table.name row .null :: outer) modification.conditions
      let rows := table.rows.map fun row =>
        if isTarget row then
          let scope := table.binding table.name row .null :: outer
          { row with values := assigned table.attributes scope modification.assignments row.values }
        else row
      .ok ⟨database.withFullText { table with rows },
        (table.rows.filter isTarget).length, none⟩

/-- A change, given what follows each row. -/
def runOnce (fire : Fire) (outer : Scope) (database : Database) :
    Change Stored → Except Fault Effect
  | .insert insertion => runInsert fire outer database insertion
  | .update modification => runUpdate fire outer database modification
  | .delete deletion => runDelete fire outer database deletion

/-- A change with everything that its triggers do. The count bounds how deep triggers start
each other; triggers that are running are given by name. -/
def runChange : Nat → List String → Scope → Database → Change Stored → Except Fault Effect
  | 0, _, outer, database, change =>
    runOnce (fun _ _ database => .ok database) outer database change
  | depth + 1, running, outer, database, change =>
    let fire : Fire := fun event rows database =>
      let triggers := (database.triggersOn (tableOf change) event).filter fun trigger =>
        !running.contains trigger.name
      triggers.foldlM
        (fun database trigger =>
          trigger.body.foldlM
            (fun database step => do
              return (← runChange depth (trigger.name :: running) rows database step).database)
            database)
        database
    runOnce fire outer database change

/-- A change of a database, with everything that its triggers do. -/
def Database.change (database : Database) (change : Change Stored) : Except Fault Effect :=
  runChange database.objects.length [] [] database change

end RecordStore.Engine
