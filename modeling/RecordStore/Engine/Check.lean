import RecordStore.Engine.Query

/-!
# Checking names

Before a statement runs, every name in it must stand for something. The check looks at the
objects of the database and never at their rows, so a statement that passes it can still be
run or refused for what the rows say.
-/

namespace RecordStore.Engine

open Sql

/-- A row without values, for looking up names. -/
def emptyBinding (name : String) (attributes : List Attribute) (numbered : Bool)
    (fullText : Option (String × List FullTextColumn × Stored)) : Binding where
  name := name
  attributes := attributes
  values := attributes.map fun _ => .null
  number := if numbered then some 0 else none
  fullText := fullText

/-- A relation as a source of names. -/
def Relation.names (relation : Relation) (name : String) : Binding :=
  emptyBinding name relation.attributes
    (match relation.identity with
      | .keyed _ => false
      | _ => true) none

/-- A full-text table as a source of names. -/
def FullTextTable.names (table : FullTextTable) (name : String) : Binding :=
  emptyBinding name table.attributes true (some (table.name, table.columns, .null))

/-- A source as a source of names. -/
def sourceNames (database : Database) (source : Source) : Except Fault Binding :=
  match database.readable? source.table with
  | some relation => .ok (relation.names source.name)
  | none =>
    match database.fullText? source.table with
    | some table => .ok (table.names source.name)
    | none => .error (.noSuchTable source.table)

/-- Refuses a column that stands for nothing, or for a column of several sources. -/
def checkColumn (scope : Scope) (source : Option String) (name : String) : Except Fault Unit :=
  let candidates := scope.filter fun binding => source.all (sameName binding.name)
  let declared := candidates.filter fun binding =>
    (Binding.among name binding.attributes binding.values).isSome
  if 1 < declared.length then .error (.ambiguousColumn (qualifiedName source name))
  else if (scope.lookup? source name).isSome then .ok ()
  else .error (.noSuchColumn (qualifiedName source name))
where
  qualifiedName (source : Option String) (name : String) : String :=
    match source with
    | some source => source ++ "." ++ name
    | none => name

/-- Refuses names in an expression that stand for nothing. An aggregate is refused where
there is no group, and inside of another. -/
def checkExpression (scope : Scope) (inGroup : Bool) : Expression Stored → Except Fault Unit
  | .operand _ => .ok ()
  | .number _ => .ok ()
  | .column source name => checkColumn scope source name
  | .unary _ inner => checkExpression scope inGroup inner
  | .binary _ left right => do
    checkExpression scope inGroup left
    checkExpression scope inGroup right
  | .oneOf _ target _ => checkExpression scope inGroup target
  | .grouped inner => checkExpression scope inGroup inner
  | .matching source name _ => do
    checkColumn scope source name
    if (scope.matched? source name).isNone then throw .matchOutOfPlace
  | .countRows => if inGroup then .ok () else .error (.misusedAggregate "COUNT")
  | .aggregate function _ argument => do
    if !inGroup then throw (.misusedAggregate (aggregateName function))
    checkExpression scope false argument
where
  aggregateName : Aggregate → String
    | .count => "COUNT"
    | .sum => "SUM"
    | .total => "TOTAL"
    | .average => "AVG"
    | .least => "MIN"
    | .greatest => "MAX"

/-- Refuses a match that is not one of the conditions that all must hold. -/
def checkCondition (scope : Scope) (condition : Expression Stored) : Except Fault Unit := do
  checkExpression scope false condition
  (conjuncts condition).forM fun part =>
    if isMatch part then .ok () else checkNoMatch part
where
  isMatch : Expression Stored → Bool
    | .matching .. => true
    | _ => false
  checkNoMatch : Expression Stored → Except Fault Unit
    | .matching .. => .error .matchOutOfPlace
    | .unary _ inner => checkNoMatch inner
    | .binary _ left right => do
      checkNoMatch left
      checkNoMatch right
    | .grouped inner => checkNoMatch inner
    | _ => .ok ()

/-- Checks the conditions of a clause, if there is one. -/
def checkConditions (scope : Scope) (conditions : Option (List (Expression Stored))) :
    Except Fault Unit :=
  (conditions.getD []).forM (checkCondition scope)

/-- Refuses a result column that names nothing. -/
def checkResultColumn (scope : Scope) : ResultColumn Stored → Except Fault Unit
  | .everything => if scope.isEmpty then .error .noTablesSpecified else .ok ()
  | .everythingOf name =>
    if scope.any fun binding => sameName binding.name name then .ok ()
    else .error (.noSuchTable name)
  | .computed expression _ _ => checkExpression scope true expression

/-- Refuses a query in which a name stands for nothing: its sources first, then its result
columns, its conditions and its keys. -/
def checkSelect (database : Database) (query : Select Stored) : Except Fault Unit := do
  let scope ← (sources query).mapM (sourceNames database)
  query.columns.forM (checkResultColumn scope)
  query.joins.forM fun join => checkConditions scope join.conditions
  checkConditions scope query.conditions
  let query := resolved database query
  query.ordering.forM fun key => checkExpression scope true key.expression
  query.grouping.forM (checkExpression scope false)
  query.having.forM (checkExpression scope true)

/-- A table that can be changed, as a source of names. -/
def changedNames (database : Database) (name : String) : Except Fault Binding :=
  match database.relation? name with
  | some relation => .ok (relation.names relation.name)
  | none =>
    match database.fullText? name with
    | some table => .ok (table.names table.name)
    | none =>
      if (database.readable? name).isSome then .error (.tableCannotChange name)
      else .error (.noSuchTable name)

/-- Refuses an insertion whose values do not belong to the columns of the table. -/
def checkInsert (database : Database) (outer : Scope) (insertion : Insert Stored) :
    Except Fault Unit := do
  let table ← changedNames database insertion.table
  if let some columns := insertion.columns then
    columns.forM fun column =>
      if (Binding.among column table.attributes table.values).isSome then .ok ()
      else .error (.unknownInsertColumn table.name column)
  let requireCount (count : Nat) : Except Fault Unit :=
    match insertion.columns with
    | some columns =>
      if count = columns.length then .ok ()
      else .error (.rowValueCountMismatch count columns.length)
    | none =>
      if count = table.attributes.length then .ok ()
      else .error (.valueCountMismatch table.name table.attributes.length count)
  match insertion.rows with
  | .defaults => return ()
  | .values rows =>
    let count := (rows.head?.map List.length).getD 0
    if rows.any fun row => row.length != count then throw .unevenValues
    rows.forM fun row => row.forM (checkExpression outer false)
    requireCount count
  | .selected query =>
    checkSelect database query
    requireCount (resultColumns database query).length

/-- Refuses a change in which a name stands for nothing. -/
def checkChange (database : Database) (outer : Scope) : Change Stored → Except Fault Unit
  | .insert insertion => checkInsert database outer insertion
  | .update modification => do
    let table ← changedNames database modification.table
    modification.assignments.forM fun assignment => do
      if (Binding.among assignment.1 table.attributes table.values).isNone then
        throw (.noSuchColumn assignment.1)
      checkExpression (table :: outer) false assignment.2
    checkConditions (table :: outer) modification.conditions
  | .delete deletion => do
    let table ← changedNames database deletion.table
    checkConditions (table :: outer) deletion.conditions

/-- The table that a change is about. -/
def tableOf {Operand : Type} : Change Operand → String
  | .insert insertion => insertion.table
  | .update modification => modification.table
  | .delete deletion => deletion.table

/-- What happens to the rows that a change is about. -/
def eventOf {Operand : Type} : Change Operand → RowEvent
  | .insert _ => .insertion
  | .update _ => .modification
  | .delete _ => .deletion

/-- Refuses a change whose triggers are about tables that are not there. -/
def checkTriggers (database : Database) (change : Change Stored) : Except Fault Unit :=
  (database.triggersOn (tableOf change) (eventOf change)).forM fun trigger =>
    trigger.body.forM fun step =>
      if (changedNames database (tableOf step)).toOption.isSome then .ok ()
      else .error (.noSuchTable ("main." ++ tableOf step))

end RecordStore.Engine
