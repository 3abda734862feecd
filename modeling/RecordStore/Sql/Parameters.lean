import RecordStore.Sql.Parser
import RecordStore.Sql.Render

/-!
# Parameters

What a statement means once its parameters have values. A statement that was read refers to
its parameters by their places; `ReadStatement.bind` puts values into those places and
nothing else, so a value can never change which statement is meant. A statement with too few
or too many values is refused, and a trigger cannot have parameters at all.
-/

namespace RecordStore.Sql

variable {Operand Other : Type}

/-- Conditions with every operand replaced. -/
def mapConditions (replace : Operand → Other) :
    Option (List (Expression Operand)) → Option (List (Expression Other)) :=
  Option.map (List.map (Expression.mapOperands replace))

/-- A result column with its operands replaced. -/
def ResultColumn.mapOperands (replace : Operand → Other) :
    ResultColumn Operand → ResultColumn Other
  | .everything => .everything
  | .everythingOf source => .everythingOf source
  | .computed expression newName text => .computed (expression.mapOperands replace) newName text

/-- A query with every operand replaced. -/
def Select.mapOperands (replace : Operand → Other) (query : Select Operand) : Select Other where
  distinct := query.distinct
  columns := query.columns.map (ResultColumn.mapOperands replace)
  source := query.source
  joins := query.joins.map fun join => ⟨join.source, mapConditions replace join.conditions⟩
  conditions := mapConditions replace query.conditions
  grouping := query.grouping.map (Expression.mapOperands replace)
  having := query.having.map (Expression.mapOperands replace)
  ordering := query.ordering.map fun key =>
    ⟨key.expression.mapOperands replace, key.direction⟩
  limit := query.limit.map (Expression.mapOperands replace)
  offset := query.offset.map (Expression.mapOperands replace)

/-- The rows of an insertion with their operands replaced. -/
def Rows.mapOperands (replace : Operand → Other) : Rows Operand → Rows Other
  | .defaults => .defaults
  | .values rows => .values (rows.map fun row => row.map (Expression.mapOperands replace))
  | .selected query => .selected (query.mapOperands replace)

/-- A change with every operand replaced. -/
def Change.mapOperands (replace : Operand → Other) : Change Operand → Change Other
  | .insert insertion => .insert {
      conflict := insertion.conflict
      table := insertion.table
      columns := insertion.columns
      rows := insertion.rows.mapOperands replace }
  | .update modification => .update {
      conflict := modification.conflict
      table := modification.table
      assignments := modification.assignments.map fun assignment =>
        (assignment.1, assignment.2.mapOperands replace)
      conditions := mapConditions replace modification.conditions }
  | .delete deletion => .delete {
      table := deletion.table
      conditions := mapConditions replace deletion.conditions }

/-- The definition of a trigger with its operands replaced. -/
def TriggerDefinition.mapOperands (replace : Operand → Other)
    (definition : TriggerDefinition Operand) : TriggerDefinition Other where
  name := definition.name
  ifMissing := definition.ifMissing
  event := definition.event
  table := definition.table
  body := definition.body.map (Change.mapOperands replace)

/-- A statement with every operand replaced. -/
def Statement.mapOperands (replace : Operand → Other) : Statement Operand → Statement Other
  | .select query => .select (query.mapOperands replace)
  | .change step => .change (step.mapOperands replace)
  | .createTable definition => .createTable definition
  | .createFullText definition => .createFullText definition
  | .createTrigger definition => .createTrigger (definition.mapOperands replace)
  | .dropTable name ifPresent => .dropTable name ifPresent
  | .dropTrigger name ifPresent => .dropTrigger name ifPresent
  | .begin mode => .begin mode
  | .commit => .commit
  | .rollback => .rollback
  | .savepoint name => .savepoint name
  | .release name => .release name
  | .rollbackTo name => .rollbackTo name

/-- The value of a term, given the values of the parameters in the order of their places.
Places start at one. -/
def Term.value (parameters : List Stored) : Term → Stored
  | .parameter place => (parameters[place - 1]?).getD .null
  | .constant value => value

namespace ReadStatement

/-- The statement with its parameters replaced by values. -/
def withParameters (read : ReadStatement) (parameters : List Stored) : Statement Stored :=
  read.statement.mapOperands (Term.value (parameters.map Stored.bound))

/-- Whether parameters stand where none can have a value. -/
def hasTriggerParameters (read : ReadStatement) : Bool :=
  match read.statement with
  | .createTrigger _ => read.parameters != 0
  | _ => false

/-- Refuses a number of values that is not the number of parameters. -/
def requireParameters (read : ReadStatement) (given : Nat) : Except Fault Unit :=
  if given = read.parameters then .ok ()
  else .error (.wrongParameterCount (min given (read.parameters + 1)) read.parameters)

end ReadStatement

end RecordStore.Sql
