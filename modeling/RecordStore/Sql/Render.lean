import RecordStore.Sql.Syntax

/-!
# The text of a statement

A statement is written with a question mark for each operand, so that no value is ever
part of the text. `operands` lists the values in the order of their question marks; a
fragment holds both. Both follow the same structure, which is why the marks and the values
line up.
-/

namespace RecordStore.Sql

/-- A piece of statement text with the values of its placeholders, in their order. -/
structure Fragment where
  text : String
  operands : List Stored
  deriving DecidableEq, Repr, Inhabited

/-- Items with a separator between them. -/
def joined (separator : String) (items : List String) : String :=
  String.intercalate separator items

namespace UnaryOperator

/-- An operation written around the text of its operand. -/
def apply (operator : UnaryOperator) (inner : String) : String :=
  match operator with
  | .negative => "-" ++ inner
  | .positive => "+" ++ inner
  | .not => "NOT " ++ inner
  | .isNull => inner ++ " IS NULL"
  | .isNotNull => inner ++ " IS NOT NULL"
  | .length => "LENGTH(" ++ inner ++ ")"
  | .upper => "UPPER(" ++ inner ++ ")"
  | .lower => "LOWER(" ++ inner ++ ")"
  | .typeOf => "TYPEOF(" ++ inner ++ ")"
  | .absolute => "ABS(" ++ inner ++ ")"
  | .hexadecimal => "HEX(" ++ inner ++ ")"
  | .quoted => "QUOTE(" ++ inner ++ ")"
  | .trimmed => "TRIM(" ++ inner ++ ")"
  | .asText => "CAST(" ++ inner ++ " AS TEXT)"
  | .asInteger => "CAST(" ++ inner ++ " AS INTEGER)"
  | .asReal => "CAST(" ++ inner ++ " AS REAL)"
  | .asNumeric => "CAST(" ++ inner ++ " AS NUMERIC)"
  | .asBlob => "CAST(" ++ inner ++ " AS BLOB)"

end UnaryOperator

namespace BinaryOperator

/-- The text between the operands, for an operation that stands between them. -/
def symbol : BinaryOperator → String
  | .equal => "="
  | .unequal => "<>"
  | .less => "<"
  | .atMost => "<="
  | .greater => ">"
  | .atLeast => ">="
  | .is => "IS"
  | .isNot => "IS NOT"
  | .and => "AND"
  | .or => "OR"
  | .add => "+"
  | .subtract => "-"
  | .multiply => "*"
  | .divide => "/"
  | .remainder => "%"
  | .concatenate => "||"
  | .like => "LIKE"
  | .notLike => "NOT LIKE"
  | .coalesce => "COALESCE"
  | .nullIf => "NULLIF"

/-- An operation written with the texts of its operands. -/
def apply (operator : BinaryOperator) (left right : String) : String :=
  match operator with
  | .coalesce | .nullIf => operator.symbol ++ "(" ++ left ++ ", " ++ right ++ ")"
  | _ => left ++ " " ++ operator.symbol ++ " " ++ right

end BinaryOperator

/-- The name of an aggregate function. -/
def Aggregate.name : Aggregate → String
  | .count => "COUNT"
  | .sum => "SUM"
  | .total => "TOTAL"
  | .average => "AVG"
  | .least => "MIN"
  | .greatest => "MAX"

/-- A column, with the name of its source before it when one is given. -/
def qualified (source : Option String) (name : String) : String :=
  match source with
  | some source => source ++ "." ++ name
  | none => name

variable {Operand : Type}

namespace Expression

/-- The text of an expression. -/
def render : Expression Operand → String
  | .operand _ => "?"
  | .number value => toString value.toInt
  | .column source name => qualified source name
  | .unary operator inner => operator.apply inner.render
  | .binary operator left right => operator.apply left.render right.render
  | .oneOf negated target candidates =>
    target.render ++ (if negated then " NOT IN (" else " IN (") ++
      joined ", " (candidates.map fun _ => "?") ++ ")"
  | .grouped inner => "(" ++ inner.render ++ ")"
  | .matching source name _ => qualified source name ++ " MATCH ?"
  | .countRows => "COUNT(*)"
  | .aggregate function distinct argument =>
    function.name ++ (if distinct then "(DISTINCT " else "(") ++ argument.render ++ ")"

/-- The operands of an expression, in the order in which its text mentions them. -/
def operands : Expression Operand → List Operand
  | .operand value => [value]
  | .number _ => []
  | .column _ _ => []
  | .unary _ inner => inner.operands
  | .binary _ left right => left.operands ++ right.operands
  | .oneOf _ target candidates => target.operands ++ candidates
  | .grouped inner => inner.operands
  | .matching _ _ pattern => [pattern]
  | .countRows => []
  | .aggregate _ _ argument => argument.operands

/-- An expression with every operand replaced. -/
def mapOperands {Other : Type} (replace : Operand → Other) : Expression Operand → Expression Other
  | .operand value => .operand (replace value)
  | .number value => .number value
  | .column source name => .column source name
  | .unary operator inner => .unary operator (inner.mapOperands replace)
  | .binary operator left right =>
    .binary operator (left.mapOperands replace) (right.mapOperands replace)
  | .oneOf negated target candidates =>
    .oneOf negated (target.mapOperands replace) (candidates.map replace)
  | .grouped inner => .grouped (inner.mapOperands replace)
  | .matching source name pattern => .matching source name (replace pattern)
  | .countRows => .countRows
  | .aggregate function distinct argument =>
    .aggregate function distinct (argument.mapOperands replace)

/-- Expressions that must all hold, as one expression: nothing for none, the expression
itself for one, and a parenthesised chain for more. -/
def conjunction? : List (Expression Operand) → Option (Expression Operand)
  | [] => none
  | [only] => some only
  | first :: rest => some (.grouped (rest.foldl (.binary .and) first))

/-- The text of an expression with the values of its operands. -/
def fragment (expression : Expression Stored) : Fragment :=
  ⟨expression.render, expression.operands⟩

end Expression

/-- The text of conditions that all hold. -/
def renderConditions (conditions : List (Expression Operand)) : String :=
  joined " AND " (conditions.map Expression.render)

/-- A clause that is left out when it has no conditions at all. -/
def renderClause (keyword : String) : Option (List (Expression Operand)) → String
  | none => ""
  | some conditions => " " ++ keyword ++ " " ++ renderConditions conditions

/-- The operands of the conditions of a clause. -/
def conditionOperands : Option (List (Expression Operand)) → List Operand
  | none => []
  | some conditions => conditions.flatMap Expression.operands

/-- The word for a direction. -/
def Direction.text : Direction → String
  | .ascending => "ASC"
  | .descending => "DESC"

/-- The text of a result column. -/
def ResultColumn.render : ResultColumn Operand → String
  | .everything => "*"
  | .everythingOf source => source ++ ".*"
  | .computed expression newName _ =>
    match newName with
    | some newName => expression.render ++ " AS " ++ newName
    | none => expression.render

/-- The operands of a result column. -/
def ResultColumn.operands : ResultColumn Operand → List Operand
  | .computed expression _ _ => expression.operands
  | _ => []

/-- The text of a source, with its new name. -/
def Source.render (source : Source) : String :=
  match source.newName with
  | some newName => source.table ++ " " ++ newName
  | none => source.table

/-- The text of a join, with the conditions of the join. -/
def Join.render (join : Join Operand) : String :=
  " INNER JOIN " ++ join.source.render ++ renderClause "ON" join.conditions

/-- The text of a key of an ordering. -/
def OrderKey.render (key : OrderKey Operand) : String :=
  match key.direction with
  | some direction => key.expression.render ++ " " ++ direction.text
  | none => key.expression.render

namespace Select

/-- Everything between the result columns and the ordering: which rows are meant. -/
def renderRows (query : Select Operand) : String :=
  (match query.source with
    | some source => " FROM " ++ source.render
    | none => "") ++
  String.join (query.joins.map Join.render) ++
  renderClause "WHERE" query.conditions

/-- The text of the grouping and of what groups must satisfy. -/
def renderGrouping (query : Select Operand) : String :=
  (if query.grouping.isEmpty then ""
    else " GROUP BY " ++ joined ", " (query.grouping.map Expression.render)) ++
  (match query.having with
    | some condition => " HAVING " ++ condition.render
    | none => "")

/-- The text of the ordering. -/
def renderOrdering (query : Select Operand) : String :=
  if query.ordering.isEmpty then ""
  else " ORDER BY " ++ joined ", " (query.ordering.map OrderKey.render)

/-- The text of the limit and the offset. -/
def renderWindow (query : Select Operand) : String :=
  (match query.limit with
    | some limit => " LIMIT " ++ limit.render
    | none => "") ++
  (match query.offset with
    | some offset => " OFFSET " ++ offset.render
    | none => "")

/-- The text of a query. -/
def render (query : Select Operand) : String :=
  "SELECT " ++ (if query.distinct then "DISTINCT " else "") ++
    joined ", " (query.columns.map ResultColumn.render) ++
    query.renderRows ++ query.renderGrouping ++ query.renderOrdering ++ query.renderWindow

/-- The operands of the clauses that say which rows are meant. -/
def rowOperands (query : Select Operand) : List Operand :=
  query.joins.flatMap (fun join => conditionOperands join.conditions) ++
    conditionOperands query.conditions

/-- The operands of a query in the order of their placeholders. -/
def operands (query : Select Operand) : List Operand :=
  query.columns.flatMap ResultColumn.operands ++ query.rowOperands ++
    query.grouping.flatMap Expression.operands ++
    (query.having.map Expression.operands).getD [] ++
    query.ordering.flatMap (fun key => key.expression.operands) ++
    (query.limit.map Expression.operands).getD [] ++
    (query.offset.map Expression.operands).getD []

/-- The text of a query with the values of its operands. -/
def fragment (query : Select Stored) : Fragment := ⟨query.render, query.operands⟩

end Select

/-- What an insertion says about rows in its way. -/
def Conflict.render : Conflict → String
  | .abort => ""
  | .ignore => "OR IGNORE "
  | .replace => "OR REPLACE "

namespace Change

/-- The text of a row of an insertion. -/
def renderRow (row : List (Expression Operand)) : String :=
  "(" ++ joined ", " (row.map Expression.render) ++ ")"

/-- The text of the rows of an insertion. -/
def renderRows : Rows Operand → String
  | .defaults => " DEFAULT VALUES"
  | .values rows => " VALUES " ++ joined ", " (rows.map renderRow)
  | .selected query => " " ++ query.render

/-- The text of a change. -/
def render : Change Operand → String
  | .insert insertion =>
    "INSERT " ++ insertion.conflict.render ++ "INTO " ++ insertion.table ++
      (match insertion.columns with
        | some columns => " (" ++ joined ", " columns ++ ")"
        | none => "") ++
      renderRows insertion.rows
  | .update modification =>
    "UPDATE " ++ modification.conflict.render ++ modification.table ++ " SET " ++
      joined ", " (modification.assignments.map fun assignment =>
        assignment.1 ++ " = " ++ assignment.2.render) ++
      renderClause "WHERE" modification.conditions
  | .delete deletion =>
    "DELETE FROM " ++ deletion.table ++ renderClause "WHERE" deletion.conditions

/-- The operands of the rows of an insertion. -/
def rowOperands : Rows Operand → List Operand
  | .defaults => []
  | .values rows => rows.flatMap fun row => row.flatMap Expression.operands
  | .selected query => query.operands

/-- The operands of a change, in the order in which its text mentions them. -/
def operands : Change Operand → List Operand
  | .insert insertion => rowOperands insertion.rows
  | .update modification =>
    modification.assignments.flatMap (fun assignment => assignment.2.operands) ++
      conditionOperands modification.conditions
  | .delete deletion => conditionOperands deletion.conditions

end Change

namespace ColumnDefinition

/-- The text of a column in the creation of a table. -/
def render (column : ColumnDefinition) : String :=
  column.name ++ (if column.typeWords.isEmpty then "" else " " ++ column.typeWords) ++
    (match column.inlineKey with
      | some true => " PRIMARY KEY AUTOINCREMENT"
      | some false => " PRIMARY KEY"
      | none => "") ++
    (match column.required with
      | some true => " NOT NULL"
      | some false => " NULL"
      | none => "") ++
    (if column.unique then " UNIQUE" else "")

end ColumnDefinition

/-- The text of a table's creation: the columns and then the keys, one to a line. -/
def TableDefinition.render (definition : TableDefinition) : String :=
  "CREATE TABLE " ++ (if definition.ifMissing then "IF NOT EXISTS " else "") ++
    definition.name ++ " (\n" ++
    joined ",\n" (definition.columns.map ColumnDefinition.render ++
      definition.keys.map (fun key => "PRIMARY KEY (" ++ joined "," key ++ ")") ++
      definition.uniques.map (fun key => "UNIQUE (" ++ joined "," key ++ ")")) ++
    "\n)" ++ (if definition.withoutRowid then " WITHOUT ROWID" else "")

/-- The text of a column in the creation of a full-text table. -/
def FullTextColumn.render (column : FullTextColumn) : String :=
  if column.indexed then column.name else column.name ++ " UNINDEXED"

/-- The text of a full-text table's creation. -/
def FullTextDefinition.render (definition : FullTextDefinition) : String :=
  "CREATE VIRTUAL TABLE " ++ (if definition.ifMissing then "IF NOT EXISTS " else "") ++
    definition.name ++ " USING fts5(" ++
    joined ", " (definition.columns.map FullTextColumn.render) ++ ")"

/-- The word for what happens to a row. -/
def RowEvent.text : RowEvent → String
  | .insertion => "INSERT"
  | .deletion => "DELETE"
  | .modification => "UPDATE"

/-- The text of a trigger's creation; each step of its body ends with a semicolon. -/
def TriggerDefinition.render (definition : TriggerDefinition Operand) : String :=
  "CREATE TRIGGER " ++ (if definition.ifMissing then "IF NOT EXISTS " else "") ++
    definition.name ++ " AFTER " ++ definition.event.text ++ " ON " ++ definition.table ++
    " BEGIN " ++ String.join (definition.body.map fun step => step.render ++ "; ") ++ "END"

namespace Statement

/-- The text of a statement. -/
def render : Statement Operand → String
  | .select query => query.render
  | .change step => step.render
  | .createTable definition => definition.render
  | .createFullText definition => definition.render
  | .createTrigger definition => definition.render
  | .dropTable name ifPresent => "DROP TABLE " ++ (if ifPresent then "IF EXISTS " else "") ++ name
  | .dropTrigger name ifPresent =>
    "DROP TRIGGER " ++ (if ifPresent then "IF EXISTS " else "") ++ name
  | .begin .deferred => "BEGIN"
  | .begin .immediate => "BEGIN IMMEDIATE"
  | .begin .exclusive => "BEGIN EXCLUSIVE"
  | .commit => "COMMIT"
  | .rollback => "ROLLBACK"
  | .savepoint name => "SAVEPOINT " ++ name
  | .release name => "RELEASE " ++ name
  | .rollbackTo name => "ROLLBACK TO " ++ name

end Statement

end RecordStore.Sql
