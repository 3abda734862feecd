import RecordStore.Engine.Evaluation
import RecordStore.FullText.Rank

/-!
# Queries

The answer of a query. The rows of the sources are combined, those on which all conditions
hold are kept, in the order in which they are read; then they are grouped, ordered and cut to
the window, and the result columns are computed. Ordering keeps the order of rows that it
does not tell apart.

Rows are read in the order in which a relation keeps them. Where a query restricts or reads
nothing but a unique key, its rows are read in the order of that key.
-/

namespace RecordStore.Engine

open Sql

/-- What a query answers: the names of its columns and its rows. -/
structure Answer where
  names : List String
  rows : List (List Stored)
  deriving DecidableEq, Repr, Inhabited

/-- The number in the only row and column of an answer; zero without a row. -/
def Answer.number (answer : Answer) : Int64 :=
  match answer.rows with
  | (.integer number :: _) :: _ => number
  | _ => 0

/-- The parts of a condition that must all hold. -/
def conjuncts : Expression Stored → List (Expression Stored)
  | .binary .and left right => conjuncts left ++ conjuncts right
  | .grouped inner => conjuncts inner
  | condition => [condition]

/-- The parts of all conditions of a clause. -/
def clauseConjuncts (conditions : Option (List (Expression Stored))) :
    List (Expression Stored) :=
  (conditions.getD []).flatMap conjuncts

/-- The columns that an expression reads. -/
def columnsRead : Expression Stored → List (Option String × String)
  | .column source name => [(source, name)]
  | .unary _ inner => columnsRead inner
  | .binary _ left right => columnsRead left ++ columnsRead right
  | .oneOf _ target _ => columnsRead target
  | .grouped inner => columnsRead inner
  | .matching source name _ => [(source, name)]
  | .aggregate _ _ argument => columnsRead argument
  | _ => []

/-- Whether an expression is about a group. -/
def isAggregated : Expression Stored → Bool
  | .unary _ inner => isAggregated inner
  | .binary _ left right => isAggregated left || isAggregated right
  | .oneOf _ target _ => isAggregated target
  | .grouped inner => isAggregated inner
  | .countRows => true
  | .aggregate _ _ _ => true
  | _ => false

/-- The column that a condition restricts to some values, if it restricts one. -/
def restricted? : Expression Stored → Option String
  | .binary operator (.column _ name) (.operand _) =>
    match operator with
    | .equal | .less | .atMost | .greater | .atLeast | .is => some name
    | _ => none
  | .binary operator (.column _ name) (.number _) =>
    match operator with
    | .equal | .less | .atMost | .greater | .atLeast | .is => some name
    | _ => none
  | .oneOf false (.column _ name) _ => some name
  | .unary .isNull (.column _ name) => some name
  | _ => none

/-- The expressions of a query that are computed for rows. -/
def rowExpressions (query : Select Stored) : List (Expression Stored) :=
  (query.columns.filterMap fun column =>
    match column with
    | .computed expression _ _ => some expression
    | _ => none) ++
  clauseConjuncts query.conditions ++ query.grouping ++
  query.ordering.map fun key => key.expression

/-- Whether a query returns columns without naming them. -/
def returnsEverything (query : Select Stored) : Bool :=
  query.columns.any fun column =>
    match column with
    | .computed .. => false
    | _ => true

/-- Whether a query reads the rows of a relation in the order of a unique key: when it
restricts the first column of the key, or reads only a part of the row, all of it in the
key. -/
def readsByKey (query : Select Stored) (relation : Relation) (key : List String) : Bool :=
  match key with
  | [] => false
  | first :: _ =>
    (clauseConjuncts query.conditions).any (fun condition =>
      (restricted? condition).any (sameName first)) ||
    (decide (key.length < relation.attributes.length) && !returnsEverything query &&
      (rowExpressions query).all fun expression =>
        (columnsRead expression).all fun column =>
          (key ++ numberNames).any (sameName column.2))

/-- The rows of a relation in the order in which a query reads them. -/
def rowsRead (query : Select Stored) (relation : Relation) : List Row :=
  match relation.identity, relation.uniques with
  | .hidden, key :: _ =>
    if readsByKey query relation key then
      relation.rows.mergeSort fun left right =>
        Relation.keyOrder (relation.project key left) (relation.project key right) != .gt
    else relation.rows
  | _, _ => relation.rows

/-- A row of a relation under a name. -/
def Relation.binding (relation : Relation) (name : String) (row : Row) : Binding where
  name := name
  attributes := relation.attributes
  values := row.values
  number := match relation.identity with
    | .keyed _ => none
    | _ => some row.number

/-- A row of a full-text table under a name, with its rank. -/
def FullTextTable.binding (table : FullTextTable) (name : String) (row : Row) (rank : Stored) :
    Binding where
  name := name
  attributes := table.attributes
  values := row.values
  number := some row.number
  fullText := some (table.name, table.columns, rank)

/-- The pattern texts that the conditions of a query ask of a source, with the columns by
which they ask. -/
def patternsAsked (query : Select Stored) (source : Source) : List (String × Stored) :=
  let conditions :=
    clauseConjuncts query.conditions ++
      query.joins.flatMap fun join => clauseConjuncts join.conditions
  conditions.filterMap fun condition =>
    match condition with
    | .matching asked name pattern =>
      if asked.all (sameName source.name) then some (name, pattern) else none
    | _ => none

/-- What a query asks of a full-text table. -/
def askedOf (query : Select Stored) (source : Source) (table : FullTextTable) :
    Except Fault (Option FullText.Pattern) :=
  (patternsAsked query source).foldlM
    (fun asked (pattern : String × Stored) => do
      let parsed ← FullText.Pattern.parse table.columnNames pattern.2.toText
      let parsed :=
        if sameName pattern.1 table.name then parsed
        else parsed.confine (table.columnNames.filter (sameName pattern.1))
      match asked with
      | none => return some parsed
      | some earlier => return some (.both earlier parsed))
    none

/-- The rows of a full-text table under a name, ranked by what is asked. -/
def rankedBindings (table : FullTextTable) (name : String) (asked : Option FullText.Pattern) :
    List Binding :=
  match asked with
  | none => table.rows.map fun row => table.binding name row .null
  | some pattern =>
    let corpus : FullText.Corpus := ⟨table.rows.map table.words⟩
    (table.rows.zip (corpus.ranks pattern)).map fun ranked =>
      table.binding name ranked.1 (.real ranked.2)

/-- The rows of a source. -/
def bindings (database : Database) (query : Select Stored) (source : Source) :
    Except Fault (List Binding) :=
  match database.readable? source.table with
  | some relation => .ok ((rowsRead query relation).map (relation.binding source.name))
  | none =>
    match database.fullText? source.table with
    | some table => do
      return rankedBindings table source.name (← askedOf query source table)
    | none => .error (.noSuchTable source.table)

/-- Scopes with each row of a further source on which the conditions of the join hold. -/
def joinScopes (conditions : Option (List (Expression Stored))) (scopes : List Scope)
    (rows : List Binding) : List Scope :=
  scopes.flatMap fun scope =>
    (rows.map fun row => scope ++ [row]).filter fun joined => allHold joined conditions

/-- The scopes of a query on which all its conditions hold. -/
def scopes (database : Database) (query : Select Stored) : Except Fault (List Scope) := do
  let first ← match query.source with
    | none => pure [[]]
    | some source => pure ((← bindings database query source).map fun row => [row])
  let joined ← query.joins.foldlM
    (fun scopes join => do
      return joinScopes join.conditions scopes (← bindings database query join.source))
    first
  return joined.filter fun scope => allHold scope query.conditions

/-- A row of an answer before its columns are computed: the group that it stands for and one
scope of it. -/
structure Grouped where
  group : List Scope
  scope : Scope

/-- Values of expressions, for grouping or ordering. -/
def keyOf (expressions : List (Expression Stored)) (grouped : Grouped) : List Stored :=
  expressions.map (evaluate grouped.group grouped.scope)

/-- Puts together neighbours with the same key. -/
def gatherGroups (same : Scope → Scope → Bool) : List Scope → List Grouped
  | [] => []
  | scope :: rest =>
    match gatherGroups same rest with
    | [] => [⟨[scope], scope⟩]
    | next :: others =>
      if same scope next.scope then ⟨scope :: next.group, scope⟩ :: others
      else ⟨[scope], scope⟩ :: next :: others

/-- Whether a query answers for groups. -/
def answersForGroups (query : Select Stored) : Bool :=
  !query.grouping.isEmpty || query.having.isSome ||
    (rowExpressions query).any isAggregated

/-- The groups of a query: each row by itself, all rows at once, or rows with equal keys. -/
def grouped (query : Select Stored) (scopes : List Scope) : List Grouped :=
  if !answersForGroups query then scopes.map fun scope => ⟨[], scope⟩
  else if query.grouping.isEmpty then [⟨scopes, scopes.headD []⟩]
  else
    let key (scope : Scope) : List Stored := keyOf query.grouping ⟨[], scope⟩
    let ordered := scopes.mergeSort fun left right =>
      Relation.keyOrder (key left) (key right) != .gt
    gatherGroups (fun left right => Relation.keyOrder (key left) (key right) == .eq) ordered

/-- Two lists of values in the order of their first difference, each value in its
direction. -/
def directedOrder : List (Option Direction) → List Stored → List Stored → Ordering
  | direction :: directions, left :: lefts, right :: rights =>
    let first := left.order right
    (if direction == some .descending then first.swap else first).then
      (directedOrder directions lefts rights)
  | _, _, _ => .eq

/-- Rows in the order that a query asks for. -/
def ordered (query : Select Stored) (rows : List Grouped) : List Grouped :=
  if query.ordering.isEmpty then rows
  else
    let directions := query.ordering.map OrderKey.direction
    let keyed := rows.map fun row =>
      (keyOf (query.ordering.map OrderKey.expression) row, row)
    (keyed.mergeSort fun left right =>
      directedOrder directions left.1 right.1 != .gt).map Prod.snd

/-- A bound of the window, which must be an integer. -/
def bound (expression : Expression Stored) : Except Fault Int :=
  match (evaluate [] [] expression).textAsNumber.wholeAsInteger with
  | .integer value => .ok value.toInt
  | _ => .error .datatypeMismatch

/-- The rows inside the window. A negative limit is no limit, a negative offset none. -/
def windowed {α : Type} (limit offset : Option Int) (rows : List α) : List α :=
  let rows := rows.drop (offset.getD 0).toNat
  match limit with
  | some limit => if limit < 0 then rows else rows.take limit.toNat
  | none => rows

/-- Rows without repetition, the first of each kept. -/
def distinctRows : List (List Stored) → List (List Stored)
  | [] => []
  | row :: rest =>
    row :: (distinctRows rest).filter fun other => Relation.keyOrder row other != .eq

/-- The attributes of a source. -/
def sourceAttributes (database : Database) (source : Source) : List Attribute :=
  match database.readable? source.table with
  | some relation => relation.attributes
  | none => ((database.fullText? source.table).map FullTextTable.attributes).getD []

/-- All sources of a query. -/
def sources (query : Select Stored) : List Source :=
  query.source.toList ++ query.joins.map Join.source

/-- All columns of a source, by name. -/
def everythingOf (database : Database) (source : Source) :
    List (String × Expression Stored) :=
  (sourceAttributes database source).map fun attr =>
    (attr.name, .column (some source.name) attr.name)

/-- The name under which a source returns the numbers of its rows: that of the column that
shows them, or the first of the names by which they can be asked for. -/
def numberName (database : Database) (source : Source) : String :=
  match (database.readable? source.table).map Relation.identity with
  | some (.shown column _) => column
  | _ => numberNames.headD ""

/-- The declared name of a column, for a column that a source has. -/
def declaredName? (database : Database) (query : Select Stored) (source : Option String)
    (name : String) : Option String :=
  (sources query).findSome? fun candidate =>
    if source.all (sameName candidate.name) then
      ((sourceAttributes database candidate).find? fun attr => sameName attr.name name).map
        Attribute.name
    else none

/-- The name under which a query returns a column that is not renamed. -/
def returnedName (database : Database) (query : Select Stored) (source : Option String)
    (name : String) : String :=
  match declaredName? database query source name with
  | some declared => declared
  | none =>
    match (sources query).find? fun candidate => source.all (sameName candidate.name) with
    | some candidate =>
      if numberNames.any (sameName name) then numberName database candidate else name
    | none => name

/-- The result columns of a query: their names and what they compute. -/
def resultColumns (database : Database) (query : Select Stored) :
    List (String × Expression Stored) :=
  query.columns.flatMap fun column =>
    match column with
    | .everything => (sources query).flatMap (everythingOf database)
    | .everythingOf name =>
      ((sources query).filter fun source => sameName source.name name).flatMap
        (everythingOf database)
    | .computed expression newName text =>
      match newName, expression with
      | some newName, _ => [(newName, expression)]
      | none, .column source name => [(returnedName database query source name, expression)]
      | none, _ => [(text, expression)]

/-- A key of an ordering or a grouping with the name or the number of a result column
replaced by what the column computes. -/
def resolveKey (columns : List (String × Expression Stored)) (known : String → Bool)
    (key : Expression Stored) : Expression Stored :=
  match key with
  | .number place =>
    match columns[place.toInt.toNat - 1]? with
    | some column => column.2
    | none => key
  | .column none name =>
    if known name then key
    else
      match columns.find? fun column => sameName column.1 name with
      | some column => column.2
      | none => key
  | _ => key

/-- A query whose keys name no result columns any more. An ordering means a result column
before it means a column of a source, a grouping the other way round. -/
def resolved (database : Database) (query : Select Stored) : Select Stored :=
  let columns := resultColumns database query
  let isAlias (name : String) : Bool := query.columns.any fun column =>
    match column with
    | .computed _ (some newName) _ => sameName newName name
    | _ => false
  let isColumn (name : String) : Bool := (declaredName? database query none name).isSome
  { query with
    grouping := query.grouping.map (resolveKey columns isColumn)
    ordering := query.ordering.map fun key =>
      { key with expression := resolveKey columns (fun name => !isAlias name) key.expression } }

/-- The answer of a query. -/
def select (database : Database) (query : Select Stored) : Except Fault Answer := do
  let query := resolved database query
  let columns := resultColumns database query
  let rows := grouped query (← scopes database query)
  let rows := match query.having with
    | none => rows
    | some condition => rows.filter fun row =>
      (evaluate row.group row.scope condition).truth? == some true
  let limit ← query.limit.mapM bound
  let offset ← query.offset.mapM bound
  let values (row : Grouped) : List Stored :=
    columns.map fun column => evaluate row.group row.scope column.2
  let rows := (ordered query rows).map values
  let rows := if query.distinct then distinctRows rows else rows
  return ⟨columns.map Prod.fst, windowed limit offset rows⟩

end RecordStore.Engine
