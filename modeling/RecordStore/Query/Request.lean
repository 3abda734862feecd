import RecordStore.Model
import RecordStore.Query.Criteria
import RecordStore.Query.Page
import RecordStore.Query.SortOrder
import RecordStore.Text.Blank

/-!
# Requests

A request says which rows of a table are wanted, in which order and which page of them. It
compiles to one query. Without a term the rows come from the table itself. With a term the
full-text table, known as `a`, is joined to the table, known as `b`, on the key; the
criteria are asked of the table, the partition and the term of the full-text table, and
unless the request sorts, the best match comes first.

Counting and finding share everything that says which rows are meant.
-/

namespace RecordStore

open Sql

/-- What is asked of a table. -/
structure Request where
  criteria : Option Criteria := none
  sort : Option SortOrder := none
  limit : Option Int64 := none
  offset : Option Int64 := none
  partition : Option Partition := none
  /-- Words to search for; with them the full-text table is asked. -/
  term : Option String := none
  deriving Inhabited

namespace Request

/-- The name of the full-text table inside a query. -/
def shadowAlias : String := "a"

/-- The name of the table itself inside a query that also asks the full-text table. -/
def tableAlias : String := "b"

/-- A query for the rows that a plain request means, without result columns. -/
def plainRows (request : Request) (table : Table) : Except StoreError (Select Stored) := do
  let condition ← statedCondition? request.criteria request.partition table none
  return {
    columns := []
    source := some ⟨table.name, none⟩
    conditions := condition.map fun condition => [condition] }

/-- The conditions under which a row of the table belongs to a row of the full-text
table. -/
def keyConditions (table : Table) : List Condition :=
  table.primaryKey.map fun key =>
    .binary .equal (.column (some shadowAlias) key) (.column (some tableAlias) key)

/-- The first attribute of a partition that the full-text table does not carry. -/
def uncarried? (partition : Partition) (table : Table) : Option String :=
  (partition.attributes.find? fun held => !table.carriedColumns.contains held.1).map
    Prod.fst

/-- The conditions on the full-text table before the match. -/
def shadowConditions (request : Request) (table : Table) : Except StoreError (List Condition) :=
  match request.partition with
  | none => .ok []
  | some partition =>
    match uncarried? partition table with
    | some column =>
      .error (.invalidQuery ("partition column `" ++ column ++ "` is not carried by `" ++
        table.shadowName ++ "`"))
    | none => partition.conditions table (some shadowAlias)

/-- A query for the rows that a request with a term means, without result columns. -/
def matchedRows (request : Request) (table : Table) (term : String) :
    Except StoreError (Select Stored) := do
  if !table.isAnalyzed then
    throw (.invalidQuery ("table `" ++ table.name ++ "` has no analyzed columns to search"))
  if isBlankText term then
    throw (.invalidQuery "`term` cannot be empty")
  let asked ← match request.criteria with
    | some criteria => criteria.conditions table (some tableAlias)
    | none => pure []
  let confined ← request.shadowConditions table
  return {
    columns := []
    source := some ⟨table.shadowName, some shadowAlias⟩
    joins := [⟨⟨table.name, some tableAlias⟩,
      some (keyConditions table ++ (Expression.conjunction? asked).toList)⟩]
    conditions := some (confined ++
      [.matching (some shadowAlias) table.shadowName (.text term)]) }

/-- A query for the rows that a request means, without result columns. -/
def rows (request : Request) (table : Table) : Except StoreError (Select Stored) :=
  match request.term with
  | some term => request.matchedRows table term
  | none => request.plainRows table

/-- The name by which the query of a request knows the table. -/
def source (request : Request) : Option String := request.term.map fun _ => tableAlias

/-- Every column of the table, in the order of its declaration. -/
def resultColumns (table : Table) (source : Option String) : List (ResultColumn Stored) :=
  table.columnNames.map fun name =>
    .computed (.column source name) none (qualified source name)

/-- The order of the answer: as the request sorts, else the best match first. -/
def ordering (request : Request) (table : Table) : Except StoreError (List (OrderKey Stored)) :=
  match request.sort, request.term with
  | some sort, _ => sort.orderKeys table request.source
  | none, some _ => .ok [⟨.column (some shadowAlias) "rank", none⟩]
  | none, none => .ok []

/-- A query for the number of rows that a request means. -/
def counting (request : Request) (table : Table) : Except StoreError (Select Stored) := do
  let rows ← request.rows table
  return { rows with columns := [.computed .countRows none "COUNT(*)"] }

/-- A query for one page of the rows that a request means. -/
def finding (request : Request) (table : Table) (page : Page) :
    Except StoreError (Select Stored) := do
  let rows ← request.rows table
  let ordering ← request.ordering table
  return { rows with
    columns := resultColumns table request.source
    ordering := ordering
    limit := some (.operand (.integer page.limit))
    offset := some (.operand (.integer page.offset)) }

/-- A query for the first row that satisfies criteria. -/
def findingOne (table : Table) (criteria : Criteria) : Except StoreError (Select Stored) := do
  let rows ← plainRows { criteria := some criteria } table
  return { rows with
    columns := resultColumns table none
    limit := some (.number 1) }

end Request

end RecordStore
