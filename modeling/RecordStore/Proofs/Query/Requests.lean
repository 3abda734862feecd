import RecordStore.Proofs.Query.Tables

/-!
# The parts of a request

The queries of a request are put together from its rows and its order, and whichever of the two is
refused first refuses the query. The rows of a request without a term are those of the table under
the conditions that it states. A request that sorts is in the order of its columns; else the rank of
a match is the order of a request with a term, and a request without one has none.
-/

namespace RecordStore

open Engine Sql

/-- What criteria and a partition state is the conjunction of their conditions. -/
theorem stated_condition?_eq (criteria : Option Criteria) (partition : Option Partition)
    (table : Table) (source : Option String) :
    statedCondition? criteria partition table source =
      (statedConditions criteria partition table source).map Expression.conjunction? := by
  unfold statedCondition?
  cases statedConditions criteria partition table source <;> rfl

/-- The query for the rows of a table under a condition, without result columns. -/
def Table.rowsQuery (table : Table) (condition : Option Condition) : Select Stored where
  columns := []
  source := some ⟨table.name, none⟩
  conditions := condition.map fun condition => [condition]

namespace Request

variable {request : Request} {table : Table} {rows query : Select Stored}
  {keys : List (OrderKey Stored)} {page : Page} {term : String} {sort : SortOrder}

/-! ### Rows -/

/-- Without a term a request compiles to its plain rows. -/
theorem rows_plain (plain : request.term = none) :
    request.rows table = request.plainRows table := by
  rw [Request.rows, plain]

/-- With a term it compiles to the rows that match it. -/
theorem rows_asking (asks : request.term = some term) :
    request.rows table = request.matchedRows table term := by
  rw [Request.rows, asks]

/-- Without a term the columns stand under no source. -/
theorem source_plain (plain : request.term = none) : request.source = none := by
  rw [source, plain, Option.map_none]

/-- With a term they stand under the alias of the table. -/
theorem source_asking (asks : request.term = some term) : request.source = some tableAlias := by
  rw [source, asks, Option.map_some]

/-- A plain request compiles to the rows under what it states. -/
theorem plain_rows_eq (request : Request) (table : Table) :
    request.plainRows table =
      (statedConditions request.criteria request.partition table none).map fun conditions =>
        table.rowsQuery (Expression.conjunction? conditions) := by
  unfold plainRows
  rw [stated_condition?_eq]
  cases statedConditions request.criteria request.partition table none <;> rfl

/-- If it compiles, what it states does. -/
theorem plain_rows_ok (made : request.plainRows table = .ok rows) : ∃ conditions,
    statedConditions request.criteria request.partition table none = .ok conditions ∧
      rows = table.rowsQuery (Expression.conjunction? conditions) := by
  rw [plain_rows_eq] at made
  obtain ⟨conditions, stated, same⟩ := map_ok made
  exact ⟨conditions, stated, same.symm⟩

/-! ### Order -/

/-- The columns by which a request sorts, with their directions. -/
def sortPairs (request : Request) : List (String × Direction) :=
  (request.sort.map SortOrder.pairs).getD []

/-- A sort decides the order. -/
theorem ordering_sorting (sorts : request.sort = some sort) :
    request.ordering table = sort.orderKeys table request.source := by
  rw [ordering, sorts]

/-- Without a sort the rank decides where there is a term. -/
theorem ordering_asking (unsorted : request.sort = none) (asks : request.term = some term) :
    request.ordering table = .ok [⟨.column (some shadowAlias) "rank", none⟩] := by
  rw [ordering, unsorted, asks]

/-- With neither of them there is no order. -/
theorem ordering_plain (unsorted : request.sort = none) (plain : request.term = none) :
    request.ordering table = .ok [] := by
  rw [ordering, unsorted, plain]

/-- The order of a request is by columns of the table, by the rank, or there is none. -/
theorem ordering_ok (made : request.ordering table = .ok keys) :
    (∃ sort, request.sort = some sort ∧ sort.pairs ≠ [] ∧
        (∀ pair ∈ sort.pairs, table.hasColumn pair.1 = true) ∧
        keys = sort.pairs.map fun pair => ⟨.column request.source pair.1, some pair.2⟩) ∨
      (request.sort = none ∧ (∃ term, request.term = some term) ∧
        keys = [⟨.column (some shadowAlias) "rank", none⟩]) ∨
      (request.sort = none ∧ request.term = none ∧ keys = []) := by
  cases sorts : request.sort with
  | some sort =>
    rw [ordering_sorting sorts] at made
    exact .inl ⟨sort, rfl, Table.order_keys_ok made⟩
  | none =>
    cases asks : request.term with
    | some term =>
      rw [ordering_asking sorts asks] at made
      cases made
      exact .inr (.inl ⟨rfl, ⟨term, rfl⟩, rfl⟩)
    | none =>
      rw [ordering_plain sorts asks] at made
      cases made
      exact .inr (.inr ⟨rfl, rfl, rfl⟩)

/-- A request that sorts does so by columns of the table. -/
theorem sort_pairs_known (made : request.ordering table = .ok keys) :
    ∀ pair ∈ request.sortPairs, table.hasColumn pair.1 = true := by
  unfold sortPairs
  obtain ⟨sort, sorts, -, known, -⟩ | ⟨unsorted, -⟩ | ⟨unsorted, -⟩ := ordering_ok made
  · rw [sorts]
    exact known
  · rw [unsorted]
    nofun
  · rw [unsorted]
    nofun

/-! ### Queries -/

/-- The query for the number of rows asks for a count of the rows that are meant. -/
theorem counting_eq (request : Request) (table : Table) :
    request.counting table = (request.rows table).map fun rows =>
      { rows with columns := [.computed .countRows none "COUNT(*)"] } := by
  unfold counting
  cases request.rows table <;> rfl

/-- The query that counts is for the rows of the request. -/
theorem counting_ok (made : request.counting table = .ok query) :
    ∃ rows, request.rows table = .ok rows ∧
      query = { rows with columns := [.computed .countRows none "COUNT(*)"] } := by
  rw [counting_eq] at made
  obtain ⟨rows, rowsMade, same⟩ := map_ok made
  exact ⟨rows, rowsMade, same.symm⟩

/-- A request whose rows compile finds if its order does. -/
theorem finding_of_rows (made : request.rows table = .ok rows) (page : Page) :
    request.finding table page = (request.ordering table).map fun keys => { rows with
      columns := resultColumns table request.source
      ordering := keys
      limit := some (.operand (.integer page.limit))
      offset := some (.operand (.integer page.offset)) } := by
  unfold finding
  rw [made]
  cases request.ordering table <;> rfl

/-- The query for a page is for the rows of the request, in its order. -/
theorem finding_ok (made : request.finding table page = .ok query) :
    ∃ rows keys, request.rows table = .ok rows ∧ request.ordering table = .ok keys ∧
      query = { rows with
        columns := resultColumns table request.source
        ordering := keys
        limit := some (.operand (.integer page.limit))
        offset := some (.operand (.integer page.offset)) } := by
  obtain ⟨rows, rowsMade, -⟩ := bind_ok made
  rw [finding_of_rows rowsMade] at made
  obtain ⟨keys, keysMade, same⟩ := map_ok made
  exact ⟨rows, keys, rowsMade, keysMade, same.symm⟩

/-- What keeps the rows from being compiled keeps the request from finding. -/
theorem finding_of_refused {problem : StoreError}
    (refused : request.counting table = .error problem)
    (page : Page) : request.finding table page = .error problem := by
  unfold finding
  rw [counting_eq] at refused
  cases made : request.rows table with
  | error other =>
    rw [made] at refused
    cases refused
    rfl
  | ok rows =>
    rw [made] at refused
    cases refused

/-- A request that counts finds a page if its order compiles. -/
theorem finding_is_ok_eq (request : Request) (table : Table) (page : Page) :
    (request.finding table page).isOk =
      ((request.counting table).isOk && (request.ordering table).isOk) := by
  cases counts : request.counting table with
  | error problem =>
    rw [finding_of_refused counts]
    rfl
  | ok query =>
    obtain ⟨rows, made, -⟩ := counting_ok counts
    rw [finding_of_rows made]
    cases request.ordering table <;> rfl

end Request

end RecordStore
