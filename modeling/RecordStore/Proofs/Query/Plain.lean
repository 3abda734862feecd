import RecordStore.Proofs.Engine.Visibility
import RecordStore.Proofs.Query.Over
import RecordStore.Proofs.Query.Requests
import RecordStore.Proofs.Sql.Places
import RecordStore.Proofs.Store.Tables

/-!
# What a plain request means

A request without a term compiles to a query of its table alone. The text of the query, run with
the values of its operands, answers with the rows that meet the request: sorted as the request
sorts and cut to the page, or counted.
-/

namespace RecordStore

open Engine Sql

/-- The columns of a table under the name of a source. -/
def Table.NamesUnder (table : Table) (source : Option String) (given : Option String)
    (name : String) : Prop :=
  given = source ∧ table.hasColumn name = true

/-- A query of a table alone, under one condition or none. -/
structure Table.IsAskedBy (table : Table) (condition : Option Condition) (query : Select Stored) :
    Prop extends query.IsOver (table.NamesUnder none) where
  source : query.source = some ⟨table.name, none⟩
  joins : query.joins = []
  conditions : query.conditions = condition.map fun condition => [condition]

/-- A query reads the rows of a relation in some order. -/
theorem Engine.rows_read_perm (query : Select Stored) (relation : Relation) :
    (rowsRead query relation).Perm relation.rows := by
  unfold rowsRead
  split
  · split
    · exact List.mergeSort_perm _ _
    · exact .refl _
  · exact .refl _

namespace Table.IsAskedBy

variable {table : Table} {condition : Option Condition} {query : Select Stored}
  {database : Database} {relation : Relation}

/-- Other operands leave it a query of the table. -/
theorem map_operands (asked : table.IsAskedBy condition query) (replace : Stored → Stored) :
    table.IsAskedBy (condition.map (Expression.mapOperands replace))
      (query.mapOperands replace) where
  toIsOver := asked.toIsOver.map_operands replace
  source := asked.source
  joins := by
    simp only [Select.mapOperands, asked.joins]
    rfl
  conditions := by
    simp only [Select.mapOperands, asked.conditions]
    cases condition <;> rfl

/-- The only source of such a query is its table. -/
theorem sources (asked : table.IsAskedBy condition query) :
    Engine.sources query = [⟨table.name, none⟩] := by
  simp [Engine.sources, asked.source, asked.joins]

/-- The query is accepted if its condition is about columns of the table. -/
theorem checked (asked : table.IsAskedBy condition query)
    (held : table.IsReadIn database relation)
    (within : ∀ whole ∈ condition, whole.Within (table.NamesUnder none)) :
    checkSelect database query = .ok () := by
  have accepts : Accepts [relation.names table.name] (table.NamesUnder none) := by
    rintro _ name ⟨rfl, known⟩
    exact check_column_only rfl (held.names_lookup? table.name known)
  have found : (Engine.sources query).mapM (sourceNames database) =
      .ok [relation.names table.name] := by
    rw [asked.sources]
    simp [sourceNames, held.readable?, Source.name, bind, Except.bind, pure, Except.pure]
  refine asked.toIsOver.checked found accepts (fun join member => ?_) ?_
  · rw [asked.joins] at member
    cases member
  · rw [asked.conditions]
    cases condition with
    | none => rfl
    | some whole =>
      refine for_m_ok fun part member => ?_
      cases List.mem_singleton.mp member
      exact check_condition_ok accepts (within whole rfl)

/-- The scopes of the query are the rows on which its condition holds. -/
theorem scopes (asked : table.IsAskedBy condition query)
    (held : table.IsReadIn database relation) {meets : Row → Bool}
    (decides : ∀ row ∈ relation.rows,
      condition.all (holds [relation.binding table.name row]) = meets row) :
    Engine.scopes database query =
      .ok (((rowsRead query relation).filter meets).map fun row =>
        [relation.binding table.name row]) := by
  have rows : bindings database query ⟨table.name, none⟩ =
      .ok ((rowsRead query relation).map (relation.binding table.name)) := by
    unfold bindings
    rw [held.readable?]
    rfl
  have kept : ∀ row ∈ rowsRead query relation,
      allHold [relation.binding table.name row] query.conditions = meets row := by
    intro row member
    rw [← decides row ((rows_read_perm query relation).subset member), asked.conditions]
    cases condition <;> simp [allHold]
  unfold Engine.scopes
  simp only [asked.source, rows, asked.joins, bind, Except.bind, pure, Except.pure,
    List.foldlM_nil, List.map_map]
  rw [List.filter_map]
  exact congrArg _ (congrArg _ (List.filter_congr kept))

/-- The query is read back from its text if its condition is. -/
theorem written (asked : table.IsAskedBy condition query) (faultless : table.fault? = none)
    (readBack : ∀ whole ∈ condition, whole.Written 0) : query.Written := by
  obtain ⟨identifier, -, named⟩ := identifiers_of_fault? faultless
  refine asked.toIsOver.written ?_ ⟨_, asked.source, is_name_of_is_identifier identifier, nofun⟩
    (fun join member => ?_) fun given member => ?_
  · rintro _ name ⟨rfl, known⟩
    exact ⟨nofun, named name (mem_column_names_of_has_column known)⟩
  · rw [asked.joins] at member
    cases member
  · rw [asked.conditions] at member
    obtain ⟨whole, among, rfl⟩ := Option.map_eq_some_iff.mp member
    exact ⟨whole, rfl, readBack whole among⟩

/-- Without the number of rows the query is not about groups of rows. -/
theorem ungrouped (asked : table.IsAskedBy condition query)
    (columns : .computed .countRows none "COUNT(*)" ∉ query.columns)
    (within : ∀ whole ∈ condition, whole.Within (table.NamesUnder none)) :
    answersForGroups query = false := by
  refine asked.toIsOver.ungrouped columns fun part member => ?_
  rw [asked.conditions] at member
  cases condition with
  | none => cases member
  | some whole =>
    have among : part ∈ conjuncts whole := by simpa [clauseConjuncts] using member
    exact within_not_aggregated (within_conjuncts (within whole rfl) part among)

end Table.IsAskedBy

/-! ### The queries of a plain request -/

/-- The columns that are asked for have no operands to replace. -/
theorem Request.result_columns_map_operands (table : Table) (source : Option String)
    (replace : Stored → Stored) :
    (Request.resultColumns table source).map (ResultColumn.mapOperands replace) =
      Request.resultColumns table source := by
  simp [Request.resultColumns, ResultColumn.mapOperands, Expression.mapOperands, Function.comp_def]

/-- The columns of a table are not the number of its rows. -/
theorem Request.count_rows_not_mem (table : Table) (source : Option String) :
    .computed .countRows none "COUNT(*)" ∉ Request.resultColumns table source := by
  intro member
  obtain ⟨name, -, column⟩ := List.mem_map.mp member
  cases column

namespace Table

/-- The query for a page of the rows under a condition. -/
def pageQuery (table : Table) (condition : Option Condition) (pairs : List (String × Direction))
    (limit offset : Stored) : Select Stored where
  columns := Request.resultColumns table none
  source := some ⟨table.name, none⟩
  conditions := condition.map fun condition => [condition]
  ordering := pairs.map fun pair => ⟨.column none pair.1, some pair.2⟩
  limit := some (.operand limit)
  offset := some (.operand offset)

/-- The query for the number of rows under a condition. -/
def countQuery (table : Table) (condition : Option Condition) : Select Stored where
  columns := [.computed .countRows none "COUNT(*)"]
  source := some ⟨table.name, none⟩
  conditions := condition.map fun condition => [condition]

variable {table : Table} {condition : Option Condition} {pairs : List (String × Direction)}
  {limit offset : Stored}

/-- The query for a page asks the table alone, under its condition. -/
theorem page_query_asked (nonempty : table.columns ≠ [])
    (known : ∀ pair ∈ pairs, table.hasColumn pair.1 = true) :
    table.IsAskedBy condition (table.pageQuery condition pairs limit offset) where
  distinct := rfl
  nonempty := by simpa [pageQuery, Request.resultColumns, columnNames] using nonempty
  columns column member := by
    obtain ⟨name, among, rfl⟩ := List.mem_map.mp member
    exact .inr ⟨none, name, ⟨rfl, has_column_of_mem among⟩, rfl⟩
  source := rfl
  joins := rfl
  conditions := rfl
  grouping := rfl
  having := rfl
  ordering key member := by
    obtain ⟨pair, among, rfl⟩ := List.mem_map.mp member
    exact ⟨none, pair.1, ⟨rfl, known pair among⟩, rfl⟩
  window := .inr ⟨limit, offset, rfl, rfl⟩

/-- The query for the number of rows asks the table alone, under its condition. -/
theorem count_query_asked : table.IsAskedBy condition (table.countQuery condition) where
  distinct := rfl
  nonempty := List.cons_ne_nil _ _
  columns _ member := .inl (List.mem_singleton.mp member)
  source := rfl
  joins := rfl
  conditions := rfl
  grouping := rfl
  having := rfl
  ordering := nofun
  window := .inl ⟨rfl, rfl⟩

/-- The operands of the query for a page are those of its condition and its window. -/
theorem page_query_map_operands (replace : Stored → Stored) :
    (table.pageQuery condition pairs limit offset).mapOperands replace =
      table.pageQuery (condition.map (Expression.mapOperands replace)) pairs (replace limit)
        (replace offset) := by
  have keys : (table.pageQuery condition pairs limit offset).ordering.map
        (fun key => (⟨key.expression.mapOperands replace, key.direction⟩ : OrderKey Stored)) =
      (table.pageQuery condition pairs limit offset).ordering := by
    simp [pageQuery, Expression.mapOperands, Function.comp_def]
  unfold Select.mapOperands
  rw [keys]
  unfold pageQuery
  rw [Request.result_columns_map_operands]
  cases condition <;> rfl

/-- The operands of the query for the number of rows are those of its condition. -/
theorem count_query_map_operands (replace : Stored → Stored) :
    (table.countQuery condition).mapOperands replace =
      table.countQuery (condition.map (Expression.mapOperands replace)) := by
  unfold Select.mapOperands countQuery
  cases condition <;> rfl

end Table

namespace Request

variable {request : Request} {table : Table}

/-- A plain request that compiles for one page compiles for every page, and for counting, under the
same conditions. -/
theorem plain_compiles (plain : request.term = none) {page : Page} {query : Select Stored}
    (accepted : request.finding table page = .ok query) :
    ∃ conditions, statedConditions request.criteria request.partition table none = .ok conditions ∧
      (∀ pair ∈ request.sortPairs, table.hasColumn pair.1 = true) ∧
      (∀ page : Page, request.finding table page =
        .ok (table.pageQuery (Expression.conjunction? conditions) request.sortPairs
          (.integer page.limit) (.integer page.offset))) ∧
      request.counting table = .ok (table.countQuery (Expression.conjunction? conditions)) := by
  obtain ⟨rows, keys, rowsMade, keysMade, -⟩ := finding_ok accepted
  have compiled := rowsMade
  rw [rows_plain plain] at compiled
  obtain ⟨conditions, stated, rfl⟩ := plain_rows_ok compiled
  have keysAre : keys = request.sortPairs.map fun pair => ⟨.column none pair.1, some pair.2⟩ := by
    unfold sortPairs
    obtain ⟨sort, sorts, -, -, rfl⟩ | ⟨-, ⟨term, asks⟩, -⟩ | ⟨unsorted, -, rfl⟩ :=
      ordering_ok keysMade
    · rw [sorts, source_plain plain]
      rfl
    · cases plain.symm.trans asks
    · rw [unsorted]
      rfl
  refine ⟨conditions, stated, sort_pairs_known keysMade, fun page => ?_, ?_⟩
  · rw [finding_of_rows rowsMade, keysMade, source_plain plain, keysAre]
    rfl
  · rw [counting_eq, rowsMade]
    rfl

end Request

end RecordStore
